import OntologyLint.Proofs.Text.Fields
import OntologyLint.Proofs.Text.Numerals

set_option autoImplicit false

/-! Texts in quotes can be read back. Each character has at most three spellings between quotes: itself,
an escape by a mark, and its code. No spelling is the beginning of another one, and none begins with a
quote, so a text and what follows its closing quote are told by the whole, whichever characters are
written by their codes. -/

namespace OntologyLint.Text

def markedChars : List (Char × Char) :=
  [('\x00', '0'), ('\t', 't'), ('\r', 'r'), ('\n', 'n'), ('\\', '\\'), ('"', '"')]

/-- The ways to write a character between quotes. -/
inductive Spelling (char : Char) : List Char → Prop
  | itself (noEscape : char ≠ '\\') (noQuote : char ≠ '"') : Spelling char [char]
  | marked (mark : Char) (listed : (char, mark) ∈ markedChars) : Spelling char ['\\', mark]
  | coded : Spelling char (['\\', 'u', '\x7b'] ++ hexCode char ++ ['\x7d'])

/-- A character between quotes, where the characters that are shown as themselves are given. -/
def quotedCharBy (visible : Char → Bool) (char : Char) : List Char :=
  if char = '\x00' then ['\\', '0']
  else if char = '\t' then ['\\', 't']
  else if char = '\r' then ['\\', 'r']
  else if char = '\n' then ['\\', 'n']
  else if char = '\\' then ['\\', '\\']
  else if char = '"' then ['\\', '"']
  else if visible char then [char]
  else ['\\', 'u', '\x7b'] ++ hexCode char ++ ['\x7d']

def quotedBy (visible : Char → Bool) (text : String) : String :=
  String.ofList ('"' :: text.toList.flatMap (quotedCharBy visible) ++ ['"'])

theorem quoted_eq_quotedBy (text : String) : quoted text = quotedBy isVisible text := rfl

variable {visible : Char → Bool} {char other : Char} {spelling spelled rest tail : List Char}

theorem spelling_quotedCharBy (visible : Char → Bool) (char : Char) :
    Spelling char (quotedCharBy visible char) := by
  unfold quotedCharBy
  iterate 6
    split
    · rename_i same
      subst same
      exact .marked _ (by decide)
  split
  · rename_i noEscape noQuote _
    exact .itself noEscape noQuote
  · exact .coded

theorem marked_unique : ∀ one ∈ markedChars, ∀ other ∈ markedChars, one.2 = other.2 → one = other := by
  decide

theorem marked_ne_code : ∀ pair ∈ markedChars, pair.2 ≠ 'u' := by decide

theorem hexCode_inj (same : hexCode char = hexCode other) : char = other :=
  Char.toNat_inj.1 (toDigits_inj (by decide) (by decide) same)

theorem brace_not_mem_hexCode (char : Char) : '\x7d' ∉ hexCode char :=
  not_mem_toDigits (by decide) (by decide) (by decide)

/-- No spelling is the beginning of another one, and no two characters share one. -/
theorem Spelling.unique (one : Spelling char spelling) (two : Spelling other spelled)
    (same : spelling ++ rest = spelled ++ tail) : char = other ∧ rest = tail := by
  cases one with
  | itself noEscape _ =>
      cases two with
      | itself => exact List.cons.inj same
      | marked => exact absurd (List.cons.inj same).1 noEscape
      | coded => exact absurd (List.cons.inj same).1 noEscape
  | marked mark listed =>
      cases two with
      | itself noEscape _ => exact absurd (List.cons.inj same).1.symm noEscape
      | marked otherMark otherListed =>
          obtain ⟨marks, rests⟩ := List.cons.inj (List.cons.inj same).2
          have pairs := marked_unique _ listed _ otherListed marks
          exact ⟨congrArg Prod.fst pairs, rests⟩
      | coded =>
          have marks : mark = 'u' := (List.cons.inj (List.cons.inj same).2).1
          exact absurd marks (marked_ne_code _ listed)
  | coded =>
      cases two with
      | itself noEscape _ => exact absurd (List.cons.inj same).1.symm noEscape
      | marked mark listed =>
          have marks : 'u' = mark := (List.cons.inj (List.cons.inj same).2).1
          exact absurd marks.symm (marked_ne_code _ listed)
      | coded =>
          simp only [List.append_assoc, List.append_cancel_left_eq] at same
          obtain ⟨codes, rests⟩ := (append_separator_inj (brace_not_mem_hexCode char)
            (brace_not_mem_hexCode other)).1 same
          exact ⟨hexCode_inj codes, rests⟩

/-- No spelling begins with a quote, so none is taken for the end of the text. -/
theorem Spelling.ne_quote (one : Spelling char spelling) : spelling ++ rest ≠ '"' :: tail := by
  intro same
  cases one with
  | itself _ noQuote => exact noQuote (List.cons.inj same).1
  | marked => exact absurd (List.cons.inj same).1 (by decide)
  | coded => exact absurd (List.cons.inj same).1 (by decide)

/-- The text between quotes and what follows the closing quote are told by the whole. -/
theorem flatMap_quotedCharBy_inj {text more : List Char}
    (same : text.flatMap (quotedCharBy visible) ++ '"' :: rest =
      more.flatMap (quotedCharBy visible) ++ '"' :: tail) : text = more ∧ rest = tail := by
  induction text generalizing more with
  | nil =>
      cases more with
      | nil => exact ⟨rfl, (List.cons.inj same).2⟩
      | cons head more =>
          rw [List.flatMap_cons, List.append_assoc] at same
          exact absurd same.symm (spelling_quotedCharBy visible head).ne_quote
  | cons char text ih =>
      rw [List.flatMap_cons, List.append_assoc] at same
      cases more with
      | nil => exact absurd same (spelling_quotedCharBy visible char).ne_quote
      | cons head more =>
          rw [List.flatMap_cons, List.append_assoc] at same
          obtain ⟨heads, later⟩ := (spelling_quotedCharBy visible char).unique
            (spelling_quotedCharBy visible head) same
          obtain ⟨texts, rests⟩ := ih later
          exact ⟨by rw [heads, texts], rests⟩

theorem quotedBy_append_inj {text more : String}
    (same : (quotedBy visible text).toList ++ rest = (quotedBy visible more).toList ++ tail) :
    text = more ∧ rest = tail := by
  simp only [quotedBy, String.toList_ofList, List.cons_append, List.append_assoc, List.nil_append,
    List.cons.injEq, true_and] at same
  obtain ⟨texts, rests⟩ := flatMap_quotedCharBy_inj same
  exact ⟨String.toList_inj.1 texts, rests⟩

end OntologyLint.Text
