import OntologyLint.Proofs.Text.Grammar
import OntologyLint.Text.Blank

set_option autoImplicit false

/-! Blanks around a text. What stands between them keeps its own ends, so that trimming gives back a
text that neither begins nor ends with a blank. -/

namespace OntologyLint

open Grammar
open scoped Computability

def Grammar.blanks : Language Char := (oneOf (fun char => Text.isBlank char = true))∗

namespace Text

variable {text front core back : List Char}

theorem isBlank_of_isDigit {char : Char} (digit : char.isDigit = true) : isBlank char = false := by
  have bounds : 48 ≤ char.toNat ∧ char.toNat ≤ 57 := by
    rw [isDigit_iff] at digit
    exact digit
  simp [isBlank]
  omega

theorem mem_blanks : text ∈ blanks ↔ ∀ char ∈ text, isBlank char = true := mem_oneOf_kstar

theorem reverse_mem_blanks (blank : text ∈ blanks) : text.reverse ∈ blanks := by
  rw [mem_blanks] at blank ⊢
  intro char member
  exact blank char (List.mem_reverse.1 member)

theorem takeWhile_mem_blanks (text : List Char) : text.takeWhile isBlank ∈ blanks := by
  rw [mem_blanks]
  intro char member
  exact List.mem_takeWhile_imp member

/-- The text does not begin with a blank; it is not empty. -/
def Visible (text : List Char) : Prop := text ≠ [] ∧ ∀ char ∈ text.head?, isBlank char = false

theorem visible_cons {char : Char} (bare : isBlank char = false) (text : List Char) :
    Visible (char :: text) := by
  simpa [Visible] using bare

theorem visible_append (visible : Visible text) (back : List Char) : Visible (text ++ back) := by
  obtain ⟨some, bare⟩ := visible
  refine ⟨by simp [some], ?_⟩
  rw [List.head?_append_of_ne_nil _ some]
  exact bare

theorem visible_of_numeral (numeral : Numeral text) : Visible text := by
  refine ⟨numeral.1, ?_⟩
  intro char first
  exact isBlank_of_isDigit (numeral.isDigit char (List.mem_of_head? first))

theorem dropWhile_blanks (blank : front ∈ blanks) (visible : Visible back) :
    (front ++ back).dropWhile isBlank = back := by
  have spanned : (front ++ back).span isBlank = (front, back) :=
    span_eq_iff.2 ⟨rfl, mem_blanks.1 blank, visible.2⟩
  rw [List.span_eq_takeWhile_dropWhile] at spanned
  exact congrArg Prod.snd spanned

theorem trim_blanks (before : front ∈ blanks) (after : back ∈ blanks) (begins : Visible core)
    (ends : Visible core.reverse) : trim (front ++ core ++ back) = core := by
  have opened : (front ++ core ++ back).dropWhile isBlank = core ++ back := by
    rw [List.append_assoc]
    exact dropWhile_blanks before (visible_append begins back)
  rw [trim, opened, List.reverse_append, dropWhile_blanks (reverse_mem_blanks after) ends,
    List.reverse_reverse]

theorem exists_trim (text : List Char) :
    ∃ front ∈ blanks, ∃ back ∈ blanks, text = front ++ trim text ++ back := by
  obtain ⟨inner, opened⟩ : ∃ inner, text.dropWhile isBlank = inner := ⟨_, rfl⟩
  refine ⟨_, takeWhile_mem_blanks text, _, reverse_mem_blanks (takeWhile_mem_blanks inner.reverse),
    ?_⟩
  have closed : inner = trim text ++ (inner.reverse.takeWhile isBlank).reverse := by
    rw [trim, opened, ← List.reverse_append, List.takeWhile_append_dropWhile, List.reverse_reverse]
  rw [List.append_assoc, ← closed, ← opened, List.takeWhile_append_dropWhile]

end Text

end OntologyLint
