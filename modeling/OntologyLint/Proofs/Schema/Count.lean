import OntologyLint.Proofs.Text.Blank
import OntologyLint.Schema.Count

set_option autoImplicit false

/-! The counts of restrictions are read off exactly the texts of their grammar, and every other text
is refused. -/

namespace OntologyLint

open Grammar
open scoped Computability

/-- The numerals of a number, with any number of zeros in front. -/
def Grammar.denoting (value : Nat) : Language Char :=
  {word | Numeral word ∧ decimalValue word = value}

def Grammar.count (value : Nat) : Language Char :=
  blanks * (maybe (mark '+') * denoting value) * blanks

def WritesCount (text : String) (value : Nat) : Prop :=
  value < 2 ^ 64 ∧ text.toList ∈ Grammar.count value

namespace Count

variable {text : List Char} {value : Nat}

theorem afterPlus_iff : afterPlus text ∈ denoting value ↔
    text ∈ maybe (mark '+') * denoting value := by
  rw [mark, mem_maybe_oneOf_mul]
  cases text with
  | nil => simp [afterPlus]
  | cons first rest =>
      by_cases plus : first = '+'
      · subst plus
        have signed : '+' :: rest ∉ denoting value := by
          intro member
          have digit := member.1.isDigit '+' List.mem_cons_self
          revert digit
          decide
        simp [afterPlus, signed]
      · simp [afterPlus, plus]

theorem visible_unspaced (member : text ∈ maybe (mark '+') * denoting value) :
    Text.Visible text := by
  rw [mark, mem_maybe_oneOf_mul] at member
  cases member with
  | inl plain => exact Text.visible_of_numeral plain.1
  | inr signed =>
      obtain ⟨_, rest, plus, _numeral, same⟩ := signed
      subst plus
      subst same
      exact Text.visible_cons (by decide) rest

theorem visible_reverse (member : text ∈ maybe (mark '+') * denoting value) :
    Text.Visible text.reverse := by
  obtain ⟨front, _signed, digits, numeral, joined⟩ := Language.mem_mul.1 member
  have backwards : Numeral digits.reverse := by
    refine ⟨by simp [numeral.1.1], ?_⟩
    intro digit within
    exact numeral.1.2 digit (List.mem_reverse.1 within)
  rw [← joined, List.reverse_append]
  exact Text.visible_append (Text.visible_of_numeral backwards) _

theorem mem_count : text ∈ Grammar.count value ↔
    Text.trim text ∈ maybe (mark '+') * denoting value := by
  constructor
  · intro member
    obtain ⟨padded, left, back, after, joined⟩ := Language.mem_mul.1 member
    obtain ⟨front, before, core, inside, opened⟩ := Language.mem_mul.1 left
    rw [← joined, ← opened,
      Text.trim_blanks before after (visible_unspaced inside) (visible_reverse inside)]
    exact inside
  · intro member
    obtain ⟨front, before, back, after, joined⟩ := Text.exists_trim text
    rw [joined]
    exact append_mem_mul (append_mem_mul before member) after

theorem read?_iff {text : String} : read? text = some value ↔ WritesCount text value := by
  have numeral : Text.isNumeral (afterPlus (Text.trim text.toList)) = true ∧
      Text.ofDigits (afterPlus (Text.trim text.toList)) = value ↔
        text.toList ∈ Grammar.count value := by
    rw [mem_count, ← afterPlus_iff, isNumeral_iff, ofDigits_eq_decimalValue]
    rfl
  rw [WritesCount, ← numeral, read?, Option.ite_none_right_eq_some, Option.some.injEq]
  constructor
  · intro read
    obtain ⟨⟨digits, small⟩, same⟩ := read
    rw [same] at small
    exact ⟨small, digits, same⟩
  · intro read
    obtain ⟨small, digits, same⟩ := read
    rw [same]
    exact ⟨⟨digits, small⟩, rfl⟩

theorem read?_eq_none {text : String} : read? text = none ↔ ∀ value, ¬WritesCount text value := by
  rw [Option.eq_none_iff_forall_ne_some]
  exact forall_congr' (fun _ => not_congr read?_iff)

end Count

end OntologyLint
