import Mathlib.Data.Int.ConditionallyCompleteOrder
import Mathlib.Data.List.Induction
import Mathlib.Data.Nat.Digits.Defs
import OntologyLint.Proofs.Datatype.Conformance

set_option autoImplicit false

/-! The integer datatypes, decided as over the integers. Reading in 128 bits either gives the integer
that a numeral denotes or stops because that integer does not fit, for the digits only lead away from
zero. What does not fit is beyond every bound on its side that is not the end of the 128 bits. -/

namespace OntologyLint

section Numerals

/-- One or more of the ten decimal digits. -/
def Numeral (digits : List Char) : Prop :=
  digits ≠ [] ∧ ∀ digit ∈ digits, '0' ≤ digit ∧ digit ≤ '9'

/-- The number of a numeral, whose last digit counts the units. -/
def decimalValue (digits : List Char) : Nat :=
  Nat.ofDigits 10 (digits.map Text.digitValue).reverse

/-- A numeral with an optional sign, and the integer that it stands for. -/
inductive Denotes : List Char → Int → Prop
  | unsigned (digits : List Char) (numeral : Numeral digits) : Denotes digits (decimalValue digits)
  | plus (digits : List Char) (numeral : Numeral digits) :
      Denotes ('+' :: digits) (decimalValue digits)
  | minus (digits : List Char) (numeral : Numeral digits) :
      Denotes ('-' :: digits) (-decimalValue digits)

variable {text digits : List Char} {value : Int}

theorem ofDigits_eq_decimalValue (digits : List Char) :
    Text.ofDigits digits = decimalValue digits := by
  induction digits using List.reverseRecOn with
  | nil => rfl
  | append_singleton digits digit ih =>
      have shifted : Text.ofDigits (digits ++ [digit]) =
          10 * Text.ofDigits digits + Text.digitValue digit := by
        simp [Text.ofDigits]
      have placed : decimalValue (digits ++ [digit]) =
          Text.digitValue digit + 10 * decimalValue digits := by
        simp [decimalValue, Nat.ofDigits_cons]
      omega

theorem isNumeral_iff : Text.isNumeral digits = true ↔ Numeral digits := by
  have decimal (digit : Char) : digit.isDigit = true ↔ '0' ≤ digit ∧ digit ≤ '9' := by
    simp [Char.isDigit, Char.le_def]
  simp [Text.isNumeral, Numeral, decimal]

def signed (negative : Bool) (magnitude : Nat) : Int :=
  if negative then -magnitude else magnitude

theorem signed_true (magnitude : Nat) : signed true magnitude = -magnitude := rfl

theorem signed_false (magnitude : Nat) : signed false magnitude = magnitude := rfl

theorem afterSign_of_numeral (numeral : Numeral digits) :
    Text.afterSign digits = digits ∧ (digits.head? == some '-') = false := by
  cases digits with
  | nil => exact absurd rfl numeral.1
  | cons digit rest =>
      have first := numeral.2 digit List.mem_cons_self
      have positive : digit ≠ '-' := by
        intro minus
        subst minus
        revert first
        decide
      have unmarked : digit ≠ '+' := by
        intro plus
        subst plus
        revert first
        decide
      simp [Text.afterSign, Text.isSign, positive, unmarked]

theorem denotes_iff :
    Denotes text value ↔ Numeral (Text.afterSign text) ∧
      value = signed (text.head? == some '-') (Text.ofDigits (Text.afterSign text)) := by
  simp only [ofDigits_eq_decimalValue]
  constructor
  · intro denotes
    cases denotes with
    | unsigned _ numeral =>
        obtain ⟨digits, positive⟩ := afterSign_of_numeral numeral
        rw [digits, positive]
        exact ⟨numeral, rfl⟩
    | plus digits numeral => exact ⟨numeral, rfl⟩
    | minus digits numeral => exact ⟨numeral, rfl⟩
  · intro read
    obtain ⟨numeral, same⟩ := read
    subst same
    cases text with
    | nil => exact absurd rfl numeral.1
    | cons char rest =>
        by_cases minus : char = '-'
        · subst minus
          exact .minus rest numeral
        · by_cases plus : char = '+'
          · subst plus
            exact .plus rest numeral
          · have digits : Text.afterSign (char :: rest) = char :: rest := by
              simp [Text.afterSign, Text.isSign, minus, plus]
            have positive : ((char :: rest).head? == some '-') = false := by simp [minus]
            rw [digits] at numeral ⊢
            rw [positive]
            exact .unsigned _ numeral

end Numerals

namespace WideInteger

variable {text : List Char}

def Fits (value : Int) : Prop := least ≤ value ∧ value ≤ greatest

theorem fit?_of_fits {value : Int} (fits : Fits value) : fit? value = some value := if_pos fits

theorem fit?_of_not_fits {value : Int} (beyond : ¬Fits value) : fit? value = none := if_neg beyond

theorem fits_iff {value : Int} : Fits value ↔
    -170141183460469231731687303715884105728 ≤ value ∧
      value ≤ 170141183460469231731687303715884105727 := by
  have bottom : least = -170141183460469231731687303715884105728 := by decide
  have top : greatest = 170141183460469231731687303715884105727 := by decide
  rw [Fits, bottom, top]

theorem fits_of_le {negative : Bool} {smaller larger : Nat} (within : smaller ≤ larger)
    (fits : Fits (signed negative larger)) : Fits (signed negative smaller) := by
  rw [fits_iff] at fits ⊢
  cases negative with
  | true => rw [signed_true] at fits ⊢; omega
  | false => rw [signed_false] at fits ⊢; omega

theorem append?_signed (negative : Bool) (magnitude : Nat) (digit : Char) :
    append? negative (signed negative magnitude) digit =
      fit? (signed negative (10 * magnitude + Text.digitValue digit)) := by
  have shifted : 10 * signed negative magnitude = signed negative (10 * magnitude) := by
    cases negative with
    | true => rw [signed_true, signed_true]; omega
    | false => rw [signed_false, signed_false]; omega
  have extended : (if negative = true then signed negative (10 * magnitude) - Text.digitValue digit
      else signed negative (10 * magnitude) + Text.digitValue digit) =
        signed negative (10 * magnitude + Text.digitValue digit) := by
    cases negative with
    | true => rw [if_pos rfl, signed_true, signed_true]; omega
    | false => rw [if_neg Bool.false_ne_true, signed_false, signed_false]; omega
  rw [append?, shifted]
  by_cases fits : Fits (signed negative (10 * magnitude))
  · rw [fit?_of_fits fits, Option.bind_eq_bind, Option.bind_some, extended]
  · -- The digit leads further away from zero, so it does not help.
    have beyond : ¬Fits (signed negative (10 * magnitude + Text.digitValue digit)) :=
      fun larger => fits (fits_of_le (Nat.le_add_right _ _) larger)
    rw [fit?_of_not_fits fits, fit?_of_not_fits beyond]
    rfl

theorem le_foldl_digits (digits : List Char) (magnitude : Nat) :
    magnitude ≤ digits.foldl (fun value digit => 10 * value + Text.digitValue digit) magnitude := by
  induction digits generalizing magnitude with
  | nil => exact Nat.le_refl magnitude
  | cons digit rest ih =>
      have later := ih (10 * magnitude + Text.digitValue digit)
      rw [List.foldl_cons]
      omega

/-- Reading digits behind a value that fits stops if and only if the value of all of them does not. -/
theorem foldlM_append? (negative : Bool) (digits : List Char) (magnitude : Nat)
    (fits : Fits (signed negative magnitude)) :
    digits.foldlM (append? negative) (signed negative magnitude) =
      fit? (signed negative
        (digits.foldl (fun value digit => 10 * value + Text.digitValue digit) magnitude)) := by
  induction digits generalizing magnitude with
  | nil => exact (fit?_of_fits fits).symm
  | cons digit rest ih =>
      rw [List.foldlM_cons, List.foldl_cons, append?_signed]
      by_cases next : Fits (signed negative (10 * magnitude + Text.digitValue digit))
      · rw [fit?_of_fits next]
        exact ih _ next
      · have beyond : ¬Fits (signed negative (rest.foldl
            (fun value digit => 10 * value + Text.digitValue digit)
            (10 * magnitude + Text.digitValue digit))) :=
          fun larger => next (fits_of_le (le_foldl_digits rest _) larger)
        rw [fit?_of_not_fits next, fit?_of_not_fits beyond]
        rfl

theorem read?_of_numeral (numeral : Numeral (Text.afterSign text)) :
    read? text =
      fit? (signed (text.head? == some '-') (Text.ofDigits (Text.afterSign text))) := by
  have zero (negative : Bool) : signed negative 0 = 0 := by cases negative <;> rfl
  have start := foldlM_append? (text.head? == some '-') (Text.afterSign text) 0
    (fits_iff.2 (by rw [zero]; decide))
  rw [zero] at start
  rw [read?, if_pos (isNumeral_iff.2 numeral), start]
  rfl

end WideInteger

section Ranges

variable {range : IntegerRange} {text : List Char}

/-- The integers of a range, which is open where it ends with the 128 bits. -/
def IntegerRange.values (range : IntegerRange) : Set Int :=
  {value | (range.least = WideInteger.least ∨ range.least ≤ value) ∧
    (range.greatest = WideInteger.greatest ∨ value ≤ range.greatest)}

theorem IntegerRange.mem_values_of_fits {value : Int} (fits : WideInteger.Fits value) :
    value ∈ range.values ↔ range.least ≤ value ∧ value ≤ range.greatest := by
  obtain ⟨above, below⟩ := fits
  rw [values, Set.mem_ofPred_eq]
  omega

/-- An integer that does not fit has only the end of its own side to respect. -/
theorem IntegerRange.mem_values_of_not_fits {negative : Bool} {magnitude : Nat}
    (beyond : ¬WideInteger.Fits (signed negative magnitude)) :
    signed negative magnitude ∈ range.values ↔
      if negative then range.least = WideInteger.least
      else range.greatest = WideInteger.greatest := by
  obtain ⟨bottom, ordered, top⟩ := range.fits
  have zero : WideInteger.least ≤ 0 ∧ 0 ≤ WideInteger.greatest := by decide
  rw [WideInteger.Fits] at beyond
  rw [values, Set.mem_ofPred_eq]
  cases negative with
  | true => rw [if_pos rfl]; rw [signed_true] at beyond ⊢; omega
  | false => rw [if_neg Bool.false_ne_true]; rw [signed_false] at beyond ⊢; omega

theorem isIntegerOf_of_numeral (numeral : Numeral (Text.afterSign text)) :
    isIntegerOf range text = true ↔
      signed (text.head? == some '-') (Text.ofDigits (Text.afterSign text)) ∈ range.values := by
  rw [isIntegerOf, isNumeral_iff.2 numeral, Bool.true_and, WideInteger.read?_of_numeral numeral]
  generalize (text.head? == some '-') = negative
  generalize Text.ofDigits (Text.afterSign text) = magnitude
  by_cases fits : WideInteger.Fits (signed negative magnitude)
  · rw [WideInteger.fit?_of_fits fits, IntegerRange.mem_values_of_fits fits]
    simp
  · rw [WideInteger.fit?_of_not_fits fits, IntegerRange.mem_values_of_not_fits fits]
    cases negative with
    | true => simp
    | false => simp

theorem isIntegerOf_iff :
    isIntegerOf range text = true ↔ ∃ value ∈ range.values, Denotes text value := by
  simp only [denotes_iff]
  constructor
  · intro accepted
    have numeral : Numeral (Text.afterSign text) :=
      isNumeral_iff.1 (Bool.and_eq_true_iff.1 accepted).1
    exact ⟨_, (isIntegerOf_of_numeral numeral).1 accepted, numeral, rfl⟩
  · intro denoted
    obtain ⟨value, inside, numeral, same⟩ := denoted
    subst same
    exact (isIntegerOf_of_numeral numeral).2 inside

end Ranges

namespace KnownDatatype

/-- The integers in the value space of an integer datatype. -/
def integers? : KnownDatatype → Option (Set Int)
  | .integer => some Set.univ
  | .nonNegativeInteger => some (Set.Ici 0)
  | .positiveInteger => some (Set.Ici 1)
  | .nonPositiveInteger => some (Set.Iic 0)
  | .negativeInteger => some (Set.Iic (-1))
  | .long => some (Set.Icc (-2 ^ 63) (2 ^ 63 - 1))
  | .int => some (Set.Icc (-2 ^ 31) (2 ^ 31 - 1))
  | .short => some (Set.Icc (-2 ^ 15) (2 ^ 15 - 1))
  | .byte => some (Set.Icc (-2 ^ 7) (2 ^ 7 - 1))
  | .unsignedLong => some (Set.Icc 0 (2 ^ 64 - 1))
  | .unsignedInt => some (Set.Icc 0 (2 ^ 32 - 1))
  | .unsignedShort => some (Set.Icc 0 (2 ^ 16 - 1))
  | .unsignedByte => some (Set.Icc 0 (2 ^ 8 - 1))
  | _ => none

/-- The ends of the 128 bits stand for no bound, and no other bound is taken for one of them. -/
theorem integerRange?_values (datatype : KnownDatatype) :
    datatype.integerRange?.map IntegerRange.values = datatype.integers? := by
  cases datatype <;>
    simp [integerRange?, integers?, IntegerRange.values, WideInteger.least, WideInteger.greatest,
      Set.ext_iff]

theorem accepts_eq_of_integerRange? {datatype : KnownDatatype} {range : IntegerRange}
    (ranged : datatype.integerRange? = some range) (text : List Char) :
    datatype.accepts text = isIntegerOf range text := by
  cases datatype <;> first | cases ranged; rfl | cases ranged

theorem accepts_integer_iff {datatype : KnownDatatype} {values : Set Int}
    (integers : datatype.integers? = some values) {text : List Char} :
    datatype.accepts text = true ↔ ∃ value ∈ values, Denotes text value := by
  rw [← integerRange?_values, Option.map_eq_some_iff] at integers
  obtain ⟨range, ranged, same⟩ := integers
  rw [accepts_eq_of_integerRange? ranged, isIntegerOf_iff, same]

end KnownDatatype

/-- The lexical space of an integer datatype is made of the numerals, of any length, for the integers
of its value space. -/
theorem integer_lexical_spaces_exact {datatype : KnownDatatype} {values : Set Int}
    (integers : datatype.integers? = some values) (lexical : String) :
    ∃ inside, inLexicalSpace? lexical datatype.iri = some inside ∧
      (inside = true ↔ ∃ value ∈ values, Denotes lexical.toList value) :=
  ⟨_, inLexicalSpace?_known rfl, KnownDatatype.accepts_integer_iff integers⟩

theorem below_wide_integers_nonPositive :
    KnownDatatype.nonPositiveInteger.integers? = some (Set.Iic 0) ∧
      inLexicalSpace? "-170141183460469231731687303715884105729"
        KnownDatatype.nonPositiveInteger.iri = some true := by
  obtain ⟨inside, read, exact⟩ := integer_lexical_spaces_exact
    (show KnownDatatype.nonPositiveInteger.integers? = some (Set.Iic 0) from rfl)
    "-170141183460469231731687303715884105729"
  have denotes : Denotes "-170141183460469231731687303715884105729".toList
      (-170141183460469231731687303715884105729) :=
    .minus "170141183460469231731687303715884105729".toList
      (isNumeral_iff.1 (by decide))
  have accepted : inside = true := exact.2 ⟨_, by decide, denotes⟩
  exact ⟨rfl, read.trans (congrArg some accepted)⟩

end OntologyLint
