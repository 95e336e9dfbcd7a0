import OntologyLint.Proofs.Datatype.Inclusion
import OntologyLint.Proofs.Text.Grammar

set_option autoImplicit false

/-! The notations of decimals, floating point numbers, years and language names, decided as their
grammars say. Optional parts overlap in the grammars; a text is cut where the recognisers cut it, at
the first character that cannot belong to the part before it, and no other cut gives a word. -/

namespace OntologyLint

open Grammar
open scoped Computability

namespace Grammar

def unsignedDecimal : Language Char :=
  digits * maybe (mark '.' * digit∗) + mark '.' * digits

def decimal : Language Char := maybe sign * unsignedDecimal

def exponent : Language Char :=
  oneOf (fun char => char = 'e' ∨ char = 'E') * (maybe sign * digits)

def floating : Language Char :=
  decimal * maybe exponent + maybe sign * spelled "INF" + spelled "NaN"

def zone : Language Char := mark 'Z' + sign * digit ^ 2 * mark ':' * digit ^ 2

def yearNumber : Language Char :=
  mark '0' * digit ^ 3 + oneOf (fun char => '1' ≤ char ∧ char ≤ '9') * (digit ^ 3 * digit∗)

def year : Language Char := maybe (mark '-') * (yearNumber * maybe zone)

def Letter (char : Char) : Prop := 'a' ≤ char ∧ char ≤ 'z' ∨ 'A' ≤ char ∧ char ≤ 'Z'

instance : DecidablePred Letter := fun _ => inferInstanceAs (Decidable (_ ∨ _))

def group (kind : Char → Prop) : Language Char :=
  {word | 1 ≤ word.length ∧ word.length ≤ 8 ∧ ∀ char ∈ word, kind char}

def language : Language Char :=
  group Letter * (mark '-' * group (fun char => Letter char ∨ '0' ≤ char ∧ char ≤ '9'))∗

end Grammar

def Recognises (datatype : KnownDatatype) (words : Language Char) : Prop :=
  ∀ lexical : String, ∃ inside, inLexicalSpace? lexical datatype.iri = some inside ∧
    (inside = true ↔ lexical.toList ∈ words)

theorem recognises_of_accepts {datatype : KnownDatatype} {words : Language Char}
    (exact : ∀ text, datatype.accepts text = true ↔ text ∈ words) :
    Recognises datatype words := by
  intro lexical
  exact ⟨_, inLexicalSpace?_known rfl, exact lexical.toList⟩

theorem Recognises.mem {datatype : KnownDatatype} {words : Language Char}
    (recognises : Recognises datatype words) {lexical : String}
    (accepted : inLexicalSpace? lexical datatype.iri = some true) : lexical.toList ∈ words := by
  obtain ⟨inside, read, exact⟩ := recognises lexical
  rw [accepted] at read
  exact exact.1 (Option.some.inj read).symm

section Decimals

variable {text : List Char}

theorem mem_unsignedDecimal :
    text ∈ unsignedDecimal ↔ Numeral text ∨ ∃ whole fraction, text = whole ++ '.' :: fraction ∧
      (∀ char ∈ whole, char.isDigit = true) ∧ (∀ char ∈ fraction, char.isDigit = true) ∧
      (whole ≠ [] ∨ fraction ≠ []) := by
  simp only [isDigit_iff]
  rw [unsignedDecimal, maybe, mul_add, mul_one, ← mul_assoc, Language.mem_add,
    Language.mem_add, mem_digits, mem_mul_mark_mul, mem_mark_mul, or_assoc]
  simp only [mem_digits, digit, mem_oneOf_kstar, Numeral]
  apply or_congr Iff.rfl
  constructor
  · intro pointed
    cases pointed with
    | inl led =>
        obtain ⟨whole, numeral, fraction, decimal, joined⟩ := led
        exact ⟨whole, fraction, joined, numeral.2, decimal, Or.inl numeral.1⟩
    | inr bare =>
        obtain ⟨fraction, numeral, joined⟩ := bare
        exact ⟨[], fraction, joined, by simp, numeral.2, Or.inr numeral.1⟩
  · intro pointed
    obtain ⟨whole, fraction, joined, led, followed, some⟩ := pointed
    by_cases empty : whole = []
    · subst empty
      exact Or.inr ⟨fraction, ⟨some.resolve_left (by simp), followed⟩, joined⟩
    · exact Or.inl ⟨whole, ⟨empty, led⟩, fraction, followed, joined⟩

theorem isUnsignedDecimal_iff :
    Notation.isUnsignedDecimal text = true ↔ text ∈ unsignedDecimal := by
  obtain ⟨whole, rest, spanned⟩ : ∃ whole rest, Text.spanDigits text = (whole, rest) :=
    ⟨_, _, rfl⟩
  obtain ⟨joined, decimal, stops⟩ := spanDigits_iff.1 spanned
  rw [mem_unsignedDecimal, Notation.isUnsignedDecimal, spanned]
  -- Digits can end at a point in one place only.
  have pointed : ∀ front fraction, text = front ++ '.' :: fraction →
      (∀ char ∈ front, char.isDigit = true) → whole = front ∧ rest = '.' :: fraction := by
    intro front fraction cut led
    have again := spanDigits_iff.2 ⟨cut, led, unextended_cons (by decide)⟩
    rw [spanned] at again
    exact Prod.mk.inj again
  cases rest with
  | nil =>
      rw [List.append_nil] at joined
      subst joined
      have numeral : Numeral text ↔ text ≠ [] := by
        simp only [isDigit_iff] at decimal
        exact and_iff_left decimal
      rw [numeral]
      constructor
      · intro nonempty
        left
        simpa using nonempty
      · intro either
        cases either with
        | inl nonempty => simpa using nonempty
        | inr parts =>
            obtain ⟨front, fraction, cut, led, _⟩ := parts
            cases (pointed front fraction cut led).2
  | cons char rest =>
      have unending : ¬Numeral text := by
        intro numeral
        have digit := numeral.2 char (by simp [joined])
        rw [← isDigit_iff, stops char rfl] at digit
        cases digit
      rw [or_iff_right unending]
      by_cases point : char = '.'
      · subst point
        simp only [Bool.and_eq_true, List.all_eq_true, Bool.not_eq_true', Bool.and_eq_false_iff,
          List.isEmpty_eq_false_iff]
        constructor
        · intro accepted
          exact ⟨whole, rest, joined, decimal, accepted.1, accepted.2⟩
        · intro parts
          obtain ⟨front, fraction, cut, led, followed, some⟩ := parts
          obtain ⟨same, others⟩ := pointed front fraction cut led
          cases others
          subst same
          exact ⟨followed, some⟩
      · have refused : ¬∃ front fraction, text = front ++ '.' :: fraction ∧
            (∀ char ∈ front, char.isDigit = true) ∧ (∀ char ∈ fraction, char.isDigit = true) ∧
            (front ≠ [] ∨ fraction ≠ []) := by
          intro parts
          obtain ⟨front, fraction, cut, led, _⟩ := parts
          cases (pointed front fraction cut led).2
          exact point rfl
        simp [point, refused]

theorem isSign_of_isDigit {char : Char} (digit : char.isDigit = true) :
    Text.isSign char = false := by
  by_cases signed : Text.isSign char = true
  · have either : char = '+' ∨ char = '-' := by simpa [Text.isSign] using signed
    cases either with
    | inl plus => subst plus; cases digit
    | inr minus => subst minus; cases digit
  · simpa using signed

theorem Numeral.unsigned (numeral : Numeral text) :
    ∀ char ∈ text.head?, Text.isSign char = false := by
  intro char first
  exact isSign_of_isDigit (numeral.isDigit char (List.mem_of_head? first))

theorem unsignedDecimal_unsigned (member : text ∈ unsignedDecimal) :
    ∀ char ∈ text.head?, Text.isSign char = false := by
  cases mem_unsignedDecimal.1 member with
  | inl numeral => exact numeral.unsigned
  | inr parts =>
      obtain ⟨whole, fraction, joined, decimal, _⟩ := parts
      subst joined
      intro char first
      cases whole with
      | nil =>
          cases first
          decide
      | cons other _ =>
          cases first
          exact isSign_of_isDigit (decimal _ List.mem_cons_self)

theorem isDecimal_iff : Notation.isDecimal text = true ↔ text ∈ decimal := by
  rw [Notation.isDecimal, isUnsignedDecimal_iff, decimal,
    mem_maybe_sign_mul (fun _ => unsignedDecimal_unsigned)]

theorem markless_of_mem_decimal (member : text ∈ decimal) :
    ∀ char ∈ text, Notation.isExponentMark char = false := by
  have digitless {char : Char} (digit : char.isDigit = true) :
      Notation.isExponentMark char = false := by
    by_cases marked : Notation.isExponentMark char = true
    · have either : char = 'e' ∨ char = 'E' := by simpa [Notation.isExponentMark] using marked
      cases either with
      | inl small => subst small; cases digit
      | inr large => subst large; cases digit
    · simpa using marked
  have unsigned {word : List Char} (decimal : word ∈ unsignedDecimal) :
      ∀ char ∈ word, Notation.isExponentMark char = false := by
    intro char within
    cases mem_unsignedDecimal.1 decimal with
    | inl numeral => exact digitless (numeral.isDigit char within)
    | inr parts =>
        obtain ⟨whole, fraction, joined, led, followed, _⟩ := parts
        subst joined
        simp only [List.mem_append, List.mem_cons] at within
        obtain before | point | after := within
        · exact digitless (led char before)
        · subst point
          decide
        · exact digitless (followed char after)
  rw [decimal, sign, mem_maybe_oneOf_mul] at member
  cases member with
  | inl bare => exact unsigned bare
  | inr signed =>
      obtain ⟨char, rest, either, decimal, joined⟩ := signed
      subst joined
      intro other within
      cases List.mem_cons.1 within with
      | inl first =>
          subst first
          cases either with
          | inl plus => subst plus; decide
          | inr minus => subst minus; decide
      | inr later => exact unsigned decimal other later

theorem mem_exponent :
    text ∈ exponent ↔ ∃ char rest, text = char :: rest ∧ Notation.isExponentMark char = true ∧
      Text.isNumeral (Text.afterSign rest) = true := by
  rw [exponent, mem_oneOf_mul]
  simp only [mem_maybe_sign_mul (fun _ member => (mem_digits.1 member).unsigned), mem_digits,
    isNumeral_iff]
  constructor
  · intro found
    obtain ⟨char, rest, marked, numeral, joined⟩ := found
    exact ⟨char, rest, joined, by simpa [Notation.isExponentMark] using marked, numeral⟩
  · intro found
    obtain ⟨char, rest, joined, marked, numeral⟩ := found
    exact ⟨char, rest, by simpa [Notation.isExponentMark] using marked, numeral, joined⟩

theorem mem_decimal_mul_maybe_exponent :
    text ∈ decimal * maybe exponent ↔ text ∈ decimal ∨ ∃ mantissa char rest,
      text = mantissa ++ char :: rest ∧ mantissa ∈ decimal ∧
        Notation.isExponentMark char = true ∧ Text.isNumeral (Text.afterSign rest) = true := by
  rw [maybe, mul_add, mul_one, Language.mem_add, Language.mem_mul]
  apply or_congr Iff.rfl
  simp only [mem_exponent]
  constructor
  · intro found
    obtain ⟨mantissa, decimal, _, ⟨char, rest, power, marked, numeral⟩, joined⟩ := found
    rw [power] at joined
    exact ⟨mantissa, char, rest, joined.symm, decimal, marked, numeral⟩
  · intro found
    obtain ⟨mantissa, char, rest, joined, decimal, marked, numeral⟩ := found
    exact ⟨mantissa, decimal, _, ⟨char, rest, rfl, marked, numeral⟩, joined.symm⟩

theorem isScientific_iff :
    Notation.isScientific text = true ↔ text ∈ decimal * maybe exponent := by
  obtain ⟨mantissa, rest, spanned⟩ : ∃ mantissa rest,
      text.span (fun char => !Notation.isExponentMark char) = (mantissa, rest) := ⟨_, _, rfl⟩
  obtain ⟨joined, markless, stops⟩ := span_eq_iff.1 spanned
  -- The mark of an exponent occurs in no decimal, so the first one ends the mantissa.
  have powered : ∀ front char back, text = front ++ char :: back → front ∈ decimal →
      Notation.isExponentMark char = true → mantissa = front ∧ rest = char :: back := by
    intro front char back cut decimal marked
    have again : text.span (fun char => !Notation.isExponentMark char) = (front, char :: back) := by
      refine span_eq_iff.2 ⟨cut, ?_, ?_⟩
      · intro other within
        simp [markless_of_mem_decimal decimal other within]
      · intro other first
        cases first
        simp [marked]
    rw [spanned] at again
    exact Prod.mk.inj again
  rw [mem_decimal_mul_maybe_exponent, Notation.isScientific, spanned]
  cases rest with
  | nil =>
      rw [List.append_nil] at joined
      subst joined
      constructor
      · intro accepted
        exact Or.inl (isDecimal_iff.1 accepted)
      · intro either
        cases either with
        | inl decimal => exact isDecimal_iff.2 decimal
        | inr parts =>
            obtain ⟨front, char, back, cut, decimal, marked, _⟩ := parts
            cases (powered front char back cut decimal marked).2
  | cons char rest =>
      have marked : Notation.isExponentMark char = true := by simpa using stops char rfl
      have longer : text ∉ decimal := by
        intro decimal
        have unmarked := markless_of_mem_decimal decimal char (by simp [joined])
        rw [marked] at unmarked
        cases unmarked
      rw [or_iff_right longer, Bool.and_eq_true, isDecimal_iff]
      constructor
      · intro accepted
        exact ⟨mantissa, char, rest, joined, accepted.1, marked, accepted.2⟩
      · intro parts
        obtain ⟨front, other, back, cut, decimal, marked, numeral⟩ := parts
        obtain ⟨fronts, backs⟩ := powered front other back cut decimal marked
        cases backs
        subst fronts
        exact ⟨decimal, numeral⟩

theorem isFloating_iff : Notation.isFloating text = true ↔ text ∈ floating := by
  have unsigned : ∀ word ∈ spelled "INF", ∀ char ∈ word.head?, Text.isSign char = false := by
    intro word spelling char first
    rw [mem_spelled.1 spelling] at first
    cases first
    decide
  rw [Notation.isFloating, Bool.or_eq_true, Bool.or_eq_true, beq_iff_eq, beq_iff_eq,
    isScientific_iff, floating, Language.mem_add, Language.mem_add, mem_maybe_sign_mul unsigned,
    mem_spelled, mem_spelled]
  rfl

end Decimals

section Years

variable {text : List Char}

theorem mem_digit_pow_two {word : List Char} :
    word ∈ digit ^ 2 ↔ ∃ tens units, word = [tens, units] ∧ tens.isDigit = true ∧
      units.isDigit = true := by
  simp only [digit, mem_oneOf_pow, List.length_eq_two, isDigit_iff]
  constructor
  · intro found
    obtain ⟨⟨tens, units, listed⟩, decimal⟩ := found
    subst listed
    exact ⟨tens, units, rfl, decimal tens (by simp), decimal units (by simp)⟩
  · intro found
    obtain ⟨tens, units, listed, first, second⟩ := found
    subst listed
    refine ⟨⟨tens, units, rfl⟩, ?_⟩
    simp [first, second]

theorem isZoneOffset_iff :
    Notation.isZoneOffset text = true ↔ ∃ mark h1 h2 m1 m2, text = [mark, h1, h2, ':', m1, m2] ∧
      Text.isSign mark = true ∧ [h1, h2, m1, m2].all Char.isDigit = true := by
  constructor
  · intro accepted
    unfold Notation.isZoneOffset at accepted
    split at accepted
    · rename_i mark h1 h2 m1 m2
      exact ⟨mark, h1, h2, m1, m2, rfl, Bool.and_eq_true_iff.1 accepted⟩
    · cases accepted
  · intro found
    obtain ⟨mark, h1, h2, m1, m2, listed, signed, decimal⟩ := found
    subst listed
    exact Bool.and_eq_true_iff.2 ⟨signed, decimal⟩

theorem isZone_iff : Notation.isZone text = true ↔ text ∈ zone := by
  rw [Notation.isZone, Bool.or_eq_true, beq_iff_eq, isZoneOffset_iff, zone, Language.mem_add,
    mem_mark, mem_mul_mark_mul]
  apply or_congr Iff.rfl
  simp only [sign, mem_oneOf_mul, mem_digit_pow_two]
  constructor
  · intro found
    obtain ⟨mark, h1, h2, m1, m2, listed, signed, decimal⟩ := found
    simp only [List.all_cons, List.all_nil, Bool.and_true, Bool.and_eq_true] at decimal
    obtain ⟨first, second, third, fourth⟩ := decimal
    refine ⟨[mark, h1, h2], ⟨mark, _, ?_, ⟨h1, h2, rfl, first, second⟩, rfl⟩, [m1, m2],
      ⟨m1, m2, rfl, third, fourth⟩, listed⟩
    simpa [Text.isSign] using signed
  · intro found
    obtain ⟨_, ⟨mark, _, either, ⟨h1, h2, hours, first, second⟩, opening⟩, _,
      ⟨m1, m2, minutes, third, fourth⟩, joined⟩ := found
    subst hours minutes opening
    refine ⟨mark, h1, h2, m1, m2, joined, ?_, by simp [first, second, third, fourth]⟩
    simpa [Text.isSign] using either

theorem unextended_of_zone (zoned : text ∈ zone) : Unextended text := by
  rw [← isZone_iff, Notation.isZone, Bool.or_eq_true, beq_iff_eq, isZoneOffset_iff] at zoned
  cases zoned with
  | inl utc => rw [utc]; exact unextended_cons (by decide)
  | inr offset =>
      obtain ⟨mark, h1, h2, m1, m2, listed, signed, _⟩ := offset
      rw [listed]
      apply unextended_cons
      by_cases decimal : mark.isDigit = true
      · rw [isSign_of_isDigit decimal] at signed
        cases signed
      · simpa using decimal

theorem unextended_of_maybe_zone (zoned : text ∈ maybe zone) : Unextended text := by
  cases mem_maybe.1 zoned with
  | inl none => rw [none]; exact unextended_nil
  | inr zoned => exact unextended_of_zone zoned

theorem isDigit_iff_zero_or {char : Char} :
    char.isDigit = true ↔ char = '0' ∨ '1' ≤ char ∧ char ≤ '9' := by
  rw [isDigit_iff]
  simp only [Char.le_def, UInt32.le_iff_toNat_le, ← Char.toNat_inj, Char.toNat]
  have zero : ('0' : Char).val.toNat = 48 := rfl
  have one : ('1' : Char).val.toNat = 49 := rfl
  have nine : ('9' : Char).val.toNat = 57 := rfl
  omega

theorem mem_yearNumber :
    text ∈ yearNumber ↔
      (∀ char ∈ text, char.isDigit = true) ∧ Notation.isYearNumber text = true := by
  rw [yearNumber, Language.mem_add, mem_mark_mul, mem_oneOf_mul]
  simp only [digit, mem_oneOf_pow, mem_oneOf_pow_mul_kstar, ← isDigit_iff, Notation.isYearNumber]
  cases text with
  | nil => simp
  | cons first rest =>
      by_cases zero : first = '0'
      · subst zero
        have below : ¬ '1' ≤ '0' := by decide
        have enough : rest.length = 3 → 3 ≤ rest.length := fun exact => exact.ge
        simp [below]
        tauto
      · have leading : first.isDigit = true ↔ '1' ≤ first ∧ first ≤ '9' := by
          rw [isDigit_iff_zero_or, or_iff_right zero]
        simp [zero, leading]
        tauto

theorem mem_yearNumber_mul_maybe_zone :
    text ∈ yearNumber * maybe zone ↔
      ∃ front rest, Text.spanDigits text = (front, rest) ∧
        Notation.isYearNumber front = true ∧ (rest = [] ∨ Notation.isZone rest = true) := by
  rw [Language.mem_mul]
  simp only [mem_yearNumber, spanDigits_iff, isZone_iff, ← mem_maybe]
  constructor
  · intro found
    obtain ⟨front, ⟨decimal, long⟩, rest, zoned, joined⟩ := found
    exact ⟨front, rest, ⟨joined.symm, decimal, unextended_of_maybe_zone zoned⟩, long, zoned⟩
  · intro found
    obtain ⟨front, rest, ⟨joined, decimal, _⟩, long, zoned⟩ := found
    exact ⟨front, ⟨decimal, long⟩, rest, zoned, joined.symm⟩

theorem isYear_iff : Notation.isYear text = true ↔ text ∈ year := by
  have accepts (word : List Char) :
      (Notation.isYearNumber (Text.spanDigits word).1 &&
          ((Text.spanDigits word).2.isEmpty || Notation.isZone (Text.spanDigits word).2)) = true ↔
        word ∈ yearNumber * maybe zone := by
    simp only [mem_yearNumber_mul_maybe_zone, Bool.and_eq_true, Bool.or_eq_true, List.isEmpty_iff]
    constructor
    · intro accepted
      exact ⟨_, _, rfl, accepted⟩
    · intro found
      obtain ⟨front, rest, spanned, accepted⟩ := found
      rw [spanned]
      exact accepted
  refine (accepts _).trans ?_
  rw [year, mark, mem_maybe_oneOf_mul]
  by_cases negative : text.head? = some '-'
  · obtain ⟨rest, led⟩ := List.head?_eq_some_iff.1 negative
    have unled : text ∉ yearNumber * maybe zone := by
      rw [mem_yearNumber_mul_maybe_zone]
      intro found
      obtain ⟨front, back, spanned, long, _⟩ := found
      obtain ⟨joined, decimal, _⟩ := spanDigits_iff.1 spanned
      cases front with
      | nil => cases long
      | cons first front =>
          rw [led] at joined
          cases joined
          cases decimal '-' List.mem_cons_self
    rw [if_pos negative, or_iff_right unled, led]
    simp
  · have bare : ¬∃ char rest, char = '-' ∧ rest ∈ yearNumber * maybe zone ∧ text = char :: rest := by
      intro found
      obtain ⟨char, rest, minus, _, led⟩ := found
      subst minus
      rw [led] at negative
      exact negative rfl
    rw [if_neg negative, or_iff_left bare]

end Years

section Languages

variable {text : List Char} {separator : Char}

theorem isSubtag_iff {allowed : Char → Bool} {kind : Char → Prop}
    (same : ∀ char, allowed char = true ↔ kind char) :
    Notation.isSubtag allowed text = true ↔ text ∈ group kind := by
  simp only [Notation.isSubtag, Bool.and_eq_true, decide_eq_true_eq, List.all_eq_true, same,
    and_assoc]
  rfl

theorem mem_mark_mul_kstar {words : Language Char} :
    text ∈ (mark separator * words)∗ ↔
      ∃ groups : List (List Char), (∀ group ∈ groups, group ∈ words) ∧
        text = (groups.map (separator :: ·)).flatten := by
  rw [Language.mem_kstar]
  constructor
  · intro found
    obtain ⟨parts, joined, marked⟩ := found
    have led : ∀ part ∈ parts, part.tail ∈ words ∧ separator :: part.tail = part := by
      intro part member
      obtain ⟨rest, inside, same⟩ := mem_mark_mul.1 (marked part member)
      subst same
      exact ⟨inside, rfl⟩
    refine ⟨parts.map List.tail, ?_, ?_⟩
    · intro group member
      obtain ⟨part, listed, same⟩ := List.mem_map.1 member
      subst same
      exact (led part listed).1
    · rw [List.map_map, joined]
      apply congrArg List.flatten
      have kept := List.map_congr_left (g := id) (fun part member => (led part member).2)
      rw [List.map_id] at kept
      exact kept.symm
  · intro found
    obtain ⟨groups, inside, joined⟩ := found
    refine ⟨groups.map (separator :: ·), joined, ?_⟩
    intro part member
    obtain ⟨group, listed, same⟩ := List.mem_map.1 member
    exact mem_mark_mul.2 ⟨group, inside group listed, same.symm⟩

theorem isAlpha_iff {char : Char} : char.isAlpha = true ↔ Letter char := by
  have upper : char.isUpper = true ↔ 'A' ≤ char ∧ char ≤ 'Z' := decide_eq_true_iff
  have lower : char.isLower = true ↔ 'a' ≤ char ∧ char ≤ 'z' :=
    Bool.and_eq_true_iff.trans (and_congr decide_eq_true_iff decide_eq_true_iff)
  have either : char.isAlpha = true ↔ char.isUpper = true ∨ char.isLower = true :=
    Bool.or_eq_true_iff
  rw [either, upper, lower, or_comm]
  rfl

theorem isAlphanum_iff {char : Char} :
    char.isAlphanum = true ↔ Letter char ∨ '0' ≤ char ∧ char ≤ '9' := by
  rw [Char.isAlphanum, Bool.or_eq_true, isAlpha_iff, isDigit_iff]

theorem isLanguage_iff : Notation.isLanguage text = true ↔ text ∈ language := by
  have hyphenless {kind : Char → Prop} (other : ¬kind '-') {word : List Char}
      (member : word ∈ group kind) : '-' ∉ word :=
    fun within => other (member.2.2 '-' within)
  obtain ⟨primary, others, cut⟩ := Text.exists_fields '-' text
  rw [language, Language.mem_mul, Notation.isLanguage, cut]
  simp only [Bool.and_eq_true, List.all_eq_true, isSubtag_iff (fun _ => isAlpha_iff),
    isSubtag_iff (fun _ => isAlphanum_iff), mem_mark_mul_kstar]
  constructor
  · intro accepted
    have joined := Text.joinFields_fields '-' text
    rw [cut, Text.joinFields_eq] at joined
    exact ⟨primary, accepted.1, _, ⟨others, accepted.2, rfl⟩, joined⟩
  · intro found
    obtain ⟨first, letters, _, ⟨groups, inside, flat⟩, joined⟩ := found
    have again := Text.fields_joined (hyphenless (by decide) letters)
      (fun group member => hyphenless (by decide) (inside group member))
    rw [← flat, joined, cut] at again
    cases again
    exact ⟨letters, inside⟩

end Languages

/-- The recognisers of decimals, floating point numbers, years and language names decide their
grammars, on every text and to its end. -/
theorem notations_exact :
    Recognises .decimal decimal ∧ Recognises .double floating ∧ Recognises .float floating ∧
      Recognises .gYear year ∧ Recognises .language language :=
  ⟨recognises_of_accepts (fun _ => isDecimal_iff), recognises_of_accepts (fun _ => isFloating_iff),
    recognises_of_accepts (fun _ => isFloating_iff), recognises_of_accepts (fun _ => isYear_iff),
    recognises_of_accepts (fun _ => isLanguage_iff)⟩

end OntologyLint
