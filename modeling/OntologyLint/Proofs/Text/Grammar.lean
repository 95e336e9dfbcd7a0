import Mathlib.Computability.Language
import Mathlib.Data.List.TakeWhile
import OntologyLint.Proofs.Datatype.Integer

set_option autoImplicit false

/-! Grammars over characters. They are languages, put together from single characters by choice,
sequence and repetition, and each of the small ones is told by what its words look like. -/

namespace OntologyLint.Grammar

open scoped Computability

def oneOf (kind : Char → Prop) : Language Char := {word | ∃ char, kind char ∧ word = [char]}

def mark (char : Char) : Language Char := oneOf (fun other => other = char)

def maybe (words : Language Char) : Language Char := 1 + words

def digit : Language Char := oneOf (fun char => '0' ≤ char ∧ char ≤ '9')

def digits : Language Char := digit * digit∗

def sign : Language Char := oneOf (fun char => char = '+' ∨ char = '-')

def spelled (text : String) : Language Char := {word | word = text.toList}

variable {kind : Char → Prop} {char : Char} {words more : Language Char} {word text : List Char}

theorem mem_oneOf : word ∈ oneOf kind ↔ ∃ char, kind char ∧ word = [char] := Iff.rfl

theorem mem_maybe : word ∈ maybe words ↔ word = [] ∨ word ∈ words := by
  rw [maybe, Language.mem_add, Language.mem_one]

theorem append_mem_mul {first second : List Char} (left : first ∈ words) (right : second ∈ more) :
    first ++ second ∈ words * more :=
  Language.mem_mul.2 ⟨first, left, second, right, rfl⟩

theorem mem_mark : word ∈ mark char ↔ word = [char] := by
  simp [mark, mem_oneOf]

theorem mem_mark_mul : text ∈ mark char * words ↔ ∃ rest ∈ words, text = char :: rest := by
  simp [Language.mem_mul, mem_mark, eq_comm]

theorem mem_spelled {spelling : String} : word ∈ spelled spelling ↔ word = spelling.toList := Iff.rfl

theorem mem_oneOf_mul :
    text ∈ oneOf kind * words ↔ ∃ char rest, kind char ∧ rest ∈ words ∧ text = char :: rest := by
  rw [Language.mem_mul]
  constructor
  · intro found
    obtain ⟨first, ⟨char, allowed, single⟩, rest, member, joined⟩ := found
    rw [single] at joined
    exact ⟨char, rest, allowed, member, joined.symm⟩
  · intro found
    obtain ⟨char, rest, allowed, member, joined⟩ := found
    exact ⟨[char], ⟨char, allowed, rfl⟩, rest, member, joined.symm⟩

theorem mem_maybe_oneOf_mul :
    text ∈ maybe (oneOf kind) * words ↔
      text ∈ words ∨ ∃ char rest, kind char ∧ rest ∈ words ∧ text = char :: rest := by
  rw [maybe, add_mul, one_mul, Language.mem_add, mem_oneOf_mul]

/-- Before words that begin with no sign, an optional sign is what is passed over. -/
theorem mem_maybe_sign_mul
    (unsigned : ∀ word ∈ words, ∀ char ∈ word.head?, Text.isSign char = false) :
    text ∈ maybe sign * words ↔ Text.afterSign text ∈ words := by
  rw [sign, mem_maybe_oneOf_mul]
  cases text with
  | nil => simp [Text.afterSign]
  | cons first rest =>
      have signs : Text.isSign first = true ↔ first = '+' ∨ first = '-' := by simp [Text.isSign]
      have split : (∃ char tail, (char = '+' ∨ char = '-') ∧ tail ∈ words ∧
          first :: rest = char :: tail) ↔ Text.isSign first = true ∧ rest ∈ words := by
        rw [signs]
        constructor
        · intro found
          obtain ⟨char, tail, either, member, same⟩ := found
          cases same
          exact ⟨either, member⟩
        · intro found
          exact ⟨first, rest, found.1, found.2, rfl⟩
      rw [split]
      by_cases signed : Text.isSign first = true
      · have bare : first :: rest ∉ words := by
          intro member
          have plain := unsigned _ member first rfl
          rw [signed] at plain
          cases plain
        simp [Text.afterSign, signed, bare]
      · simp [Text.afterSign, signed]

theorem mem_oneOf_pow {count : Nat} :
    word ∈ oneOf kind ^ count ↔ word.length = count ∧ ∀ char ∈ word, kind char := by
  induction count generalizing word with
  | zero =>
      rw [pow_zero, Language.mem_one, List.length_eq_zero_iff]
      constructor
      · intro empty
        simp [empty]
      · intro empty
        exact empty.1
  | succ count ih =>
      rw [pow_succ', mem_oneOf_mul]
      cases word with
      | nil => simp
      | cons char rest => simp [ih, and_left_comm]

theorem mem_oneOf_kstar : word ∈ (oneOf kind)∗ ↔ ∀ char ∈ word, kind char := by
  rw [Language.kstar_eq_iSup_pow, Language.mem_iSup]
  simp [mem_oneOf_pow]

theorem mem_oneOf_pow_mul_kstar {count : Nat} :
    word ∈ oneOf kind ^ count * (oneOf kind)∗ ↔
      count ≤ word.length ∧ ∀ char ∈ word, kind char := by
  rw [Language.mem_mul]
  simp only [mem_oneOf_pow, mem_oneOf_kstar]
  constructor
  · intro found
    obtain ⟨front, ⟨exact, first⟩, back, second, joined⟩ := found
    subst joined
    refine ⟨by simp [exact], ?_⟩
    intro char member
    cases List.mem_append.1 member with
    | inl before => exact first char before
    | inr after => exact second char after
  · intro found
    obtain ⟨long, allowed⟩ := found
    refine ⟨word.take count, ⟨List.length_take_of_le long, ?_⟩, word.drop count, ?_,
      List.take_append_drop count word⟩
    · intro char member
      exact allowed char (List.mem_of_mem_take member)
    · intro char member
      exact allowed char (List.mem_of_mem_drop member)

theorem mem_digits : word ∈ digits ↔ Numeral word := by
  rw [digits, digit, mem_oneOf_mul]
  simp only [mem_oneOf_kstar]
  cases word with
  | nil => simp [Numeral]
  | cons char rest => simp [Numeral]

/-- The words of the sequence of two languages that a character stands between. -/
theorem mem_mul_mark_mul :
    text ∈ words * mark char * more ↔
      ∃ before ∈ words, ∃ after ∈ more, text = before ++ char :: after := by
  rw [mul_assoc, Language.mem_mul]
  simp only [mem_mark_mul]
  constructor
  · intro found
    obtain ⟨before, left, _, ⟨after, right, same⟩, joined⟩ := found
    rw [same] at joined
    exact ⟨before, left, after, right, joined.symm⟩
  · intro found
    obtain ⟨before, left, after, right, joined⟩ := found
    exact ⟨before, left, _, ⟨after, right, rfl⟩, joined.symm⟩

def MadeOf (words : Language Char) (kind : Char → Prop) : Prop :=
  ∀ word ∈ words, ∀ char ∈ word, kind char

namespace MadeOf

theorem oneOf {allowed : Char → Prop} (each : ∀ char, allowed char → kind char) :
    MadeOf (oneOf allowed) kind := by
  intro word member char within
  obtain ⟨other, inside, single⟩ := member
  rw [single, List.mem_singleton] at within
  rw [within]
  exact each other inside

theorem mark (each : kind char) : MadeOf (mark char) kind :=
  oneOf (fun _ same => same ▸ each)

theorem mul (left : MadeOf words kind) (right : MadeOf more kind) :
    MadeOf (words * more) kind := by
  intro word member char within
  obtain ⟨front, first, back, second, joined⟩ := Language.mem_mul.1 member
  rw [← joined] at within
  cases List.mem_append.1 within with
  | inl before => exact left front first char before
  | inr after => exact right back second char after

theorem add (left : MadeOf words kind) (right : MadeOf more kind) :
    MadeOf (words + more) kind := by
  intro word member
  cases (Language.mem_add _ _ _).1 member with
  | inl first => exact left word first
  | inr second => exact right word second

theorem maybe (each : MadeOf words kind) : MadeOf (maybe words) kind := by
  intro word member
  cases mem_maybe.1 member with
  | inl none => simp [none]
  | inr some => exact each word some

theorem kstar (each : MadeOf words kind) : MadeOf (words∗) kind := by
  intro word member char within
  obtain ⟨parts, joined, inside⟩ := Language.mem_kstar.1 member
  rw [joined] at within
  obtain ⟨part, listed, within⟩ := List.mem_flatten.1 within
  exact each part (inside part listed) char within

theorem pow (each : MadeOf words kind) (count : Nat) : MadeOf (words ^ count) kind := by
  induction count with
  | zero =>
      intro word member
      rw [pow_zero, Language.mem_one] at member
      simp [member]
  | succ count ih =>
      rw [pow_succ]
      exact ih.mul each

end MadeOf

end OntologyLint.Grammar

namespace OntologyLint

variable {text front rest : List Char}

theorem isDigit_iff {char : Char} : char.isDigit = true ↔ '0' ≤ char ∧ char ≤ '9' := by
  simp [Char.isDigit, Char.le_def]

theorem Numeral.isDigit (numeral : Numeral text) : ∀ char ∈ text, char.isDigit = true := by
  intro char member
  exact isDigit_iff.2 (numeral.2 char member)

theorem span_eq_iff {test : Char → Bool} :
    text.span test = (front, rest) ↔
      text = front ++ rest ∧ (∀ char ∈ front, test char = true) ∧
        ∀ char ∈ rest.head?, test char = false := by
  rw [List.span_eq_takeWhile_dropWhile, Prod.mk.injEq]
  constructor
  · intro spanned
    obtain ⟨taken, dropped⟩ := spanned
    subst taken
    subst dropped
    refine ⟨List.takeWhile_append_dropWhile.symm, fun _ => List.mem_takeWhile_imp, ?_⟩
    intro char first
    have stops := List.head?_dropWhile_not test text
    rw [Option.mem_def.1 first] at stops
    exact stops
  · intro cut
    obtain ⟨joined, inside, stops⟩ := cut
    have taken : text.takeWhile test = front := by
      rw [joined, List.takeWhile_append_of_pos inside]
      cases rest with
      | nil => simp
      | cons char rest => simp [stops char rfl]
    have whole := List.takeWhile_append_dropWhile (p := test) (l := text)
    rw [taken] at whole
    exact ⟨taken, List.append_cancel_left (whole.trans joined)⟩

/-- No digit stands in front, so digits before the text end there. -/
def Unextended (text : List Char) : Prop := ∀ char ∈ text.head?, char.isDigit = false

theorem unextended_nil : Unextended [] := by simp [Unextended]

theorem unextended_cons {char : Char} (other : char.isDigit = false) :
    Unextended (char :: text) := by
  simpa [Unextended] using other

theorem spanDigits_iff :
    Text.spanDigits text = (front, rest) ↔
      text = front ++ rest ∧ (∀ char ∈ front, char.isDigit = true) ∧ Unextended rest :=
  span_eq_iff

end OntologyLint
