import OntologyLint.Proofs.Datatype.TimeZone

set_option autoImplicit false

/-! The standard notation of dates and times, with fields of fixed width, and how far it is from what
is accepted. Accepted texts that are not in it have a blank, a digit that stands alone, a year of the
wrong width, a plus sign before the year, or a time zone beyond fourteen hours. -/

namespace OntologyLint

open Grammar
open scoped Computability

namespace Grammar

/-- Four digits, or more that do not start with zero, and perhaps a minus sign. -/
def fullYear : Language Char :=
  maybe (mark '-') *
    (digit ^ 4 + oneOf (fun char => '1' ≤ char ∧ char ≤ '9') * (digit ^ 4 * digit∗))

def fullDate : Language Char := fullYear * mark '-' * digit ^ 2 * mark '-' * digit ^ 2

def fullTime : Language Char := digit ^ 2 * mark ':' * digit ^ 2 * mark ':' * (digit ^ 2 * fraction)

def twoDigits (value : Nat) : Language Char :=
  {word | Numeral word ∧ word.length = 2 ∧ decimalValue word = value}

/-- Offsets go up to fourteen hours. -/
def offset : Language Char :=
  {text | ∃ hours minutes, (hours < 14 ∧ minutes ≤ 59 ∨ hours = 14 ∧ minutes = 0) ∧
    text ∈ sign * twoDigits hours * mark ':' * twoDigits minutes}

def nearZone : Language Char := mark 'Z' + offset

end Grammar

/-- Some digit has no other beside it, and no point before it. -/
def LoneDigit (text : List Char) : Prop :=
  ∃ front digit back, text = front ++ digit :: back ∧ digit.isDigit = true ∧
    (∀ char ∈ front.getLast?, char.isDigit = false ∧ char ≠ '.') ∧ Unextended back

/-- Nothing of the text is written shorter or wider than the standard has it. -/
structure WrittenInFull (text : List Char) : Prop where
  unspaced : ∀ char ∈ text, Text.isBlank char = false
  padded : ¬LoneDigit text
  near : ∀ front, ∀ ending ∈ zone, text = front ++ ending → ending ∈ nearZone

namespace Calendar

variable {text word front back : List Char} {words more : Language Char} {char : Char}

section Padding

theorem padded_nil : ¬LoneDigit [] := by
  intro lone
  obtain ⟨front, digit, back, joined, _⟩ := lone
  simp at joined

theorem padded_cons (other : char.isDigit = false) (padded : ¬LoneDigit text) :
    ¬LoneDigit (char :: text) := by
  intro lone
  obtain ⟨front, digit, back, joined, decimal, starts, stops⟩ := lone
  cases front with
  | nil =>
      cases joined
      rw [other] at decimal
      cases decimal
  | cons first front =>
      obtain ⟨_, joined⟩ := List.cons.inj joined
      refine padded ⟨front, digit, back, joined, decimal, ?_, stops⟩
      intro last final
      cases front with
      | nil => cases final
      | cons second front => exact starts last final

theorem padded_append (first : ¬LoneDigit front) (second : ¬LoneDigit back)
    (stops : Unextended back) : ¬LoneDigit (front ++ back) := by
  intro lone
  obtain ⟨before, digit, after, joined, decimal, starts, ends⟩ := lone
  cases List.append_eq_append_iff.1 joined with
  | inl later =>
      obtain ⟨gap, beforeJoined, backJoined⟩ := later
      refine second ⟨gap, digit, after, backJoined, decimal, ?_, ends⟩
      intro last final
      apply starts last
      rw [beforeJoined, List.getLast?_append, Option.mem_def.1 final]
      rfl
  | inr earlier =>
      obtain ⟨part, frontJoined, restJoined⟩ := earlier
      cases part with
      | nil =>
          rw [List.nil_append] at restJoined
          have undigit := stops digit (by rw [← restJoined]; rfl)
          rw [decimal] at undigit
          cases undigit
      | cons other part =>
          obtain ⟨same, afterJoined⟩ := List.cons.inj restJoined
          refine first ⟨before, digit, part, by rw [frontJoined, same], decimal, starts, ?_⟩
          intro next head
          apply ends next
          have joined : after = part ++ back := afterJoined
          rw [joined, List.head?_append, Option.mem_def.1 head]
          rfl

theorem padded_mark (first : ¬LoneDigit front) (second : ¬LoneDigit back)
    (other : char.isDigit = false) : ¬LoneDigit (front ++ char :: back) :=
  padded_append first (padded_cons other second) (unextended_cons other)

theorem padded_digits (decimal : ∀ char ∈ text, char.isDigit = true) (several : 2 ≤ text.length) :
    ¬LoneDigit text := by
  intro lone
  obtain ⟨front, digit, back, joined, _, starts, stops⟩ := lone
  subst joined
  cases back with
  | cons next back =>
      have extended := decimal next (by simp)
      rw [stops next rfl] at extended
      cases extended
  | nil =>
      cases final : front.getLast? with
      | none =>
          rw [List.getLast?_eq_none_iff.1 final] at several
          simp at several
      | some last =>
          have extended := decimal last (by simp [List.mem_of_getLast? final])
          rw [(starts last final).1] at extended
          cases extended

theorem padded_fraction (decimal : ∀ char ∈ text, char.isDigit = true) :
    ¬LoneDigit ('.' :: text) := by
  intro lone
  obtain ⟨front, digit, back, joined, tenth, starts, _⟩ := lone
  cases front with
  | nil =>
      cases joined
      cases tenth
  | cons point front =>
      obtain ⟨same, joined⟩ := List.cons.inj joined
      cases final : (point :: front).getLast? with
      | none => simp at final
      | some last =>
          obtain ⟨undigit, pointless⟩ := starts last final
          cases List.mem_cons.1 (List.mem_of_getLast? final) with
          | inl first => exact pointless (first.trans same.symm)
          | inr within =>
              rw [decimal last (by simp [joined, within])] at undigit
              cases undigit

theorem isDigit_of_mem_pow {count : Nat} (member : word ∈ digit ^ count) :
    ∀ char ∈ word, char.isDigit = true := by
  intro char within
  exact isDigit_iff.2 ((mem_oneOf_pow.1 member).2 char within)

theorem padded_pair (member : word ∈ digit ^ 2) : ¬LoneDigit word :=
  padded_digits (isDigit_of_mem_pow member) (mem_oneOf_pow.1 member).1.ge

theorem zone_of_near (member : word ∈ nearZone) : word ∈ zone := by
  rw [nearZone, Language.mem_add] at member
  rw [zone, Language.mem_add]
  cases member with
  | inl utc => exact Or.inl utc
  | inr near =>
      obtain ⟨hours, minutes, _, near⟩ := near
      obtain ⟨signed, signedMember, right, rightMember, joined⟩ := mem_mul_mark_mul.1 near
      obtain ⟨mark, markMember, left, leftMember, signedJoined⟩ := Language.mem_mul.1 signedMember
      have pair {value : Nat} {digits : List Char} (member : digits ∈ twoDigits value) :
          digits ∈ digit ^ 2 := mem_oneOf_pow.2 ⟨member.2.1, member.1.2⟩
      exact Or.inr (mem_mul_mark_mul.2 ⟨signed, Language.mem_mul.2 ⟨mark, markMember, left,
        pair leftMember, signedJoined⟩, right, pair rightMember, joined⟩)

theorem padded_zone (member : word ∈ zone) : ¬LoneDigit word := by
  cases mem_zone_iff.1 member with
  | inl utc =>
      rw [utc]
      exact padded_cons (by decide) padded_nil
  | inr signed =>
      obtain ⟨mark, h1, h2, m1, m2, listed, signed, decimal⟩ := signed
      simp only [List.all_cons, List.all_nil, Bool.and_true, Bool.and_eq_true] at decimal
      obtain ⟨first, second, third, fourth⟩ := decimal
      have plain := unextended_of_zone member
      rw [listed] at plain ⊢
      have hours : ¬LoneDigit [h1, h2] := padded_digits (by simp [first, second]) (by simp)
      have minutes : ¬LoneDigit [m1, m2] := padded_digits (by simp [third, fourth]) (by simp)
      exact padded_cons (plain mark rfl) (padded_mark hours minutes (by decide))

theorem padded_maybe_zone (member : word ∈ maybe zone) : ¬LoneDigit word := by
  cases mem_maybe.1 member with
  | inl none => rw [none]; exact padded_nil
  | inr zoned => exact padded_zone zoned

theorem padded_fullTime (member : word ∈ fullTime) : ¬LoneDigit word := by
  obtain ⟨early, earlyMember, late, lateMember, joined⟩ := mem_mul_mark_mul.1 member
  obtain ⟨hour, hourMember, minute, minuteMember, earlyJoined⟩ := mem_mul_mark_mul.1 earlyMember
  obtain ⟨second, secondMember, tail, tailMember, lateJoined⟩ := Language.mem_mul.1 lateMember
  have tailed : ¬LoneDigit tail := by
    rw [fraction, mem_maybe, mem_mark_mul] at tailMember
    cases tailMember with
    | inl none => rw [none]; exact padded_nil
    | inr pointed =>
        obtain ⟨rest, numeral, point⟩ := pointed
        rw [point]
        exact padded_fraction (mem_digits.1 numeral).isDigit
  subst joined earlyJoined lateJoined
  exact padded_mark (padded_mark (padded_pair hourMember) (padded_pair minuteMember) (by decide))
    (padded_append (padded_pair secondMember) tailed (unextended_of_fraction tailMember))
    (by decide)

theorem mem_fullYear (member : word ∈ fullYear) :
    ∃ digits, (word = digits ∨ word = '-' :: digits) ∧ 4 ≤ digits.length ∧
      ∀ char ∈ digits, char.isDigit = true := by
  have long {digits : List Char}
      (member : digits ∈ digit ^ 4 +
        oneOf (fun char => '1' ≤ char ∧ char ≤ '9') * (digit ^ 4 * digit∗)) :
      4 ≤ digits.length ∧ ∀ char ∈ digits, char.isDigit = true := by
    cases (Language.mem_add _ _ _).1 member with
    | inl four => exact ⟨(mem_oneOf_pow.1 four).1.ge, isDigit_of_mem_pow four⟩
    | inr longer =>
        obtain ⟨first, rest, leading, restMember, joined⟩ := mem_oneOf_mul.1 longer
        obtain ⟨several, decimal⟩ := mem_oneOf_pow_mul_kstar.1 restMember
        subst joined
        refine ⟨by simp; omega, ?_⟩
        intro char within
        cases List.mem_cons.1 within with
        | inl same => exact isDigit_iff_zero_or.2 (Or.inr (same ▸ leading))
        | inr later => exact isDigit_iff.2 (decimal char later)
  rw [fullYear, mark, mem_maybe_oneOf_mul] at member
  cases member with
  | inl unsigned => exact ⟨word, Or.inl rfl, long unsigned⟩
  | inr signed =>
      obtain ⟨char, digits, minus, digitsMember, joined⟩ := signed
      exact ⟨digits, Or.inr (joined.trans (minus ▸ rfl)), long digitsMember⟩

theorem padded_fullYear (member : word ∈ fullYear) : ¬LoneDigit word := by
  obtain ⟨digits, either, long, decimal⟩ := mem_fullYear member
  have bare : ¬LoneDigit digits := padded_digits decimal (by omega)
  cases either with
  | inl unsigned => rw [unsigned]; exact bare
  | inr negative => rw [negative]; exact padded_cons (by decide) bare

theorem padded_fullDate (member : word ∈ fullDate) : ¬LoneDigit word := by
  obtain ⟨early, earlyMember, day, dayMember, joined⟩ := mem_mul_mark_mul.1 member
  obtain ⟨year, yearMember, month, monthMember, earlyJoined⟩ := mem_mul_mark_mul.1 earlyMember
  subst joined earlyJoined
  exact padded_mark (padded_mark (padded_fullYear yearMember) (padded_pair monthMember) (by decide))
    (padded_pair dayMember) (by decide)

end Padding

section Full

variable {ending : List Char}

theorem madeOf_fullDate {kind : Char → Prop}
    (decimal : ∀ char, char.isDigit = true → kind char) (hyphen : kind '-') :
    MadeOf fullDate kind := by
  have digits := madeOf_digit decimal
  have mark : MadeOf (mark '-') kind := .mark hyphen
  have leading : MadeOf (oneOf (fun char => '1' ≤ char ∧ char ≤ '9')) kind :=
    MadeOf.oneOf (fun char bounds => decimal char (isDigit_iff_zero_or.2 (Or.inr bounds)))
  have year := mark.maybe.mul ((digits.pow 4).add (leading.mul ((digits.pow 4).mul digits.kstar)))
  exact (((year.mul mark).mul (digits.pow 2)).mul mark).mul (digits.pow 2)

theorem madeOf_fullTime {kind : Char → Prop}
    (decimal : ∀ char, char.isDigit = true → kind char) (colon : kind ':') (point : kind '.') :
    MadeOf fullTime kind := by
  have digits := madeOf_digit decimal
  have mark : MadeOf (mark ':') kind := .mark colon
  have pair := digits.pow 2
  exact (((pair.mul mark).mul pair).mul mark).mul
    (pair.mul ((MadeOf.mark point).mul (digits.mul digits.kstar)).maybe)

theorem fullDate_unspaced (member : word ∈ fullDate) :
    ∀ char ∈ word, Text.isBlank char = false :=
  madeOf_fullDate (fun _ => Text.isBlank_of_isDigit) (by decide) word member

theorem fullTime_unspaced (member : word ∈ fullTime) :
    ∀ char ∈ word, Text.isBlank char = false :=
  madeOf_fullTime (fun _ => Text.isBlank_of_isDigit) (by decide) (by decide) word member

theorem zone_unspaced (member : word ∈ zone) : ∀ char ∈ word, Text.isBlank char = false := by
  cases mem_zone_iff.1 member with
  | inl utc =>
      rw [utc]
      exact List.forall_mem_singleton.2 rfl
  | inr signed =>
      obtain ⟨mark, h1, h2, m1, m2, listed, signed, decimal⟩ := signed
      intro char within
      rw [listed] at within
      simp only [List.mem_cons, List.not_mem_nil, or_false] at within
      simp only [List.all_cons, List.all_nil, Bool.and_true, Bool.and_eq_true] at decimal
      obtain ⟨first, second, third, fourth⟩ := decimal
      obtain same | same | same | same | same | same := within
      · exact isBlank_of_isSign (same ▸ signed)
      · exact Text.isBlank_of_isDigit (same ▸ first)
      · exact Text.isBlank_of_isDigit (same ▸ second)
      · rw [same]; decide
      · exact Text.isBlank_of_isDigit (same ▸ third)
      · exact Text.isBlank_of_isDigit (same ▸ fourth)

theorem zone_of_maybe_near (near : ending ∈ maybe nearZone) : ending ∈ maybe zone :=
  mem_maybe.2 ((mem_maybe.1 near).imp_right zone_of_near)

theorem writtenInFull_append (unspaced : ∀ char ∈ word, Text.isBlank char = false)
    (padded : ¬LoneDigit word) (zoneless : Zoneless word) (near : ending ∈ maybe nearZone) :
    WrittenInFull (word ++ ending) where
  unspaced := by
    intro char within
    cases List.mem_append.1 within with
    | inl inside => exact unspaced char inside
    | inr after =>
        cases mem_maybe.1 (zone_of_maybe_near near) with
        | inl none => rw [none] at after; cases after
        | inr zoned => exact zone_unspaced zoned char after
  padded := padded_append padded (padded_maybe_zone (zone_of_maybe_near near))
    (unextended_of_maybe_zone (zone_of_maybe_near near))
  near := by
    intro front other zoned joined
    cases mem_maybe.1 near with
    | inl none =>
        rw [none, List.append_nil] at joined
        exact absurd joined (zoneless front other zoned)
    | inr near =>
        have fronts : word = front := by
          rw [← dropZone_append (zone_of_near near) word, joined, dropZone_append zoned]
        rw [fronts] at joined
        rw [← List.append_cancel_left joined]
        exact near

theorem bare_of_unspaced (blank : word ∈ blanks)
    (unspaced : ∀ char ∈ word, Text.isBlank char = false) : word = [] := by
  cases word with
  | nil => rfl
  | cons first rest =>
      have spaced := mem_oneOf_kstar.1 blank first List.mem_cons_self
      rw [unspaced first List.mem_cons_self] at spaced
      cases spaced

/-- Neither a digit nor a point stands at the end, so a digit behind it begins a number. -/
def Separated (front : List Char) : Prop :=
  ∀ char ∈ front.getLast?, char.isDigit = false ∧ char ≠ '.'

theorem separated_nil : Separated [] := by
  intro char last
  cases last

theorem separated_concat (front : List Char) (other : char.isDigit = false ∧ char ≠ '.') :
    Separated (front ++ [char]) := by
  intro last final
  rw [List.getLast?_concat] at final
  cases final
  exact other

theorem pair_of_field {value : Nat} (member : word ∈ field value) (starts : Separated front)
    (stops : Unextended back) (whole : text = front ++ word ++ back) (full : WrittenInFull text) :
    word ∈ digit ^ 2 := by
  obtain ⟨spaces, blank, digits, ⟨numeral, short, _⟩, joined⟩ := Language.mem_mul.1 member
  have bare : spaces = [] := by
    apply bare_of_unspaced blank
    intro char within
    exact full.unspaced char (by simp [whole, ← joined, within])
  rw [bare, List.nil_append] at joined
  subst joined
  refine mem_oneOf_pow.2 ⟨?_, numeral.2⟩
  -- A field has one digit or two, and a single one would be alone between what stands around it.
  by_cases single : digits.length = 1
  · obtain ⟨lone, listed⟩ := List.length_eq_one_iff.1 single
    refine absurd ⟨front, lone, back, by simp [whole, listed], ?_, starts, stops⟩ full.padded
    exact numeral.isDigit lone (by simp [listed])
  · have some := List.length_pos_iff.2 numeral.1
    omega

theorem fullTime_of_timeBody (member : word ∈ timeBody) (starts : Separated front)
    (stops : Unextended back) (whole : text = front ++ word ++ back) (full : WrittenInFull text) :
    word ∈ fullTime := by
  obtain ⟨hour, minute, second, _, _, _, member⟩ := member
  obtain ⟨early, earlyMember, late, lateMember, joined⟩ := mem_mul_mark_mul.1 member
  obtain ⟨hourWord, hourMember, minuteWord, minuteMember, earlyJoined⟩ :=
    mem_mul_mark_mul.1 earlyMember
  obtain ⟨secondWord, secondMember, tail, tailMember, lateJoined⟩ := Language.mem_mul.1 lateMember
  subst joined earlyJoined lateJoined
  have colon (tail : List Char) : Unextended (':' :: tail) := unextended_cons (by decide)
  have behind (front : List Char) : Separated (front ++ [':']) :=
    separated_concat front (by decide)
  have ended : Unextended (tail ++ back) := by
    have first := unextended_of_fraction tailMember
    cases tail with
    | nil => exact stops
    | cons other tail => exact unextended_cons (first other rfl)
  have hours : hourWord ∈ digit ^ 2 :=
    pair_of_field hourMember starts (colon (minuteWord ++ ':' :: (secondWord ++ tail) ++ back))
      (by simp [whole]) full
  have minutes : minuteWord ∈ digit ^ 2 :=
    pair_of_field minuteMember (behind (front ++ hourWord)) (colon (secondWord ++ tail ++ back))
      (by simp [whole]) full
  have seconds : secondWord ∈ digit ^ 2 :=
    pair_of_field secondMember (behind (front ++ hourWord ++ ':' :: minuteWord)) ended
      (by simp [whole]) full
  exact mem_mul_mark_mul.2 ⟨_, mem_mul_mark_mul.2 ⟨hourWord, hours, minuteWord, minutes, rfl⟩, _,
    append_mem_mul seconds tailMember, rfl⟩

/-- Digits end at the hyphen behind them, wherever else there is one. -/
theorem digits_unique {some others left right : List Char}
    (first : ∀ char ∈ some, char.isDigit = true) (second : ∀ char ∈ others, char.isDigit = true)
    (same : some ++ '-' :: left = others ++ '-' :: right) : some = others := by
  have hyphen (tail : List Char) : Unextended ('-' :: tail) := unextended_cons (by decide)
  have cut := spanDigits_iff.2 ⟨rfl, first, hyphen left⟩
  rw [spanDigits_iff.2 ⟨same, second, hyphen right⟩] at cut
  exact (congrArg Prod.fst cut).symm

theorem digits_append_ne_cons {digits tail rest : List Char} (some : digits ≠ [])
    (decimal : ∀ char ∈ digits, char.isDigit = true) (other : char.isDigit = false) :
    digits ++ tail ≠ char :: rest := by
  intro same
  cases digits with
  | nil => exact some rfl
  | cons first digits =>
      cases same
      rw [decimal char List.mem_cons_self] at other
      cases other

theorem yearNumeral_unique {value : Int} {year left right : List Char}
    (numeral : word ∈ yearNumerals value) (full : year ∈ fullYear)
    (same : word ++ '-' :: left = year ++ '-' :: right) : word = year := by
  obtain ⟨digits, either, long, decimal⟩ := mem_fullYear full
  have led : digits ≠ [] := by
    intro none
    rw [none] at long
    cases long
  obtain ⟨denotes, _⟩ := numeral
  cases either with
  | inl unsigned =>
      subst unsigned
      cases denotes with
      | unsigned _ numeral => exact digits_unique numeral.isDigit decimal same
      | plus rest numeral => exact absurd same.symm (digits_append_ne_cons led decimal (by decide))
      | minus rest numeral => exact absurd same.symm (digits_append_ne_cons led decimal (by decide))
  | inr negative =>
      subst negative
      cases denotes with
      | unsigned _ numeral =>
          exact absurd same (digits_append_ne_cons numeral.1 numeral.isDigit (by decide))
      | plus rest numeral => cases (List.cons.inj same).1
      | minus rest numeral =>
          rw [digits_unique numeral.isDigit decimal (List.cons.inj same).2]

theorem fullDate_of_dateBody (member : word ∈ dateBody) (stops : Unextended back)
    (whole : text = word ++ back) (full : WrittenInFull text)
    (started : text ∈ fullYear * mark '-' * ⊤) : word ∈ fullDate := by
  obtain ⟨year, month, day, _, member⟩ := member
  obtain ⟨early, earlyMember, dayWord, dayMember, joined⟩ := mem_mul_mark_mul.1 member
  obtain ⟨yearWord, yearMember, monthWord, monthMember, earlyJoined⟩ :=
    mem_mul_mark_mul.1 earlyMember
  obtain ⟨spaces, blank, numeral, numeralMember, yearJoined⟩ := Language.mem_mul.1 yearMember
  subst joined earlyJoined
  have bare : spaces = [] := by
    apply bare_of_unspaced blank
    intro char within
    exact full.unspaced char (by simp [whole, ← yearJoined, within])
  rw [bare, List.nil_append] at yearJoined
  subst yearJoined
  have hyphen (tail : List Char) : Unextended ('-' :: tail) := unextended_cons (by decide)
  have behind (front : List Char) : Separated (front ++ ['-']) :=
    separated_concat front (by decide)
  -- The year that was read and the year in full begin one text, and both end at their hyphen.
  have years : numeral ∈ fullYear := by
    obtain ⟨fullWord, fullMember, rest, _, startJoined⟩ := mem_mul_mark_mul.1 started
    have same : numeral ++ '-' :: (monthWord ++ '-' :: (dayWord ++ back)) =
        fullWord ++ '-' :: rest := by
      rw [← startJoined]
      simp [whole]
    rw [yearNumeral_unique numeralMember fullMember same]
    exact fullMember
  have months : monthWord ∈ digit ^ 2 :=
    pair_of_field monthMember (behind numeral) (hyphen (dayWord ++ back)) (by simp [whole]) full
  have days : dayWord ∈ digit ^ 2 :=
    pair_of_field dayMember (behind (numeral ++ '-' :: monthWord)) stops (by simp [whole]) full
  exact mem_mul_mark_mul.2 ⟨_, mem_mul_mark_mul.2 ⟨numeral, years, monthWord, months, rfl⟩, dayWord,
    days, rfl⟩

theorem near_of_full {ending : List Char} (full : WrittenInFull (word ++ ending))
    (zoned : ending ∈ maybe zone) : ending ∈ maybe nearZone := by
  refine mem_maybe.2 ((mem_maybe.1 zoned).imp_right ?_)
  intro zoned
  exact full.near word ending zoned rfl

theorem fullDate_avoids (member : word ∈ fullDate) : ∀ char ∈ word, char ∉ [':', 'Z'] :=
  madeOf_fullDate (avoids (by decide)) (by decide) word member

theorem fullTime_avoids (member : word ∈ fullTime) : ∀ char ∈ word, char ∉ ['+', '-', 'Z'] :=
  madeOf_fullTime (avoids (by decide)) (by decide) (by decide) word member

theorem started_of_fullDate (member : word ∈ fullDate) (rest : List Char) :
    word ++ rest ∈ fullYear * mark '-' * ⊤ := by
  obtain ⟨early, earlyMember, dayWord, _, joined⟩ := mem_mul_mark_mul.1 member
  obtain ⟨yearWord, yearMember, monthWord, _, earlyJoined⟩ := mem_mul_mark_mul.1 earlyMember
  refine mem_mul_mark_mul.2 ⟨yearWord, yearMember, monthWord ++ '-' :: (dayWord ++ rest), trivial, ?_⟩
  simp [joined, earlyJoined]

theorem full_time_iff (accepted : text ∈ timeBody * maybe zone) :
    text ∈ fullTime * maybe nearZone ↔ WrittenInFull text := by
  constructor
  · intro shaped
    obtain ⟨time, member, ending, near, joined⟩ := Language.mem_mul.1 shaped
    rw [← joined]
    exact writtenInFull_append (fullTime_unspaced member) (padded_fullTime member)
      (zoneless_of_signless (fullTime_avoids member)) near
  · intro full
    obtain ⟨time, member, ending, zoned, joined⟩ := Language.mem_mul.1 accepted
    have time := fullTime_of_timeBody member separated_nil (unextended_of_maybe_zone zoned)
      joined.symm full
    rw [← joined] at full
    exact Language.mem_mul.2 ⟨_, time, ending, near_of_full full zoned, joined⟩

theorem full_date_iff (accepted : text ∈ dateBody * maybe zone) :
    text ∈ fullDate * maybe nearZone ↔
      WrittenInFull text ∧ text ∈ fullYear * mark '-' * ⊤ := by
  constructor
  · intro shaped
    obtain ⟨date, member, ending, near, joined⟩ := Language.mem_mul.1 shaped
    rw [← joined]
    exact ⟨writtenInFull_append (fullDate_unspaced member) (padded_fullDate member)
      (zoneless_of_colonless (fullDate_avoids member)) near, started_of_fullDate member ending⟩
  · intro found
    obtain ⟨full, started⟩ := found
    obtain ⟨date, member, ending, zoned, joined⟩ := Language.mem_mul.1 accepted
    have date := fullDate_of_dateBody member (unextended_of_maybe_zone zoned) joined.symm full started
    rw [← joined] at full
    exact Language.mem_mul.2 ⟨_, date, ending, near_of_full full zoned, joined⟩

theorem full_dateTime_iff (accepted : text ∈ dateBody * mark 'T' * timeBody * maybe zone) :
    text ∈ fullDate * mark 'T' * fullTime * maybe nearZone ↔
      WrittenInFull text ∧ text ∈ fullYear * mark '-' * ⊤ := by
  constructor
  · intro shaped
    obtain ⟨both, bothMember, ending, near, joined⟩ := Language.mem_mul.1 shaped
    obtain ⟨date, dateMember, time, timeMember, bothJoined⟩ := mem_mul_mark_mul.1 bothMember
    subst joined bothJoined
    have unspaced : ∀ char ∈ date ++ 'T' :: time, Text.isBlank char = false := by
      intro char within
      simp only [List.mem_append, List.mem_cons] at within
      obtain early | separator | late := within
      · exact fullDate_unspaced dateMember char early
      · rw [separator]; decide
      · exact fullTime_unspaced timeMember char late
    have padded := padded_mark (padded_fullDate dateMember) (padded_fullTime timeMember)
      (show 'T'.isDigit = false by decide)
    have zoneless := zoneless_of_separated (fullDate_avoids dateMember) (fullTime_avoids timeMember)
    refine ⟨writtenInFull_append unspaced padded zoneless near, ?_⟩
    rw [List.append_assoc]
    exact started_of_fullDate dateMember _
  · intro found
    obtain ⟨full, started⟩ := found
    obtain ⟨both, bothMember, ending, zoned, joined⟩ := Language.mem_mul.1 accepted
    obtain ⟨date, dateMember, time, timeMember, bothJoined⟩ := mem_mul_mark_mul.1 bothMember
    subst bothJoined
    have dates : date ∈ fullDate :=
      fullDate_of_dateBody dateMember (unextended_cons (by decide))
        (show text = date ++ 'T' :: (time ++ ending) by simp [← joined]) full started
    have times : time ∈ fullTime :=
      fullTime_of_timeBody timeMember (separated_concat date (by decide))
        (unextended_of_maybe_zone zoned)
        (show text = (date ++ ['T']) ++ time ++ ending by simp [← joined]) full
    rw [← joined] at full
    exact Language.mem_mul.2 ⟨_, mem_mul_mark_mul.2 ⟨date, dates, time, times, rfl⟩, ending,
      near_of_full full zoned, joined⟩

end Full

end Calendar

/-- An accepted time, date, or both together, has the standard notation if and only if nothing in it
is spaced, unpadded or out of bounds and, with a date, it begins with a year in full. -/
theorem accepted_dates_are_standard_in_full (lexical : String) :
    (inLexicalSpace? lexical KnownDatatype.time.iri = some true →
      (lexical.toList ∈ fullTime * maybe nearZone ↔ WrittenInFull lexical.toList)) ∧
    (inLexicalSpace? lexical KnownDatatype.date.iri = some true →
      (lexical.toList ∈ fullDate * maybe nearZone ↔
        WrittenInFull lexical.toList ∧ lexical.toList ∈ fullYear * mark '-' * ⊤)) ∧
    (inLexicalSpace? lexical KnownDatatype.dateTime.iri = some true →
      (lexical.toList ∈ fullDate * mark 'T' * fullTime * maybe nearZone ↔
        WrittenInFull lexical.toList ∧ lexical.toList ∈ fullYear * mark '-' * ⊤)) := by
  refine ⟨fun accepted => ?_, fun accepted => ?_, fun accepted => ?_⟩
  · exact Calendar.full_time_iff (recognises_time.mem accepted)
  · exact Calendar.full_date_iff (recognises_date.mem accepted)
  · exact Calendar.full_dateTime_iff (recognises_dateTime.mem accepted)

/-- A day before the common era, in the furthest time zone. -/
theorem ides_of_march_in_full :
    inLexicalSpace? "-0044-03-15+14:00" KnownDatatype.date.iri = some true ∧
      WrittenInFull "-0044-03-15+14:00".toList := by
  have accepted : inLexicalSpace? "-0044-03-15+14:00" KnownDatatype.date.iri = some true := by
    decide +kernel
  have year : ['-', '0', '0', '4', '4'] ∈ fullYear :=
    append_mem_mul (mem_maybe.2 (Or.inr (mem_mark.2 rfl)))
      ((Language.mem_add _ _ _).2 (Or.inl (mem_oneOf_pow.2 ⟨rfl, (isNumeral_iff.1 rfl).2⟩)))
  have month : ['0', '3'] ∈ digit ^ 2 := mem_oneOf_pow.2 ⟨rfl, (isNumeral_iff.1 rfl).2⟩
  have day : ['1', '5'] ∈ digit ^ 2 := mem_oneOf_pow.2 ⟨rfl, (isNumeral_iff.1 rfl).2⟩
  have date : "-0044-03-15".toList ∈ fullDate :=
    mem_mul_mark_mul.2 ⟨_, mem_mul_mark_mul.2 ⟨_, year, _, month, rfl⟩, _, day, rfl⟩
  have hours : ['1', '4'] ∈ twoDigits 14 := ⟨isNumeral_iff.1 rfl, rfl, rfl⟩
  have minutes : ['0', '0'] ∈ twoDigits 0 := ⟨isNumeral_iff.1 rfl, rfl, rfl⟩
  have far : "+14:00".toList ∈ offset :=
    ⟨14, 0, Or.inr ⟨rfl, rfl⟩, mem_mul_mark_mul.2 ⟨_, append_mem_mul ⟨'+', Or.inl rfl, rfl⟩ hours,
      _, minutes, rfl⟩⟩
  have near : "+14:00".toList ∈ maybe nearZone :=
    mem_maybe.2 (Or.inr ((Language.mem_add _ _ _).2 (Or.inr far)))
  have standard := (accepted_dates_are_standard_in_full "-0044-03-15+14:00").2.1 accepted
  exact ⟨accepted, (standard.1 (append_mem_mul date near)).1⟩

theorem short_month_is_accepted :
    inLexicalSpace? "2024-1-1" KnownDatatype.date.iri = some true ∧
      "2024-1-1".toList ∉ fullDate * maybe nearZone := by
  have accepted : inLexicalSpace? "2024-1-1" KnownDatatype.date.iri = some true := by
    decide +kernel
  refine ⟨accepted, ?_⟩
  intro shaped
  have full := ((Calendar.full_date_iff (recognises_date.mem accepted)).1 shaped).1
  exact full.padded ⟨"2024".toList ++ ['-'], '1', ['-', '1'], by decide, by decide,
    Calendar.separated_concat _ (by decide), unextended_cons (by decide)⟩

end OntologyLint
