import Mathlib.Tactic.IntervalCases
import OntologyLint.Proofs.Datatype.Notation
import OntologyLint.Proofs.Text.Blank

set_option autoImplicit false

/-! The readers of dates and times take exactly the words of their grammars. Fields are read as far as
they go; a mark that is no digit follows each of them, so nothing shorter could be read there. -/

namespace OntologyLint

open Grammar
open scoped Computability

def IsLeap (year : Int) : Prop := 4 ∣ year ∧ (100 ∣ year → 400 ∣ year)

instance : DecidablePred IsLeap := fun _ => inferInstanceAs (Decidable (_ ∧ _))

def monthLengths (year : Int) : List Nat :=
  [31, if IsLeap year then 29 else 28, 31, 30, 31, 30, 31, 31, 30, 31, 30, 31]

/-- The calendar has the day. Months and days are counted from one. -/
structure CalendarDay (year : Int) (month day : Nat) : Prop where
  covered : -262143 ≤ year ∧ year ≤ 262142
  counted : 1 ≤ month ∧ 1 ≤ day
  reached : ∃ length, (monthLengths year)[month - 1]? = some length ∧ day ≤ length

namespace Grammar

/-- The numerals of a number that have no more digits than fit. -/
def numerals (width value : Nat) : Language Char :=
  {word | Numeral word ∧ word.length ≤ width ∧ decimalValue word = value}

def field (value : Nat) : Language Char := blanks * numerals 2 value

def yearNumerals (value : Int) : Language Char :=
  {word | Denotes word value ∧ (Numeral word → word.length ≤ 4)}

def dateBody : Language Char :=
  {text | ∃ year month day, CalendarDay year month day ∧
    text ∈ blanks * yearNumerals year * mark '-' * field month * mark '-' * field day}

def fraction : Language Char := maybe (mark '.' * digits)

def timeBody : Language Char :=
  {text | ∃ hour minute second, hour ≤ 23 ∧ minute ≤ 59 ∧ second ≤ 60 ∧
    text ∈ field hour * mark ':' * field minute * mark ':' * (field second * fraction)}

end Grammar

namespace Calendar

variable {text word rest : List Char}

theorem isLeapYear_iff {year : Int} : isLeapYear year = true ↔ IsLeap year := by
  simp only [isLeapYear, IsLeap, Bool.and_eq_true, Bool.or_eq_true, beq_iff_eq, bne_iff_ne]
  omega

theorem monthLengths_iff {year : Int} {month day : Nat} (counted : 1 ≤ month) :
    (∃ length, (monthLengths year)[month - 1]? = some length ∧ day ≤ length) ↔
      month ≤ 12 ∧ day ≤ daysInMonth year month := by
  by_cases known : month ≤ 12
  · have february : isLeapYear year = decide (IsLeap year) := by
      rw [Bool.eq_iff_iff, isLeapYear_iff, decide_eq_true_iff]
    interval_cases month <;> simp [monthLengths, daysInMonth, february]
  · have beyond : (monthLengths year)[month - 1]? = none := by
      simp [monthLengths]
      omega
    simp [beyond, known]

theorem isDay_iff {year : Int} {month day : Nat} :
    isDay year month day = true ↔ CalendarDay year month day := by
  simp only [isDay, Bool.and_eq_true, decide_eq_true_eq]
  constructor
  · intro valid
    obtain ⟨⟨⟨⟨covered, counted⟩, known⟩, start⟩, stop⟩ := valid
    exact ⟨covered, ⟨counted, start⟩, (monthLengths_iff counted).2 ⟨known, stop⟩⟩
  · intro valid
    obtain ⟨known, stop⟩ := (monthLengths_iff valid.counted.1).1 valid.reached
    exact ⟨⟨⟨⟨valid.covered, valid.counted.1⟩, known⟩, valid.counted.2⟩, stop⟩

/-- The reader takes words of its value off a text, and takes a whole word where no digit follows. -/
structure Reads {α : Type} (read? : List Char → Option (α × List Char))
    (words : α → Language Char) : Prop where
  sound : ∀ {text rest value}, read? text = some (value, rest) →
    ∃ word ∈ words value, text = word ++ rest
  complete : ∀ {word rest value}, word ∈ words value → Unextended rest →
    read? (word ++ rest) = some (value, rest)

theorem unextended_take (stops : Unextended rest) (count : Nat) : Unextended (rest.take count) := by
  cases count with
  | zero => simpa using unextended_nil
  | succ count =>
      cases rest with
      | nil => simpa using unextended_nil
      | cons char rest => exact unextended_cons (stops char rfl)

theorem reads_digits (width : Nat) : Reads (readDigits? width) (numerals width) where
  sound := by
    intro text rest value found
    obtain ⟨word, taken⟩ : ∃ word, (text.take width).takeWhile Char.isDigit = word := ⟨_, rfl⟩
    have decimal : ∀ char ∈ word, char.isDigit = true := by
      intro char member
      rw [← taken] at member
      exact List.mem_takeWhile_imp member
    have leading : word <+: text.take width := by
      rw [← taken]
      exact List.takeWhile_prefix _
    have short : word.length ≤ width := by
      have bounded := leading.length_le
      rw [List.length_take] at bounded
      omega
    have joined := List.prefix_iff_eq_append.1 (leading.trans (List.take_prefix width text))
    rw [readDigits?, taken] at found
    by_cases empty : word = []
    · simp [empty] at found
    · simp only [List.isEmpty_iff, empty, if_false, Option.some.injEq, Prod.mk.injEq] at found
      obtain ⟨same, left⟩ := found
      rw [left] at joined
      rw [ofDigits_eq_decimalValue] at same
      refine ⟨word, ⟨⟨empty, ?_⟩, short, same⟩, joined.symm⟩
      intro char member
      exact isDigit_iff.1 (decimal char member)
  complete := by
    intro word rest value member stops
    obtain ⟨numeral, short, same⟩ := member
    have taken : ((word ++ rest).take width).takeWhile Char.isDigit = word := by
      have spanned := spanDigits_iff.2 ⟨rfl, numeral.isDigit,
        unextended_take stops (width - word.length)⟩
      rw [Text.spanDigits, List.span_eq_takeWhile_dropWhile] at spanned
      rw [List.take_append, List.take_of_length_le short]
      exact congrArg Prod.fst spanned
    rw [readDigits?, taken, if_neg (by simpa using numeral.1), List.drop_left,
      ofDigits_eq_decimalValue, same]

/-- A reader that passes over blanks first. -/
theorem Reads.afterBlanks {α : Type} {read? : List Char → Option (α × List Char)}
    {words : α → Language Char} (reads : Reads read? words)
    (visible : ∀ value, ∀ word ∈ words value, Text.Visible word) :
    Reads (fun text => read? (text.dropWhile Text.isBlank)) (fun value => blanks * words value) where
  sound := by
    intro text rest value found
    obtain ⟨word, member, joined⟩ := reads.sound found
    refine ⟨text.takeWhile Text.isBlank ++ word,
      append_mem_mul (Text.takeWhile_mem_blanks text) member, ?_⟩
    rw [List.append_assoc, ← joined, List.takeWhile_append_dropWhile]
  complete := by
    intro word rest value member stops
    obtain ⟨front, blank, back, inside, joined⟩ := Language.mem_mul.1 member
    have dropped : (word ++ rest).dropWhile Text.isBlank = back ++ rest := by
      rw [← joined, List.append_assoc]
      exact Text.dropWhile_blanks blank (Text.visible_append (visible value back inside) rest)
    change read? ((word ++ rest).dropWhile Text.isBlank) = _
    rw [dropped]
    exact reads.complete inside stops

theorem reads_field : Reads readField? field := by
  apply (reads_digits 2).afterBlanks
  intro value word member
  exact Text.visible_of_numeral member.1

def readBareYear? : List Char → Option (Int × List Char)
  | [] => none
  | char :: rest =>
      if Text.isSign char then
        (readDigits? rest.length rest).map (fun (value, after) =>
          (if char = '-' then -(value : Int) else value, after))
      else (readDigits? 4 (char :: rest)).map (fun (value, after) => ((value : Int), after))

theorem readYear?_eq : readYear? = fun text => readBareYear? (text.dropWhile Text.isBlank) := rfl

theorem reads_bareYear : Reads readBareYear? yearNumerals where
  sound := by
    intro text rest value found
    cases text with
    | nil => cases found
    | cons char tail =>
        rw [readBareYear?] at found
        by_cases signed : Text.isSign char = true
        · rw [if_pos signed, Option.map_eq_some_iff] at found
          obtain ⟨⟨magnitude, after⟩, read, same⟩ := found
          obtain ⟨word, ⟨numeral, _, denoted⟩, joined⟩ := (reads_digits _).sound read
          cases same
          have unlike : ¬Numeral (char :: word) := by
            intro other
            have plain := other.unsigned char rfl
            rw [signed] at plain
            cases plain
          refine ⟨char :: word, ⟨?_, fun other => absurd other unlike⟩, by rw [joined]; rfl⟩
          by_cases minus : char = '-'
          · rw [if_pos minus, ← denoted, minus]
            exact .minus word numeral
          · have plus : char = '+' := by
              have either : char = '+' ∨ char = '-' := by simpa [Text.isSign] using signed
              exact either.resolve_right minus
            rw [if_neg minus, ← denoted, plus]
            exact .plus word numeral
        · rw [if_neg signed, Option.map_eq_some_iff] at found
          obtain ⟨⟨magnitude, after⟩, read, same⟩ := found
          obtain ⟨word, ⟨numeral, short, denoted⟩, joined⟩ := (reads_digits 4).sound read
          cases same
          refine ⟨word, ⟨?_, fun _ => short⟩, joined⟩
          rw [← denoted]
          exact .unsigned word numeral
  complete := by
    intro word rest value member stops
    obtain ⟨denotes, short⟩ := member
    have read {digits : List Char} (numeral : Numeral digits) {width : Nat}
        (fits : digits.length ≤ width) :=
      (reads_digits width).complete ⟨numeral, fits, rfl⟩ stops
    have whole (digits : List Char) : digits.length ≤ (digits ++ rest).length := by simp
    cases denotes with
    | unsigned _ numeral =>
        cases word with
        | nil => exact absurd rfl numeral.1
        | cons first tail =>
            have plain : Text.isSign first = false := numeral.unsigned first rfl
            rw [List.cons_append, readBareYear?, plain, if_neg Bool.false_ne_true,
              ← List.cons_append, read numeral (short numeral)]
            rfl
    | plus digits numeral =>
        rw [List.cons_append, readBareYear?, if_pos (by decide), read numeral (whole digits)]
        rfl
    | minus digits numeral =>
        rw [List.cons_append, readBareYear?, if_pos (by decide), read numeral (whole digits)]
        rfl

theorem isBlank_of_isSign {char : Char} (signed : Text.isSign char = true) :
    Text.isBlank char = false := by
  have either : char = '+' ∨ char = '-' := by simpa [Text.isSign] using signed
  cases either with
  | inl plus => subst plus; decide
  | inr minus => subst minus; decide

theorem reads_year : Reads readYear? (fun value => blanks * yearNumerals value) := by
  rw [readYear?_eq]
  apply reads_bareYear.afterBlanks
  intro value word member
  obtain ⟨denotes, _⟩ := member
  cases denotes with
  | unsigned _ numeral => exact Text.visible_of_numeral numeral
  | plus digits _numeral => exact Text.visible_cons (by decide) digits
  | minus digits _numeral => exact Text.visible_cons (by decide) digits

theorem readMark?_eq_some {char : Char} :
    readMark? char text = some rest ↔ text = char :: rest := by
  cases text with
  | nil => simp [readMark?]
  | cons first tail =>
      by_cases same : first = char
      · simp [readMark?, same]
      · simp [readMark?, same]

theorem readMark?_cons (char : Char) (text : List Char) :
    readMark? char (char :: text) = some text :=
  readMark?_eq_some.2 rfl

theorem readDate?_sound (read : readDate? text = some rest) :
    ∃ word ∈ dateBody, text = word ++ rest := by
  simp only [readDate?, Option.bind_eq_bind, Option.bind_eq_some_iff, readMark?_eq_some] at read
  obtain ⟨⟨year, afterYear⟩, readYear, monthText, hyphen, ⟨month, afterMonth⟩, readMonth, dayText,
    dash, ⟨day, afterDay⟩, readDay, valid⟩ := read
  obtain ⟨real, left⟩ := Option.ite_none_right_eq_some.1 valid
  obtain ⟨yearWord, yearMember, yearJoined⟩ := reads_year.sound readYear
  obtain ⟨monthWord, monthMember, monthJoined⟩ := reads_field.sound readMonth
  obtain ⟨dayWord, dayMember, dayJoined⟩ := reads_field.sound readDay
  simp only at hyphen dash left
  cases left
  subst hyphen dash monthJoined dayJoined
  refine ⟨yearWord ++ '-' :: monthWord ++ '-' :: dayWord, ⟨year, month, day, isDay_iff.1 real, ?_⟩, ?_⟩
  · exact mem_mul_mark_mul.2 ⟨_, mem_mul_mark_mul.2 ⟨yearWord, yearMember, monthWord, monthMember,
      rfl⟩, dayWord, dayMember, rfl⟩
  · simp [yearJoined]

theorem readDate?_append (member : word ∈ dateBody) (stops : Unextended rest) :
    readDate? (word ++ rest) = some rest := by
  obtain ⟨year, month, day, real, member⟩ := member
  obtain ⟨front, frontMember, dayWord, dayMember, joined⟩ := mem_mul_mark_mul.1 member
  obtain ⟨yearWord, yearMember, monthWord, monthMember, frontJoined⟩ :=
    mem_mul_mark_mul.1 frontMember
  have whole : word ++ rest =
      yearWord ++ '-' :: (monthWord ++ '-' :: (dayWord ++ rest)) := by
    simp [joined, frontJoined]
  have hyphen (tail : List Char) : Unextended ('-' :: tail) := unextended_cons (by decide)
  rw [whole, readDate?, reads_year.complete yearMember (hyphen _)]
  simp only [Option.bind_eq_bind, Option.bind_some, readMark?_cons,
    reads_field.complete monthMember (hyphen _), reads_field.complete dayMember stops]
  exact if_pos (isDay_iff.2 real)

theorem readFraction?_iff : readFraction? text = some [] ↔ text ∈ fraction := by
  rw [fraction, mem_maybe, mem_mark_mul]
  constructor
  · intro read
    unfold readFraction? at read
    split at read
    · rename_i rest
      obtain ⟨⟨value, after⟩, found, ended⟩ := Option.map_eq_some_iff.1 read
      obtain ⟨word, member, joined⟩ := (reads_digits _).sound found
      cases ended
      rw [List.append_nil] at joined
      subst joined
      exact Or.inr ⟨rest, mem_digits.2 member.1, rfl⟩
    · exact Or.inl (Option.some.inj read)
  · intro either
    cases either with
    | inl none =>
        subst none
        rfl
    | inr pointed =>
        obtain ⟨rest, numeral, joined⟩ := pointed
        have read := (reads_digits rest.length).complete
          ⟨mem_digits.1 numeral, Nat.le_refl _, rfl⟩ unextended_nil
        rw [List.append_nil] at read
        rw [joined, readFraction?, read]
        rfl

theorem unextended_of_fraction (member : text ∈ fraction) : Unextended text := by
  rw [fraction, mem_maybe, mem_mark_mul] at member
  cases member with
  | inl none => rw [none]; exact unextended_nil
  | inr pointed =>
      obtain ⟨rest, _, joined⟩ := pointed
      rw [joined]
      exact unextended_cons (by decide)

theorem isTimeOfDay_iff {hour minute second : Nat} :
    isTimeOfDay hour minute second = true ↔ hour ≤ 23 ∧ minute ≤ 59 ∧ second ≤ 60 := by
  simp [isTimeOfDay, and_assoc]

theorem readTime?_iff : readTime? text = some [] ↔ text ∈ timeBody := by
  constructor
  · intro read
    simp only [readTime?, Option.bind_eq_bind, Option.bind_eq_some_iff, readMark?_eq_some] at read
    obtain ⟨⟨hour, afterHour⟩, readHour, minuteText, first, ⟨minute, afterMinute⟩, readMinute,
      secondText, last, ⟨second, afterSecond⟩, readSecond, valid⟩ := read
    obtain ⟨real, finished⟩ := Option.ite_none_right_eq_some.1 valid
    obtain ⟨hourWord, hourMember, hourJoined⟩ := reads_field.sound readHour
    obtain ⟨minuteWord, minuteMember, minuteJoined⟩ := reads_field.sound readMinute
    obtain ⟨secondWord, secondMember, secondJoined⟩ := reads_field.sound readSecond
    simp only at first last finished
    subst first last minuteJoined secondJoined
    obtain ⟨early, middle, late⟩ := isTimeOfDay_iff.1 real
    refine ⟨hour, minute, second, early, middle, late, mem_mul_mark_mul.2
      ⟨hourWord ++ ':' :: minuteWord, mem_mul_mark_mul.2 ⟨hourWord, hourMember, minuteWord,
        minuteMember, rfl⟩, _, append_mem_mul secondMember (readFraction?_iff.1 finished), ?_⟩⟩
    simp [hourJoined]
  · intro member
    obtain ⟨hour, minute, second, early, middle, late, member⟩ := member
    obtain ⟨front, frontMember, back, backMember, joined⟩ := mem_mul_mark_mul.1 member
    obtain ⟨hourWord, hourMember, minuteWord, minuteMember, frontJoined⟩ :=
      mem_mul_mark_mul.1 frontMember
    obtain ⟨secondWord, secondMember, tail, tailMember, backJoined⟩ := Language.mem_mul.1 backMember
    have whole : text = hourWord ++ ':' :: (minuteWord ++ ':' :: (secondWord ++ tail)) := by
      simp [joined, frontJoined, backJoined]
    have colon (tail : List Char) : Unextended (':' :: tail) := unextended_cons (by decide)
    rw [whole, readTime?, reads_field.complete hourMember (colon _)]
    simp only [Option.bind_eq_bind, Option.bind_some, readMark?_cons,
      reads_field.complete minuteMember (colon _),
      reads_field.complete secondMember (unextended_of_fraction tailMember)]
    rw [if_pos (isTimeOfDay_iff.2 ⟨early, middle, late⟩)]
    exact readFraction?_iff.2 tailMember

theorem readDate?_iff : readDate? text = some [] ↔ text ∈ dateBody := by
  constructor
  · intro read
    obtain ⟨word, member, joined⟩ := readDate?_sound read
    rw [joined, List.append_nil]
    exact member
  · intro member
    have read := readDate?_append member unextended_nil
    rwa [List.append_nil] at read

theorem readDateTime?_iff :
    readDateTime? text = some [] ↔ text ∈ dateBody * mark 'T' * timeBody := by
  rw [mem_mul_mark_mul]
  constructor
  · intro read
    simp only [readDateTime?, Option.bind_eq_bind, Option.bind_eq_some_iff,
      readMark?_eq_some] at read
    obtain ⟨_, readDate, timeText, separated, readTime⟩ := read
    obtain ⟨date, dateMember, joined⟩ := readDate?_sound readDate
    exact ⟨date, dateMember, timeText, readTime?_iff.1 readTime, by rw [joined, separated]⟩
  · intro found
    obtain ⟨date, dateMember, time, timeMember, joined⟩ := found
    rw [joined, readDateTime?, readDate?_append dateMember (unextended_cons (by decide))]
    simp only [Option.bind_eq_bind, Option.bind_some, readMark?_cons]
    exact readTime?_iff.2 timeMember

end Calendar

end OntologyLint
