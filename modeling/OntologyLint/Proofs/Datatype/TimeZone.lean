import OntologyLint.Proofs.Datatype.Calendar

set_option autoImplicit false

/-! Dates and times with a time zone. What looks like a zone is cut off before anything is read, and
no date or time without a zone ends in what looks like one: a date has no colon, a time has no sign,
and a zone has no separator of the two. -/

namespace OntologyLint

open Grammar

namespace Calendar

variable {text word : List Char}

/-- The text does not end in what looks like a time zone. -/
def Zoneless (text : List Char) : Prop := ∀ front, ∀ offset ∈ zone, text ≠ front ++ offset

theorem mem_zone_iff :
    text ∈ zone ↔ text = ['Z'] ∨ ∃ mark h1 h2 m1 m2, text = [mark, h1, h2, ':', m1, m2] ∧
      Text.isSign mark = true ∧ [h1, h2, m1, m2].all Char.isDigit = true := by
  rw [← isZone_iff, Notation.isZone, Bool.or_eq_true, beq_iff_eq, isZoneOffset_iff]

theorem dropZone_append {offset : List Char} (zoned : offset ∈ zone) (front : List Char) :
    dropZone (front ++ offset) = front := by
  cases mem_zone_iff.1 zoned with
  | inl utc =>
      subst utc
      rw [dropZone, if_pos List.getLast?_concat, List.dropLast_concat]
  | inr signed =>
      have accepted := isZoneOffset_iff.2 signed
      obtain ⟨mark, h1, h2, m1, m2, listed, _, decimal⟩ := signed
      have six : offset.length = 6 := by simp [listed]
      have ended : (front ++ offset).getLast? ≠ some 'Z' := by
        intro last
        have letter : m2 = 'Z' := by simpa [listed] using last
        rw [letter] at decimal
        simp at decimal
      have start : (front ++ offset).length - 6 = front.length := by simp [six]
      rw [dropZone, if_neg ended, start, List.drop_left, if_pos accepted, List.take_left]

theorem dropZone_of_zoneless (zoneless : Zoneless text) : dropZone text = text := by
  have ended : text.getLast? ≠ some 'Z' := by
    intro last
    obtain ⟨front, joined⟩ := List.getLast?_eq_some_iff.1 last
    exact zoneless front ['Z'] (mem_zone_iff.2 (Or.inl rfl)) joined
  have bare : ¬Notation.isZoneOffset (text.drop (text.length - 6)) = true := by
    intro accepted
    exact zoneless _ _ (mem_zone_iff.2 (Or.inr (isZoneOffset_iff.1 accepted)))
      (List.take_append_drop _ _).symm
  rw [dropZone, if_neg ended, if_neg bare]

section Cut

variable {read? : List Char → Option (List Char)} {body : Language Char}
  (exact : ∀ text, read? text = some [] ↔ text ∈ body) (zoneless : ∀ word ∈ body, Zoneless word)

include exact zoneless

theorem readsAll_dropZone_iff :
    readsAll read? (dropZone text) = true ↔ text ∈ body * maybe zone := by
  rw [readsAll, beq_iff_eq, exact, Language.mem_mul]
  constructor
  · intro read
    by_cases bare : Zoneless text
    · rw [dropZone_of_zoneless bare] at read
      exact ⟨text, read, [], mem_maybe.2 (Or.inl rfl), List.append_nil text⟩
    · simp only [Zoneless, not_forall, not_not] at bare
      obtain ⟨front, offset, zoned, joined⟩ := bare
      rw [joined, dropZone_append zoned] at read
      exact ⟨front, read, offset, mem_maybe.2 (Or.inr zoned), joined.symm⟩
  · intro found
    obtain ⟨front, member, offset, zoned, joined⟩ := found
    rw [← joined]
    cases mem_maybe.1 zoned with
    | inl none =>
        rw [none, List.append_nil, dropZone_of_zoneless (zoneless front member)]
        exact member
    | inr zoned =>
        rw [dropZone_append zoned]
        exact member

theorem readsAll_dropZone_of_readsAll (read : readsAll read? text = true) :
    readsAll read? (dropZone text) = true := by
  rw [readsAll, beq_iff_eq, exact] at read
  rw [dropZone_of_zoneless (zoneless text read), readsAll, beq_iff_eq, exact]
  exact read

end Cut

section Characters

variable {kind : Char → Prop} (blank : ∀ char, Text.isBlank char = true → kind char)
  (decimal : ∀ char, char.isDigit = true → kind char)

include blank in
theorem madeOf_blanks : MadeOf blanks kind := (MadeOf.oneOf blank).kstar

include decimal in
theorem madeOf_digit : MadeOf digit kind :=
  MadeOf.oneOf (fun char bounds => decimal char (isDigit_iff.2 bounds))

include blank decimal

theorem madeOf_field (value : Nat) : MadeOf (field value) kind := by
  apply (madeOf_blanks blank).mul
  intro word member char within
  exact decimal char (member.1.isDigit char within)

theorem madeOf_dateBody (signed : ∀ char, Text.isSign char = true → kind char) :
    MadeOf dateBody kind := by
  have hyphen : MadeOf (mark '-') kind := .mark (signed '-' (by decide))
  have years (value : Int) : MadeOf (yearNumerals value) kind := by
    intro word member char within
    obtain ⟨denotes, _⟩ := member
    cases denotes with
    | unsigned _ numeral => exact decimal char (numeral.isDigit char within)
    | plus digits numeral =>
        cases List.mem_cons.1 within with
        | inl first => exact signed char (first ▸ by decide)
        | inr later => exact decimal char (numeral.isDigit char later)
    | minus digits numeral =>
        cases List.mem_cons.1 within with
        | inl first => exact signed char (first ▸ by decide)
        | inr later => exact decimal char (numeral.isDigit char later)
  intro word member
  obtain ⟨year, month, day, _, member⟩ := member
  have fields := madeOf_field blank decimal
  exact ((((((madeOf_blanks blank).mul (years year)).mul hyphen).mul (fields month)).mul
    hyphen).mul (fields day)) word member

theorem madeOf_timeBody (colon : kind ':') (point : kind '.') : MadeOf timeBody kind := by
  have mark : MadeOf (mark ':') kind := .mark colon
  have fields := madeOf_field blank decimal
  have digits : MadeOf digits kind := (madeOf_digit decimal).mul (madeOf_digit decimal).kstar
  intro word member
  obtain ⟨hour, minute, second, _, _, _, member⟩ := member
  exact (((((fields hour).mul mark).mul (fields minute)).mul mark).mul ((fields second).mul
    ((MadeOf.mark point).mul digits).maybe)) word member

end Characters

theorem avoids {test : Char → Bool} {avoided : List Char} (clear : avoided.any test = false) :
    ∀ char, test char = true → char ∉ avoided := by
  intro char passes member
  have passed := List.any_eq_true.2 ⟨char, member, passes⟩
  rw [clear] at passed
  cases passed

theorem dateBody_avoids (member : word ∈ dateBody) : ∀ char ∈ word, char ∉ [':', 'Z'] :=
  madeOf_dateBody (avoids (by decide)) (avoids (by decide)) (avoids (by decide)) word member

theorem timeBody_avoids (member : word ∈ timeBody) : ∀ char ∈ word, char ∉ ['+', '-', 'Z'] :=
  madeOf_timeBody (avoids (by decide)) (avoids (by decide)) (by decide) (by decide) word member

theorem zone_avoids (member : word ∈ zone) : ∀ char ∈ word, char ∉ ['T'] := by
  have pair : MadeOf (digit ^ 2) (fun char => char ∉ ['T']) :=
    (madeOf_digit (avoids (by decide))).pow 2
  have signs : MadeOf sign (fun char => char ∉ ['T']) := by
    apply MadeOf.oneOf
    intro char either
    cases either with
    | inl plus => rw [plus]; decide
    | inr minus => rw [minus]; decide
  exact (MadeOf.mark (by decide)).add (((signs.mul pair).mul (MadeOf.mark (by decide))).mul pair)
    word member

theorem zoneless_of_colonless (kinds : ∀ char ∈ word, char ∉ [':', 'Z']) : Zoneless word := by
  intro front offset zoned joined
  cases mem_zone_iff.1 zoned with
  | inl utc => exact kinds 'Z' (by simp [joined, utc]) (by decide)
  | inr signed =>
      obtain ⟨mark, h1, h2, m1, m2, listed, _⟩ := signed
      exact kinds ':' (by simp [joined, listed]) (by decide)

theorem isSign_of_avoids {char : Char} (kind : char ∉ ['+', '-', 'Z']) :
    Text.isSign char = false := by
  simp only [List.mem_cons, not_or] at kind
  simp [Text.isSign, kind]

theorem zoneless_of_signless (kinds : ∀ char ∈ word, char ∉ ['+', '-', 'Z']) : Zoneless word := by
  intro front offset zoned joined
  cases mem_zone_iff.1 zoned with
  | inl utc => exact kinds 'Z' (by simp [joined, utc]) (by decide)
  | inr signed =>
      obtain ⟨mark, h1, h2, m1, m2, listed, signed, _⟩ := signed
      have unsigned := isSign_of_avoids (kinds mark (by simp [joined, listed]))
      rw [signed] at unsigned
      cases unsigned

theorem zoneless_of_separated {date time : List Char} (dates : ∀ char ∈ date, char ∉ [':', 'Z'])
    (times : ∀ char ∈ time, char ∉ ['+', '-', 'Z']) : Zoneless (date ++ 'T' :: time) := by
  intro front offset zoned joined
  cases mem_zone_iff.1 zoned with
  | inl utc =>
      have last : 'Z' ∈ date ++ 'T' :: time := by simp [joined, utc]
      simp only [List.mem_append, List.mem_cons] at last
      obtain early | separator | late := last
      · exact dates 'Z' early (by decide)
      · cases separator
      · exact times 'Z' late (by decide)
  | inr signed =>
      obtain ⟨mark, h1, h2, m1, m2, listed, signed, _⟩ := signed
      cases List.append_eq_append_iff.1 joined with
      | inl within =>
          -- The offset ends the time, which has no sign, or begins with the separator.
          obtain ⟨gap, _, rest⟩ := within
          rw [listed] at rest
          cases gap with
          | nil =>
              cases rest
              cases signed
          | cons first gap =>
              have unsigned := isSign_of_avoids (times mark (by simp [(List.cons.inj rest).2]))
              rw [signed] at unsigned
              cases unsigned
      | inr across =>
          obtain ⟨part, _, rest⟩ := across
          exact zone_avoids zoned 'T' (by simp [rest]) (by decide)

theorem zoneless_of_time (text : List Char) (member : text ∈ timeBody) : Zoneless text :=
  zoneless_of_signless (timeBody_avoids member)

theorem zoneless_of_date (text : List Char) (member : text ∈ dateBody) : Zoneless text :=
  zoneless_of_colonless (dateBody_avoids member)

theorem zoneless_of_dateTime (text : List Char)
    (member : text ∈ dateBody * mark 'T' * timeBody) : Zoneless text := by
  obtain ⟨date, dateMember, time, timeMember, joined⟩ := mem_mul_mark_mul.1 member
  rw [joined]
  exact zoneless_of_separated (dateBody_avoids dateMember) (timeBody_avoids timeMember)

end Calendar

theorem recognises_time : Recognises .time (timeBody * maybe zone) :=
  recognises_of_accepts (fun _ =>
    Calendar.readsAll_dropZone_iff (fun _ => Calendar.readTime?_iff) Calendar.zoneless_of_time)

theorem recognises_date : Recognises .date (dateBody * maybe zone) :=
  recognises_of_accepts (fun _ =>
    Calendar.readsAll_dropZone_iff (fun _ => Calendar.readDate?_iff) Calendar.zoneless_of_date)

theorem recognises_dateTime :
    Recognises .dateTime (dateBody * mark 'T' * timeBody * maybe zone) :=
  recognises_of_accepts (fun _ => Calendar.readsAll_dropZone_iff
    (fun _ => Calendar.readDateTime?_iff) Calendar.zoneless_of_dateTime)

/-- Dates and times are those of their grammars, without a time zone or followed by one. Cutting off
what looks like a time zone refuses nothing that is valid without the cut. -/
theorem dates_and_times_exact :
    Recognises .time (timeBody * maybe zone) ∧ Recognises .date (dateBody * maybe zone) ∧
      Recognises .dateTime (dateBody * mark 'T' * timeBody * maybe zone) ∧
      ∀ text, (Calendar.readsAll Calendar.readTime? text = true → Calendar.isTime text = true) ∧
        (Calendar.readsAll Calendar.readDate? text = true → Calendar.isDate text = true) ∧
        (Calendar.readsAll Calendar.readDateTime? text = true →
          Calendar.isDateTime text = true) := by
  refine ⟨recognises_time, recognises_date, recognises_dateTime, fun text => ⟨?_, ?_, ?_⟩⟩
  · exact Calendar.readsAll_dropZone_of_readsAll (fun _ => Calendar.readTime?_iff)
      Calendar.zoneless_of_time
  · exact Calendar.readsAll_dropZone_of_readsAll (fun _ => Calendar.readDate?_iff)
      Calendar.zoneless_of_date
  · exact Calendar.readsAll_dropZone_of_readsAll (fun _ => Calendar.readDateTime?_iff)
      Calendar.zoneless_of_dateTime

end OntologyLint
