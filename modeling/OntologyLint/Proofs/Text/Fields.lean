import OntologyLint.Text.Fields

set_option autoImplicit false

/-! Cutting a text at a separator, and joining it again. Nothing is lost, no field has the separator in
it, and every list of such fields is the cut of one text. -/

namespace OntologyLint.Text

variable {separator char : Char} {text field : List Char} {others groups : List (List Char)}

theorem exists_fields (separator : Char) (text : List Char) :
    ∃ field others, fields separator text = field :: others := by
  fun_cases fields separator text with
  | case1 => exact ⟨[], [], rfl⟩
  | case2 rest => exact ⟨[], fields separator rest, rfl⟩
  | case3 char => exact ⟨[char], [], rfl⟩
  | case4 char _rest _other field others => exact ⟨char :: field, others, rfl⟩

theorem fields_cons_of_ne (other : char ≠ separator)
    (cut : fields separator text = field :: others) :
    fields separator (char :: text) = (char :: field) :: others := by
  rw [fields, if_neg other, cut]

theorem joinFields_cons_cons :
    joinFields separator ((char :: field) :: others) =
      char :: joinFields separator (field :: others) := by
  cases others <;> rfl

theorem joinFields_fields (separator : Char) (text : List Char) :
    joinFields separator (fields separator text) = text := by
  induction text with
  | nil => rfl
  | cons char rest ih =>
      obtain ⟨field, others, cut⟩ := exists_fields separator rest
      rw [cut] at ih
      by_cases same : char = separator
      · rw [fields, if_pos same, cut, joinFields, ih, same, List.nil_append]
        exact List.cons_ne_nil field others
      · rw [fields_cons_of_ne same cut, joinFields_cons_cons, ih]

theorem mem_joinFields {list : List (List Char)} (member : char ∈ joinFields separator list) :
    char = separator ∨ ∃ field ∈ list, char ∈ field := by
  fun_induction joinFields separator list with
  | case1 => cases member
  | case2 field => exact Or.inr ⟨field, List.mem_cons_self, member⟩
  | case3 field others _ ih =>
      simp only [List.mem_append, List.mem_cons] at member
      obtain within | same | later := member
      · exact Or.inr ⟨field, List.mem_cons_self, within⟩
      · exact Or.inl same
      · exact (ih later).imp_right (fun ⟨field, among, within⟩ =>
          ⟨field, List.mem_cons_of_mem _ among, within⟩)

theorem fields_append_separator (left right : List Char) :
    fields separator (left ++ separator :: right) =
      fields separator left ++ fields separator right := by
  induction left with
  | nil => simp [fields]
  | cons char rest ih =>
      obtain ⟨field, others, cut⟩ := exists_fields separator rest
      rw [cut] at ih
      rw [List.cons_append]
      by_cases same : char = separator
      · rw [fields, if_pos same, ih, fields, if_pos same, cut]
        rfl
      · rw [fields_cons_of_ne same ih, fields_cons_of_ne same cut]
        rfl

theorem fields_of_not_mem (absent : separator ∉ field) : fields separator field = [field] := by
  induction field with
  | nil => rfl
  | cons char rest ih =>
      simp only [List.mem_cons, not_or] at absent
      exact fields_cons_of_ne (Ne.symm absent.1) (ih absent.2)

theorem fields_append (absent : separator ∉ field) (text : List Char) :
    fields separator (field ++ separator :: text) = field :: fields separator text := by
  rw [fields_append_separator, fields_of_not_mem absent]
  rfl

/-- A text is cut in one way only at the first separator in it. -/
theorem append_separator_inj {other rest tail : List Char} (absent : separator ∉ field)
    (alsoAbsent : separator ∉ other) :
    field ++ separator :: rest = other ++ separator :: tail ↔ field = other ∧ rest = tail := by
  constructor
  · intro same
    have cuts := congrArg (fields separator) same
    rw [fields_append absent, fields_append alsoAbsent] at cuts
    have fronts : field = other := (List.cons.inj cuts).1
    subst fronts
    exact ⟨rfl, (List.cons.inj (List.append_cancel_left same)).2⟩
  · rintro ⟨rfl, rfl⟩
    rfl

theorem not_mem_of_mem_fields (listed : field ∈ fields separator text) : separator ∉ field := by
  induction text generalizing field with
  | nil =>
      rw [List.mem_singleton.1 listed]
      exact List.not_mem_nil
  | cons char rest ih =>
      obtain ⟨head, others, cut⟩ := exists_fields separator rest
      by_cases same : char = separator
      · rw [fields, if_pos same] at listed
        rcases List.mem_cons.1 listed with rfl | later
        · exact List.not_mem_nil
        · exact ih later
      · rw [fields_cons_of_ne same cut] at listed
        rw [cut] at ih
        rcases List.mem_cons.1 listed with rfl | later
        · rw [List.mem_cons, not_or]
          exact ⟨Ne.symm same, ih List.mem_cons_self⟩
        · exact ih (List.mem_cons_of_mem head later)

theorem joinFields_concat {front : List (List Char)} (some : front ≠ []) (last : List Char) :
    joinFields separator (front ++ [last]) = joinFields separator front ++ separator :: last := by
  induction front with
  | nil => exact absurd rfl some
  | cons first rest ih =>
      cases rest with
      | nil => rfl
      | cons second others =>
          change first ++ separator :: joinFields separator ((second :: others) ++ [last]) =
            first ++ separator :: joinFields separator (second :: others) ++ separator :: last
          rw [ih (List.cons_ne_nil second others), List.append_assoc, List.cons_append]

/-- The last field follows the last separator. -/
theorem fields_eq_concat_iff {front : List (List Char)} (some : front ≠ []) {last : List Char} :
    fields separator text = front ++ [last] ↔
      separator ∉ last ∧ ∃ stem, text = stem ++ separator :: last ∧ fields separator stem = front := by
  constructor
  · intro cut
    have absent : separator ∉ last :=
      not_mem_of_mem_fields (cut ▸ List.mem_append_right front (List.mem_singleton_self last))
    have whole : text = joinFields separator front ++ separator :: last := by
      rw [← joinFields_concat some, ← cut, joinFields_fields]
    refine ⟨absent, joinFields separator front, whole, ?_⟩
    rw [whole, fields_append_separator, fields_of_not_mem absent] at cut
    exact List.append_cancel_right cut
  · rintro ⟨absent, stem, rfl, rfl⟩
    rw [fields_append_separator, fields_of_not_mem absent]

theorem fields_eq_blank_iff : fields separator text = [[]] ↔ text = [] := by
  constructor
  · intro cut
    rw [← joinFields_fields separator text, cut]
    rfl
  · rintro rfl
    rfl

theorem fields_joined (absent : separator ∉ field) (others : ∀ group ∈ groups, separator ∉ group) :
    fields separator (field ++ (groups.map (separator :: ·)).flatten) = field :: groups := by
  induction groups generalizing field with
  | nil => simpa using fields_of_not_mem absent
  | cons group groups ih =>
      have later := ih (others group List.mem_cons_self)
        (fun other member => others other (List.mem_cons_of_mem _ member))
      rw [List.map_cons, List.flatten_cons, List.cons_append, fields_append absent, later]

theorem joinFields_eq :
    joinFields separator (field :: groups) = field ++ (groups.map (separator :: ·)).flatten := by
  induction groups generalizing field with
  | nil => simp [joinFields]
  | cons group groups ih => simp [joinFields, ih]

end OntologyLint.Text
