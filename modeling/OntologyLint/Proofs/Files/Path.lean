import Mathlib.Data.List.DropRight
import OntologyLint.Files.Disk
import OntologyLint.Proofs.Text.Fields

set_option autoImplicit false

/-! Where paths lead, told by the names on them. The directory of a file has all names of the path but
the last, and a relative path that is joined to a directory leads on from there. -/

namespace OntologyLint

namespace Path

variable {path part directory : String} {parts : List String}

def names (parts : List String) : List String := parts.filter (fun segment => !isIdle segment)

theorem namesOf_eq (path : String) : FileTree.namesOf path = names (segments path) := rfl

theorem not_mem_of_mem_segments (listed : part ∈ segments path) : '/' ∉ part.toList := by
  obtain ⟨field, cut, rfl⟩ := List.mem_map.1 listed
  rw [String.toList_ofList]
  exact Text.not_mem_of_mem_fields cut

theorem segments_append_slash (left right : String) :
    segments (left ++ "/" ++ right) = segments left ++ segments right := by
  unfold segments
  rw [String.toList_append, String.toList_append, List.append_assoc, ← List.map_append,
    ← Text.fields_append_separator]
  rfl

theorem segments_of_not_mem (absent : '/' ∉ part.toList) : segments part = [part] := by
  rw [segments, Text.fields_of_not_mem absent, List.map_singleton, String.ofList_toList]

/-- Segments that are written between slashes are found there again. -/
theorem segments_intercalate (some : parts ≠ []) (clean : ∀ part ∈ parts, '/' ∉ part.toList) :
    segments ("/".intercalate parts) = parts := by
  induction parts with
  | nil => exact absurd rfl some
  | cons first rest ih =>
      have alone := segments_of_not_mem (clean first List.mem_cons_self)
      cases rest with
      | nil => rw [String.intercalate_singleton, alone]
      | cons second others =>
          rw [String.intercalate_cons_cons, segments_append_slash, alone,
            ih (List.cons_ne_nil second others)
              (fun part later => clean part (List.mem_cons_of_mem first later))]
          rfl

section Idle

theorem trimIdle_concat (parts : List String) (last : String) :
    trimIdle (parts ++ [last]) = if isIdle last then trimIdle parts else parts ++ [last] :=
  List.rdropWhile_concat isIdle parts last

theorem trimIdle_begins (parts : List String) : trimIdle parts <+: parts :=
  List.rdropWhile_prefix isIdle parts

theorem names_concat (parts : List String) (last : String) :
    names (parts ++ [last]) = if isIdle last then names parts else names parts ++ [last] := by
  unfold names
  rw [List.filter_append]
  cases idle : isIdle last with
  | true => simp [idle]
  | false => simp [idle]

theorem names_trimIdle (parts : List String) : names (trimIdle parts) = names parts := by
  induction parts using List.reverseRecOn with
  | nil => rfl
  | append_singleton rest last ih =>
      rw [trimIdle_concat, names_concat]
      cases idle : isIdle last with
      | true => exact ih
      | false => exact (names_concat rest last).trans (if_neg (by rw [idle]; decide))

theorem names_up (parts : List String) :
    names (trimIdle (trimIdle parts).dropLast) = (names parts).dropLast := by
  rw [names_trimIdle]
  induction parts using List.reverseRecOn with
  | nil => rfl
  | append_singleton rest last ih =>
      rw [trimIdle_concat, names_concat]
      cases idle : isIdle last with
      | true => exact ih
      | false =>
          rw [if_neg (by decide), if_neg (by decide), List.dropLast_concat, List.dropLast_concat]

theorem isIdle_last {last : String} (found : (trimIdle parts).getLast? = some last) :
    isIdle last = false := by
  induction parts using List.reverseRecOn with
  | nil => cases found
  | append_singleton rest segment ih =>
      rw [trimIdle_concat] at found
      cases idle : isIdle segment with
      | true =>
          rw [if_pos idle] at found
          exact ih found
      | false =>
          rw [if_neg (by rw [idle]; decide), List.getLast?_concat] at found
          cases found
          exact idle

theorem getLast?_trimIdle (parts : List String) :
    (trimIdle parts).getLast? = (names parts).getLast? := by
  induction parts using List.reverseRecOn with
  | nil => rfl
  | append_singleton rest last ih =>
      rw [trimIdle_concat, names_concat]
      cases idle : isIdle last with
      | true => exact ih
      | false =>
          rw [if_neg (by decide), if_neg (by decide), List.getLast?_concat, List.getLast?_concat]

end Idle

section Ending

theorem fileName?_eq (path : String) :
    fileName? path = (FileTree.namesOf path).getLast?.filter (· != "..") := by
  rw [fileName?, getLast?_trimIdle]
  rfl

theorem exists_stem_iff {name ending : String} :
    ('.' ∉ ending.toList ∧ ∃ stem, stem ≠ "" ∧ name = stem ++ "." ++ ending) ↔
      ∃ front, front ≠ [] ∧ front ≠ [[]] ∧
        Text.fields '.' name.toList = front ++ [ending.toList] := by
  constructor
  · rintro ⟨absent, stem, some, rfl⟩
    obtain ⟨field, others, cut⟩ := Text.exists_fields '.' stem.toList
    have listed : Text.fields '.' stem.toList ≠ [] := cut ▸ List.cons_ne_nil field others
    refine ⟨Text.fields '.' stem.toList, listed, ?_, ?_⟩
    · rw [ne_eq, Text.fields_eq_blank_iff, String.toList_eq_nil_iff]
      exact some
    · refine (Text.fields_eq_concat_iff listed).2 ⟨absent, stem.toList, ?_, rfl⟩
      rw [String.toList_append, String.toList_append, List.append_assoc]
      rfl
  · rintro ⟨front, listed, some, cut⟩
    obtain ⟨absent, stem, whole, rfl⟩ := (Text.fields_eq_concat_iff listed).1 cut
    refine ⟨absent, String.ofList stem, ?_, ?_⟩
    · rw [ne_eq, Text.fields_eq_blank_iff] at some
      rw [ne_eq, ← String.toList_eq_nil_iff, String.toList_ofList]
      exact some
    · apply String.toList_inj.1
      rw [whole, String.toList_append, String.toList_append, String.toList_ofList,
        List.append_assoc]
      rfl

theorem extension?_eq {name : String} (named : fileName? path = some name)
    {front : List (List Char)} {last : List Char}
    (cut : Text.fields '.' name.toList = front ++ [last]) :
    extension? path = if front = [] ∨ front = [[]] then none else some (String.ofList last) := by
  simp only [extension?, named, cut, List.reverse_concat]
  cases front using List.reverseRecOn with
  | nil => rfl
  | append_singleton others earlier =>
      simp only [List.reverse_concat]
      cases others with
      | nil => cases earlier <;> simp
      | cons first rest => simp

/-- The extension follows the last dot of the file name, unless the name begins there. -/
theorem extension?_eq_some_iff {ending : String} :
    extension? path = some ending ↔
      '.' ∉ ending.toList ∧
        ∃ stem, stem ≠ "" ∧ fileName? path = some (stem ++ "." ++ ending) := by
  cases named : fileName? path with
  | none => simp [extension?, named]
  | some name =>
      obtain ⟨field, others, cut⟩ := Text.exists_fields '.' name.toList
      obtain ⟨front, last, whole⟩ := (List.eq_nil_or_concat (field :: others)).resolve_left
        (List.cons_ne_nil field others)
      rw [whole, List.concat_eq_append] at cut
      simp only [Option.some.injEq]
      rw [exists_stem_iff, extension?_eq named cut, cut]
      by_cases bare : front = [] ∨ front = [[]]
      · rw [if_pos bare]
        refine iff_of_false (by simp) ?_
        rintro ⟨other, listed, some, same⟩
        cases (List.append_inj' same rfl).1
        exact bare.elim listed some
      · rw [if_neg bare, Option.some.injEq]
        rw [not_or] at bare
        constructor
        · rintro rfl
          exact ⟨front, bare.1, bare.2, by rw [String.toList_ofList]⟩
        · rintro ⟨other, _listed, _some, same⟩
          have last_eq : last = ending.toList := List.singleton_inj.1 (List.append_inj' same rfl).2
          rw [last_eq, String.ofList_toList]

end Ending

section Root

theorem isAbsolute_iff :
    isAbsolute path = true ↔ ∃ second rest, segments path = "" :: second :: rest := by
  unfold isAbsolute segments
  cases path.toList with
  | nil =>
      constructor
      · intro impossible
        cases impossible
      · rintro ⟨second, rest, impossible⟩
        cases impossible
  | cons char text =>
      obtain ⟨field, others, cut⟩ := Text.exists_fields '/' text
      rw [List.head?_cons, beq_iff_eq, Option.some.injEq]
      by_cases root : char = '/'
      · rw [Text.fields, if_pos root, cut]
        exact iff_of_true root ⟨_, _, rfl⟩
      · rw [Text.fields_cons_of_ne root cut]
        refine iff_of_false root ?_
        rintro ⟨second, rest, same⟩
        have named := congrArg String.toList (List.cons.inj same).1
        rw [String.toList_ofList] at named
        cases named

end Root

section Parent

def up (path : String) : List String := trimIdle (trimIdle (segments path)).dropLast

theorem up_begins (path : String) : up path <+: segments path := by
  have shorter : (trimIdle (segments path)).dropLast <+: trimIdle (segments path) :=
    List.dropLast_prefix _
  exact (trimIdle_begins _).trans (shorter.trans (trimIdle_begins _))

theorem segments_intercalate_up (some : up path ≠ []) :
    segments ("/".intercalate (up path)) = up path :=
  segments_intercalate some
    (fun _part listed => not_mem_of_mem_segments ((up_begins path).subset listed))

theorem parent_of_up (some : up path ≠ []) : parent path = "/".intercalate (up path) :=
  if_neg (fun empty => some (List.isEmpty_iff.1 empty))

theorem parent_of_top (top : up path = []) :
    (parent path = "/" ∧ isAbsolute path = true) ∨
      ((parent path = "" ∨ parent path = ".") ∧ isAbsolute path = false) := by
  have shape : parent path =
      if (segments path).length ≤ 1 then ""
      else if isAbsolute path then "/"
      else if (segments path).head? = some "." then "."
      else "" := if_pos (List.isEmpty_iff.2 top)
  rw [shape]
  cases rooted : isAbsolute path with
  | true =>
      obtain ⟨second, rest, cut⟩ := isAbsolute_iff.1 rooted
      rw [cut, if_neg (by simp), if_pos rfl]
      exact Or.inl ⟨rfl, rfl⟩
  | false =>
      refine Or.inr ⟨?_, rfl⟩
      split
      · exact Or.inl rfl
      · rw [if_neg (by decide)]
        split
        · exact Or.inr rfl
        · exact Or.inl rfl

theorem namesOf_parent (path : String) :
    FileTree.namesOf (parent path) = (FileTree.namesOf path).dropLast := by
  rw [namesOf_eq path, ← names_up]
  by_cases top : up path = []
  · rw [show trimIdle (trimIdle (segments path)).dropLast = [] from top]
    rcases parent_of_top top with ⟨root, _absolute⟩ | ⟨start | start, _relative⟩
    · rw [root]
      rfl
    · rw [start]
      rfl
    · rw [start]
      rfl
  · rw [parent_of_up top, namesOf_eq, segments_intercalate_up top]
    rfl

theorem isAbsolute_parent (path : String) : isAbsolute (parent path) = isAbsolute path := by
  by_cases top : up path = []
  · rcases parent_of_top top with ⟨root, absolute⟩ | ⟨start | start, relative⟩
    · rw [root, absolute]
      rfl
    · rw [start, relative]
      rfl
    · rw [start, relative]
      rfl
  · rw [Bool.eq_iff_iff, isAbsolute_iff, isAbsolute_iff, parent_of_up top,
      segments_intercalate_up top]
    obtain ⟨tail, extended⟩ := up_begins path
    rw [← extended]
    constructor
    · rintro ⟨second, rest, cut⟩
      rw [cut]
      exact ⟨second, rest ++ tail, rfl⟩
    · rintro ⟨second, rest, cut⟩
      -- A directory that is more than the root has a second segment: its last one is not idle.
      cases listed : up path with
      | nil => exact absurd listed top
      | cons first others =>
          cases others with
          | cons later last =>
              rw [listed] at cut
              cases (List.cons.inj cut).1
              exact ⟨later, last, rfl⟩
          | nil =>
              rw [listed] at cut
              cases (List.cons.inj cut).1
              have ended : (up path).getLast? = some "" := by rw [listed]; rfl
              cases isIdle_last ended

end Parent

section Join

variable (relative : isAbsolute path = false)

theorem getLast_slash (closed : directory.toList.getLast? = some '/') :
    ∃ outer, directory = outer ++ "/" := by
  obtain ⟨outer, same⟩ := List.getLast?_eq_some_iff.1 closed
  refine ⟨String.ofList outer, ?_⟩
  apply String.toList_inj.1
  rw [same, String.toList_append, String.toList_ofList]
  rfl

include relative

theorem namesOf_join :
    FileTree.namesOf (join directory path) =
      FileTree.namesOf directory ++ FileTree.namesOf path := by
  simp only [namesOf_eq]
  unfold join
  rw [relative, Bool.false_or]
  split
  · rename_i start
    rw [String.isEmpty_iff.1 start]
    rfl
  · split
    · rename_i closed
      obtain ⟨outer, rfl⟩ := getLast_slash closed
      have alone : segments (outer ++ "/") = segments outer ++ [""] := by
        have cut := segments_append_slash outer ""
        rw [String.append_empty] at cut
        exact cut
      rw [segments_append_slash, alone, names_concat, if_pos (by decide)]
      exact List.filter_append ..
    · rw [segments_append_slash]
      exact List.filter_append ..

theorem isAbsolute_join : isAbsolute (join directory path) = isAbsolute directory := by
  unfold join
  rw [relative, Bool.false_or]
  split
  · rename_i start
    rw [relative, String.isEmpty_iff.1 start]
    rfl
  · rename_i some
    have inside : directory.toList ≠ [] := by
      intro none
      rw [String.isEmpty_iff, ← String.toList_eq_nil_iff] at some
      exact some none
    unfold isAbsolute
    split
    · rw [String.toList_append, List.head?_append_of_ne_nil _ inside]
    · rw [String.append_assoc, String.toList_append, List.head?_append_of_ne_nil _ inside]

end Join

end Path

end OntologyLint
