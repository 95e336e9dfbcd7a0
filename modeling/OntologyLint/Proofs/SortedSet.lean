import OntologyLint.SortedSet.Basic

set_option autoImplicit false

/-! What increasing order gives a list: no element comes twice, and the first one is the least. -/

namespace OntologyLint

variable {α : Type} [Ord α] [Std.TransOrd α] {items : List α}

omit [Std.TransOrd α] in
theorem SortedSet.not_isEmpty_iff {set : SortedSet α} :
    (!set.isEmpty) = true ↔ ∃ item, item ∈ set := by
  rw [Bool.not_eq_true']
  exact List.isEmpty_eq_false_iff_exists_mem

theorem not_lt_self (item : α) : compare item item ≠ .lt := by
  rw [show compare item item = .eq from Std.ReflCmp.compare_self]
  decide

/-- The search for an item in an increasing list may end before the list does. -/
theorem lacksIncreasing_iff [Std.LawfulEqOrd α] {item : α} (sorted : Increasing items) :
    lacksIncreasing item items = true ↔ item ∉ items := by
  induction items with
  | nil => simp [lacksIncreasing]
  | cons head tail ih =>
      obtain ⟨below, rest⟩ := List.pairwise_cons.1 sorted
      unfold lacksIncreasing
      split
      · rename_i before
        refine ⟨?_, fun _ => rfl⟩
        intro _new found
        rcases List.mem_cons.1 found with same | later
        · rw [same] at before
          exact not_lt_self head before
        · exact not_lt_self item (Std.TransCmp.lt_trans before (below item later))
      · rename_i equal
        have same : item = head := Std.LawfulEqOrd.eq_of_compare equal
        rw [same]
        simp
      · rename_i after
        have different : item ≠ head := by
          intro same
          rw [same] at after
          exact not_lt_self head (Std.OrientedCmp.gt_iff_lt.1 after)
        rw [ih rest, List.mem_cons, not_or]
        exact (and_iff_right different).symm

namespace SortedSet

variable [Std.LawfulEqOrd α] {item : α} {set : SortedSet α}

theorem isEmpty_iff : set.isEmpty = true ↔ set = ∅ := by
  constructor
  · intro none
    ext item
    rw [← mem_toList, List.isEmpty_iff.1 none]
    exact iff_of_false List.not_mem_nil (not_mem_empty item)
  · intro none
    rw [none]
    rfl

theorem size_eq_zero_iff : set.size = 0 ↔ set = ∅ := by
  rw [← isEmpty_iff, isEmpty, List.isEmpty_iff, size, List.length_eq_zero_iff]

@[simp]
theorem add_snd : (set.add item).2 = set.insert item := rfl

@[simp]
theorem add_fst_iff : (set.add item).1 = true ↔ item ∉ set :=
  lacksIncreasing_iff set.increasing

end SortedSet

theorem Increasing.nodup (sorted : Increasing items) : items.Nodup := by
  refine List.Pairwise.imp ?_ sorted
  rintro a _ before rfl
  exact not_lt_self a before

theorem SortedSet.size_eq_length {set : SortedSet α} (distinct : items.Nodup)
    (same : ∀ item, item ∈ set ↔ item ∈ items) : set.size = items.length :=
  ((List.perm_ext_iff_of_nodup set.increasing.nodup distinct).2 same).length_eq

theorem nodup_eraseDups {β : Type} [DecidableEq β] (items : List β) : items.eraseDups.Nodup := by
  cases items with
  | nil => exact List.nodup_nil
  | cons head tail =>
      rw [List.eraseDups_cons, List.nodup_cons]
      refine ⟨?_, nodup_eraseDups (tail.filter (fun other => !other == head))⟩
      rw [List.mem_eraseDups, List.mem_filter]
      simp
termination_by items.length
decreasing_by exact Nat.lt_succ_of_le (List.length_filter_le _ tail)

/-- Passing over what was met before leaves the members of the set, each of them once. -/
theorem SortedSet.eraseDups_perm_ofList [DecidableEq α] [Std.LawfulEqOrd α] (items : List α) :
    items.eraseDups.Perm (SortedSet.ofList items).toList := by
  apply (List.perm_ext_iff_of_nodup (nodup_eraseDups items) (ofList items).increasing.nodup).2
  intro item
  rw [List.mem_eraseDups, mem_toList, mem_ofList]

theorem Increasing.head?_eq_some {first : α} (sorted : Increasing items) :
    items.head? = some first ↔ first ∈ items ∧ ∀ other ∈ items, compare other first ≠ .lt := by
  cases items with
  | nil => simp
  | cons head tail =>
      have below := (List.pairwise_cons.1 sorted).1
      rw [List.head?_cons, Option.some.injEq]
      constructor
      · rintro rfl
        refine ⟨List.mem_cons_self, ?_⟩
        intro other member before
        rcases List.mem_cons.1 member with rfl | later
        · exact not_lt_self other before
        · exact not_lt_self other (Std.TransCmp.lt_trans before (below other later))
      · rintro ⟨member, least⟩
        rcases List.mem_cons.1 member with same | later
        · exact same.symm
        · exact absurd (below first later) (least head List.mem_cons_self)

end OntologyLint
