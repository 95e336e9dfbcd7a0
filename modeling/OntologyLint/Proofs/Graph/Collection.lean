import Mathlib.Data.Nat.Choose.Basic
import OntologyLint.Graph.Collection
import OntologyLint.Proofs.SortedSet

set_option autoImplicit false

/-! The pairs of a list: the elements at two places, the earlier one first. A list without
repetitions pairs every two of its elements once; in increasing order the smaller one comes first. -/

namespace OntologyLint

section Pairs

variable {α : Type} {items : List α} {a b : α}

theorem mem_pairsOf : (a, b) ∈ pairsOf items ↔ [a, b].Sublist items := by
  induction items with
  | nil => simp [pairsOf]
  | cons head tail ih =>
      rw [pairsOf, List.mem_append, List.mem_map, ih, List.sublist_cons_iff]
      constructor
      · rintro (⟨second, member, same⟩ | later)
        · cases same
          exact Or.inr ⟨[b], rfl, List.singleton_sublist.2 member⟩
        · exact Or.inl later
      · rintro (later | ⟨rest, same, below⟩)
        · exact Or.inr later
        · cases same
          exact Or.inl ⟨b, List.singleton_sublist.1 below, rfl⟩

theorem pair_sublist_iff :
    [a, b].Sublist items ↔ ∃ i j : Nat, i < j ∧ items[i]? = some a ∧ items[j]? = some b := by
  induction items with
  | nil => simp
  | cons head tail ih =>
      rw [List.sublist_cons_iff, ih]
      constructor
      · rintro (⟨i, j, before, first, second⟩ | ⟨rest, same, below⟩)
        · exact ⟨i + 1, j + 1, Nat.succ_lt_succ before, first, second⟩
        · cases same
          obtain ⟨j, second⟩ := List.mem_iff_getElem?.1 (List.singleton_sublist.1 below)
          exact ⟨0, j + 1, Nat.succ_pos j, rfl, second⟩
      · rintro ⟨i, j, before, first, second⟩
        cases j with
        | zero => exact absurd before (Nat.not_lt_zero i)
        | succ j =>
            cases i with
            | zero =>
                cases first
                exact Or.inr ⟨[b], rfl,
                  List.singleton_sublist.2 (List.mem_iff_getElem?.2 ⟨j, second⟩)⟩
            | succ i => exact Or.inl ⟨i, j, Nat.lt_of_succ_lt_succ before, first, second⟩

theorem nodup_pairsOf (distinct : items.Nodup) : (pairsOf items).Nodup := by
  induction items with
  | nil => exact List.nodup_nil
  | cons head tail ih =>
      obtain ⟨fresh, rest⟩ := List.nodup_cons.1 distinct
      refine List.nodup_append.2 ⟨?_, ih rest, ?_⟩
      · exact List.Pairwise.map _ (fun _ _ different same => different (Prod.mk.inj same).2) rest
      · rintro pair paired other later rfl
        obtain ⟨second, _member, rfl⟩ := List.mem_map.1 paired
        exact fresh ((mem_pairsOf.1 later).subset List.mem_cons_self)

theorem length_pairsOf : (pairsOf items).length = items.length * (items.length - 1) / 2 := by
  induction items with
  | nil => simp [pairsOf]
  | cons head tail ih =>
      rw [pairsOf, List.length_append, List.length_map, ih, List.length_cons, Nat.triangle_succ,
        Nat.add_comm]

theorem count_map_pair [DecidableEq α] {head : α} {tail : List α} :
    (tail.map (fun second => (head, second))).count (a, b) =
      if head = a then tail.count b else 0 := by
  induction tail with
  | nil => rw [List.map_nil, List.count_nil, List.count_nil, ite_self]
  | cons second rest ih =>
      rw [List.map_cons, List.count_cons, List.count_cons, ih]
      by_cases same : head = a
      · simp [same]
      · simp [same]

/-- Each place of one element makes a pair with each place of another, in one direction or the
other. -/
theorem count_pairsOf [DecidableEq α] (different : a ≠ b) :
    (pairsOf items).count (a, b) + (pairsOf items).count (b, a) =
      items.count a * items.count b := by
  induction items with
  | nil => rw [pairsOf, List.count_nil, List.count_nil, List.count_nil, Nat.zero_mul]
  | cons head tail ih =>
      rw [pairsOf, List.count_append, List.count_append, count_map_pair, count_map_pair]
      by_cases first : head = a
      · have second : head ≠ b := fun same => different (first.symm.trans same)
        rw [if_pos first, if_neg second, first, List.count_cons_self,
          List.count_cons_of_ne different, Nat.succ_mul, ← ih]
        omega
      · rw [if_neg first, List.count_cons_of_ne first]
        by_cases second : head = b
        · rw [if_pos second, second, List.count_cons_self, Nat.mul_succ, ← ih]
          omega
        · rw [if_neg second, List.count_cons_of_ne second, ← ih]
          omega

/-- Of a list without repetitions every two different elements make one pair, in one direction. -/
theorem count_pairsOf_of_nodup [DecidableEq α] (distinct : items.Nodup) :
    (pairsOf items).count (a, b) + (pairsOf items).count (b, a) =
      if a ∈ items ∧ b ∈ items ∧ a ≠ b then 1 else 0 := by
  by_cases different : a ≠ b
  · rw [count_pairsOf different, distinct.count, distinct.count]
    by_cases first : a ∈ items
    · rw [if_pos first, Nat.one_mul]
      simp only [first, different, true_and, and_true, ne_eq, not_false_eq_true]
    · rw [if_neg first, Nat.zero_mul, if_neg (fun known => first known.1)]
  · have same : a = b := not_not.1 different
    have absent : (b, b) ∉ pairsOf items := by
      intro paired
      have alone : [b, b].Nodup := (mem_pairsOf.1 paired).nodup distinct
      exact (List.nodup_cons.1 alone).1 List.mem_cons_self
    rw [same, List.count_eq_zero_of_not_mem absent, if_neg (fun known => known.2.2 rfl)]

end Pairs

section Increasing

variable {α : Type} [Ord α] [Std.TransOrd α] {items : List α} {a b : α}

theorem mem_pairsOf_increasing (sorted : Increasing items) :
    (a, b) ∈ pairsOf items ↔ a ∈ items ∧ b ∈ items ∧ compare a b = .lt := by
  rw [mem_pairsOf]
  constructor
  · intro paired
    have ordered : Increasing [a, b] := sorted.sublist paired
    exact ⟨paired.subset List.mem_cons_self,
      paired.subset (List.mem_cons_of_mem _ List.mem_cons_self),
      (List.pairwise_cons.1 ordered).1 b List.mem_cons_self⟩
  · rintro ⟨first, second, before⟩
    induction items with
    | nil => cases first
    | cons head tail ih =>
        obtain ⟨below, rest⟩ := List.pairwise_cons.1 sorted
        rcases List.mem_cons.1 first with rfl | later
        · rcases List.mem_cons.1 second with rfl | after
          · exact absurd before (not_lt_self b)
          · exact .cons_cons a (List.singleton_sublist.2 after)
        · rcases List.mem_cons.1 second with rfl | after
          · exact absurd (Std.TransCmp.lt_trans before (below a later)) (not_lt_self a)
          · exact (ih rest later after).cons head

end Increasing

/-- The literals among some objects part no pair of resources. -/
theorem pair_sublist_resources {objects : List Object} {a b : Resource} :
    [a, b].Sublist (objects.filterMap Object.resource?) ↔
      [.resource a, .resource b].Sublist objects := by
  constructor
  · intro paired
    induction objects with
    | nil => cases paired
    | cons head tail ih =>
        cases head with
        | literal value => exact (ih paired).cons _
        | resource value =>
            rcases List.sublist_cons_iff.1 paired with later | ⟨rest, same, below⟩
            · exact (ih later).cons _
            · cases same
              obtain ⟨object, member, found⟩ :=
                List.mem_filterMap.1 (List.singleton_sublist.1 below)
              cases object with
              | literal value => cases found
              | resource value =>
                  cases found
                  exact .cons_cons _ (List.singleton_sublist.2 member)
  · intro paired
    exact paired.filterMap Object.resource?

end OntologyLint
