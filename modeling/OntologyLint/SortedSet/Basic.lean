set_option autoImplicit false

/-! Finite sets kept as strictly increasing lists. Two sets with the same members are equal,
so a set never remembers the order or the number of insertions that made it. -/

namespace OntologyLint

open Std (TransOrd LawfulEqOrd)

variable {α : Type} [Ord α]

abbrev Increasing (items : List α) : Prop :=
  items.Pairwise (fun a b => compare a b = .lt)

/-- Inserts into a strictly increasing list, keeping it so; an equal element stays. -/
def insertIncreasing (item : α) : List α → List α
  | [] => [item]
  | head :: tail =>
      match compare item head with
      | .lt => item :: head :: tail
      | .eq => head :: tail
      | .gt => head :: insertIncreasing item tail

/-- Whether a strictly increasing list lacks an item. The search ends at the first element that is
not below the item. -/
def lacksIncreasing (item : α) : List α → Bool
  | [] => true
  | head :: tail =>
      match compare item head with
      | .lt => true
      | .eq => false
      | .gt => lacksIncreasing item tail

def dropRepeats : List α → List α
  | [] => []
  | [item] => [item]
  | first :: second :: rest =>
      if compare first second = .eq then dropRepeats (first :: rest)
      else first :: dropRepeats (second :: rest)
termination_by items => items.length

theorem mem_of_mem_dropRepeats {item : α} {items : List α} :
    item ∈ dropRepeats items → item ∈ items := by
  fun_induction dropRepeats items with
  | case1 => exact id
  | case2 => exact id
  | case3 first second rest same ih =>
      intro found
      rcases List.mem_cons.1 (ih found) with rfl | later
      · exact List.mem_cons_self
      · exact List.mem_cons_of_mem _ (List.mem_cons_of_mem _ later)
  | case4 first second rest different ih =>
      intro found
      rcases List.mem_cons.1 found with rfl | later
      · exact List.mem_cons_self
      · exact List.mem_cons_of_mem _ (ih later)

section Lawful

variable [TransOrd α] [LawfulEqOrd α]

omit [TransOrd α] in
theorem mem_insertIncreasing {item other : α} {items : List α} :
    other ∈ insertIncreasing item items ↔ other = item ∨ other ∈ items := by
  induction items with
  | nil => simp [insertIncreasing]
  | cons head tail ih =>
      unfold insertIncreasing
      split
      · simp
      · rename_i same
        have := LawfulEqOrd.eq_of_compare same
        subst this
        simp
      · simp only [List.mem_cons, ih]
        constructor
        · rintro (rfl | rfl | h) <;> simp_all
        · rintro (rfl | rfl | h) <;> simp_all

theorem increasing_insertIncreasing {item : α} {items : List α} (sorted : Increasing items) :
    Increasing (insertIncreasing item items) := by
  induction items with
  | nil => simp [insertIncreasing, Increasing]
  | cons head tail ih =>
      obtain ⟨below, rest⟩ := List.pairwise_cons.1 sorted
      unfold insertIncreasing
      split
      · rename_i before
        refine List.pairwise_cons.2 ⟨?_, sorted⟩
        intro other found
        rcases List.mem_cons.1 found with rfl | later
        · exact before
        · exact Std.TransCmp.lt_trans before (below other later)
      · exact sorted
      · rename_i after
        refine List.pairwise_cons.2 ⟨?_, ih rest⟩
        intro other found
        rcases mem_insertIncreasing.1 found with rfl | later
        · exact Std.OrientedCmp.gt_iff_lt.1 after
        · exact below other later

omit [LawfulEqOrd α] in
theorem increasing_dropRepeats {items : List α}
    (sorted : items.Pairwise (fun a b => (compare a b).isLE = true)) :
    Increasing (dropRepeats items) := by
  fun_induction dropRepeats items with
  | case1 => exact .nil
  | case2 item => exact List.pairwise_singleton _ _
  | case3 first second rest same ih =>
      obtain ⟨below, tail⟩ := List.pairwise_cons.1 sorted
      obtain ⟨_, tail⟩ := List.pairwise_cons.1 tail
      exact ih (List.pairwise_cons.2
        ⟨fun other later => below other (List.mem_cons_of_mem _ later), tail⟩)
  | case4 first second rest different ih =>
      obtain ⟨below, tail⟩ := List.pairwise_cons.1 sorted
      refine List.pairwise_cons.2 ⟨?_, ih tail⟩
      intro other found
      have step : compare first second = .lt := by
        have atMost := below second List.mem_cons_self
        cases order : compare first second with
        | lt => rfl
        | eq => exact absurd order different
        | gt => rw [order] at atMost; exact absurd atMost (by decide)
      rcases List.mem_cons.1 (mem_of_mem_dropRepeats found) with rfl | later
      · exact step
      · exact Std.TransCmp.lt_of_lt_of_isLE step
          ((List.pairwise_cons.1 tail).1 other later)

omit [TransOrd α] in
theorem mem_dropRepeats {item : α} {items : List α} :
    item ∈ dropRepeats items ↔ item ∈ items := by
  refine ⟨mem_of_mem_dropRepeats, ?_⟩
  fun_induction dropRepeats items with
  | case1 => exact id
  | case2 => exact id
  | case3 first second rest same ih =>
      have := LawfulEqOrd.eq_of_compare same
      subst this
      intro found
      exact ih (by simpa using found)
  | case4 first second rest different ih =>
      intro found
      rcases List.mem_cons.1 found with rfl | later
      · exact List.mem_cons_self
      · exact List.mem_cons_of_mem _ (ih later)

end Lawful

/-- A finite set, listed in increasing order. -/
structure SortedSet (α : Type) [Ord α] where
  toList : List α
  increasing : Increasing toList

namespace SortedSet

instance [DecidableEq α] : DecidableEq (SortedSet α) := fun a b =>
  decidable_of_iff (a.toList = b.toList)
    ⟨fun same => by cases a; cases b; simp_all, fun same => same ▸ rfl⟩

instance : Membership α (SortedSet α) := ⟨fun set item => item ∈ set.toList⟩

theorem mem_toList {set : SortedSet α} {item : α} : item ∈ set.toList ↔ item ∈ set := Iff.rfl

instance [DecidableEq α] (item : α) (set : SortedSet α) : Decidable (item ∈ set) :=
  inferInstanceAs (Decidable (item ∈ set.toList))

def empty : SortedSet α := ⟨[], .nil⟩

instance : EmptyCollection (SortedSet α) := ⟨empty⟩

instance : Inhabited (SortedSet α) := ⟨empty⟩

@[simp]
theorem not_mem_empty (item : α) : item ∉ (∅ : SortedSet α) := fun found => by
  cases mem_toList.2 found

def size (set : SortedSet α) : Nat := set.toList.length

def isEmpty (set : SortedSet α) : Bool := set.toList.isEmpty

def contains [DecidableEq α] (set : SortedSet α) (item : α) : Bool := decide (item ∈ set)

def filter (test : α → Bool) (set : SortedSet α) : SortedSet α :=
  ⟨set.toList.filter test, set.increasing.filter _⟩

theorem mem_filter {test : α → Bool} {set : SortedSet α} {item : α} :
    item ∈ set.filter test ↔ item ∈ set ∧ test item = true :=
  List.mem_filter

variable [TransOrd α] [LawfulEqOrd α]

def insert (item : α) (set : SortedSet α) : SortedSet α :=
  ⟨insertIncreasing item set.toList, increasing_insertIncreasing set.increasing⟩

@[simp]
theorem mem_insert {item other : α} {set : SortedSet α} :
    other ∈ set.insert item ↔ other = item ∨ other ∈ set :=
  mem_insertIncreasing

/-- Inserts an item, and tells whether it is new to the set. -/
def add (item : α) (set : SortedSet α) : Bool × SortedSet α :=
  (lacksIncreasing item set.toList, set.insert item)

omit [LawfulEqOrd α] in
theorem pairwise_mergeSort (items : List α) :
    (items.mergeSort (fun a b => (compare a b).isLE)).Pairwise
      (fun a b => (compare a b).isLE = true) := by
  refine @List.pairwise_mergeSort α (fun a b : α => (compare a b).isLE) ?_ ?_ items
  · intro a b c first second
    exact Std.TransCmp.isLE_trans first second
  · intro a b
    cases order : compare a b with
    | lt => simp
    | eq => simp
    | gt => simp [Std.OrientedCmp.lt_of_gt order]

def ofList (items : List α) : SortedSet α :=
  ⟨dropRepeats (items.mergeSort (fun a b => (compare a b).isLE)),
    increasing_dropRepeats (pairwise_mergeSort items)⟩

@[simp]
theorem mem_ofList {item : α} {items : List α} : item ∈ ofList items ↔ item ∈ items :=
  mem_dropRepeats.trans (List.mergeSort_perm items _).mem_iff

def union (left right : SortedSet α) : SortedSet α :=
  left.toList.foldr insert right

instance : Union (SortedSet α) := ⟨union⟩

@[simp]
theorem mem_union {item : α} {left right : SortedSet α} :
    item ∈ left ∪ right ↔ item ∈ left ∨ item ∈ right := by
  have fold (items : List α) : item ∈ items.foldr insert right ↔ item ∈ items ∨ item ∈ right := by
    induction items with
    | nil => simp
    | cons head tail ih => simp [ih, or_assoc]
  exact fold left.toList

theorem eq_of_increasing {left right : List α} (leftIncreasing : Increasing left)
    (rightIncreasing : Increasing right) (same : ∀ item, item ∈ left ↔ item ∈ right) :
    left = right := by
  induction left generalizing right with
  | nil =>
      cases right with
      | nil => rfl
      | cons head tail => exact absurd ((same head).2 List.mem_cons_self) (by simp)
  | cons first rest ih =>
      obtain ⟨below, restIncreasing⟩ := List.pairwise_cons.1 leftIncreasing
      cases right with
      | nil => exact absurd ((same first).1 List.mem_cons_self) (by simp)
      | cons head tail =>
          obtain ⟨above, tailIncreasing⟩ := List.pairwise_cons.1 rightIncreasing
          have irrefl (item : α) : compare item item ≠ .lt := by
            rw [show compare item item = .eq from Std.ReflCmp.compare_self]; decide
          have asymm {a b : α} (one : compare a b = .lt) (two : compare b a = .lt) : False :=
            irrefl a (Std.TransCmp.lt_trans one two)
          have heads : first = head := by
            rcases List.mem_cons.1 ((same first).1 List.mem_cons_self) with here | later
            · exact here
            · rcases List.mem_cons.1 ((same head).2 List.mem_cons_self) with here' | later'
              · exact here'.symm
              · exact (asymm (above first later) (below head later')).elim
          subst heads
          refine congrArg _ (ih restIncreasing tailIncreasing ?_)
          intro item
          constructor
          · intro found
            rcases List.mem_cons.1 ((same item).1 (List.mem_cons_of_mem _ found)) with rfl | later
            · exact absurd (below item found) (irrefl item)
            · exact later
          · intro found
            rcases List.mem_cons.1 ((same item).2 (List.mem_cons_of_mem _ found)) with rfl | later
            · exact absurd (above item found) (irrefl item)
            · exact later

@[ext]
theorem ext {left right : SortedSet α} (same : ∀ item, item ∈ left ↔ item ∈ right) :
    left = right := by
  cases left with
  | mk left leftIncreasing =>
      cases right with
      | mk right rightIncreasing =>
          have := eq_of_increasing leftIncreasing rightIncreasing same
          subst this
          rfl

end SortedSet

end OntologyLint
