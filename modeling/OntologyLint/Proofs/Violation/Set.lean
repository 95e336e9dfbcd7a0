import Mathlib.Data.Finset.Card
import OntologyLint.Proofs.SortedSet
import OntologyLint.Violation.Set

set_option autoImplicit false

/-! What a set of violations holds after a number of operations: whatever was supplied to it by any of
them, each violation once and in order. The order in which a merger goes through its two operands
depends on their sizes, and its result does not. -/

namespace OntologyLint.ViolationSet

variable {left right set : ViolationSet} {supplied violations : List Violation}
  {violation : Violation}

theorem mem_extend : violation ∈ set.extend violations ↔ violation ∈ set ∨ violation ∈ violations := by
  unfold extend
  induction violations generalizing set with
  | nil => simp
  | cons head tail ih =>
      rw [List.foldl_cons, ih, SortedSet.mem_insert, List.mem_cons]
      constructor
      · rintro ((same | old) | later)
        · exact Or.inr (Or.inl same)
        · exact Or.inl old
        · exact Or.inr (Or.inr later)
      · rintro (old | same | later)
        · exact Or.inl (Or.inr old)
        · exact Or.inl (Or.inl same)
        · exact Or.inr later

theorem mem_merge : violation ∈ left.merge right ↔ violation ∈ left ∨ violation ∈ right := by
  unfold merge
  split
  · exact SortedSet.mem_union
  · exact SortedSet.mem_union.trans or_comm

theorem merge_comm (left right : ViolationSet) : left.merge right = right.merge left := by
  ext violation
  rw [mem_merge, mem_merge]
  exact or_comm

theorem merge_assoc (left middle right : ViolationSet) :
    (left.merge middle).merge right = left.merge (middle.merge right) := by
  ext violation
  rw [mem_merge, mem_merge, mem_merge, mem_merge]
  exact or_assoc

theorem merge_self (set : ViolationSet) : set.merge set = set := by
  ext violation
  rw [mem_merge]
  exact or_self_iff

inductive Operation
  | insert (violation : Violation)
  | extend (violations : List Violation)
  | merge (other : ViolationSet)

namespace Operation

def supplies : Operation → List Violation
  | .insert violation => [violation]
  | .extend violations => violations
  | .merge other => other.toList

/-- Carries out an operation. An insertion answers whether the violation is new. -/
def perform (set : ViolationSet) : Operation → Option Bool × ViolationSet
  | .insert violation =>
      let (isNew, larger) := set.add violation
      (some isNew, larger)
  | .extend violations => (none, set.extend violations)
  | .merge other => (none, set.merge other)

end Operation

def performAll (set : ViolationSet) : List Operation → List (Option Bool) × ViolationSet
  | [] => ([], set)
  | operation :: rest =>
      let (answer, next) := operation.perform set
      let (answers, last) := performAll next rest
      (answer :: answers, last)

/-- The set lists what was supplied in increasing order, each violation once. -/
structure Holds (set : ViolationSet) (supplied : List Violation) : Prop where
  members : ∀ violation, violation ∈ set.toList ↔ violation ∈ supplied
  increasing : Increasing set.toList
  size : set.size = supplied.toFinset.card

theorem holds_of_members (members : ∀ violation, violation ∈ set ↔ violation ∈ supplied) :
    set.Holds supplied where
  members := members
  increasing := set.increasing
  size := by
    have same (violation : Violation) : violation ∈ set ↔ violation ∈ supplied.dedup := by
      rw [members, List.mem_dedup]
    rw [SortedSet.size_eq_length supplied.nodup_dedup same, List.card_toFinset]

theorem holds_empty : Holds ∅ [] :=
  holds_of_members (fun violation =>
    iff_of_false (SortedSet.not_mem_empty violation) List.not_mem_nil)

/-- An operation adds what it supplies to what the set holds. -/
theorem Holds.perform (holds : set.Holds supplied) (operation : Operation) :
    (operation.perform set).2.Holds (supplied ++ operation.supplies) := by
  apply holds_of_members
  intro violation
  have before : violation ∈ set ↔ violation ∈ supplied := holds.members violation
  rw [List.mem_append, ← before]
  cases operation with
  | insert added =>
      change violation ∈ (set.add added).2 ↔ violation ∈ set ∨ violation ∈ [added]
      rw [SortedSet.add_snd, SortedSet.mem_insert, List.mem_singleton]
      exact or_comm
  | extend violations => exact mem_extend
  | merge other => exact mem_merge

theorem Holds.performAll (holds : set.Holds supplied) (operations : List Operation) :
    (set.performAll operations).2.Holds (supplied ++ operations.flatMap Operation.supplies) := by
  induction operations generalizing set supplied with
  | nil =>
      rw [List.flatMap_nil, List.append_nil]
      exact holds
  | cons operation rest ih =>
      rw [List.flatMap_cons, ← List.append_assoc]
      exact ih (holds.perform operation)

theorem Holds.insertion_answer (holds : set.Holds supplied) (violation : Violation) :
    ((Operation.insert violation).perform set).1 = some (decide (violation ∉ supplied)) := by
  have before : violation ∈ set ↔ violation ∈ supplied := holds.members violation
  change some (set.add violation).1 = _
  apply congrArg some
  rw [Bool.eq_iff_iff, SortedSet.add_fst_iff, before, decide_eq_true_iff]

theorem getElem?_answers (set : ViolationSet) (before after : List Operation)
    (operation : Operation) :
    (set.performAll (before ++ operation :: after)).1[before.length]? =
      some (operation.perform (set.performAll before).2).1 := by
  induction before generalizing set with
  | nil => rfl
  | cons first rest ih => exact ih _

/-- After any operations from the empty set, the set lists all that was supplied, in increasing order
and without repetitions, and each insertion has answered whether its violation was new. Mergers make
unions, in whatever order and grouping. -/
theorem violation_set_keeps_what_is_supplied :
    (∀ operations : List Operation,
      ((∅ : ViolationSet).performAll operations).2.Holds
        (operations.flatMap Operation.supplies)) ∧
    (∀ (before after : List Operation) (violation : Violation),
      ((∅ : ViolationSet).performAll
          (before ++ .insert violation :: after)).1[before.length]? =
        some (some (decide (violation ∉ before.flatMap Operation.supplies)))) ∧
    (∀ (left right : ViolationSet) (violation : Violation),
      violation ∈ left.merge right ↔ violation ∈ left ∨ violation ∈ right) ∧
    (∀ left right : ViolationSet, left.merge right = right.merge left) ∧
    (∀ left middle right : ViolationSet,
      (left.merge middle).merge right = left.merge (middle.merge right)) ∧
    (∀ set : ViolationSet, set.merge set = set) := by
  refine ⟨holds_empty.performAll, ?_, fun _ _ _ => mem_merge, merge_comm, merge_assoc, merge_self⟩
  intro before after violation
  rw [getElem?_answers]
  exact congrArg some ((holds_empty.performAll before).insertion_answer violation)

end OntologyLint.ViolationSet
