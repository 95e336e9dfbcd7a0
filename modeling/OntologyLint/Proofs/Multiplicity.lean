import Mathlib.Data.List.Nodup
import Mathlib.Data.Set.Card

set_option autoImplicit false

/-! How often an item occurs in a list that is gathered from the items of another one. Where nothing
is gathered twice from one place, it occurs as often as there are places that give it. -/

namespace OntologyLint

variable {α β : Type} {items : List α}

theorem length_filter_eq_ncard {test : α → Bool} (distinct : items.Nodup) :
    (items.filter test).length = {item | item ∈ items ∧ test item = true}.ncard := by
  classical
  rw [← List.toFinset_card_of_nodup (distinct.filter test), ← Set.ncard_coe_finset]
  congr 1
  ext item
  simp

/-- What is gathered repeats nothing if each entry still tells the place that it comes from. -/
theorem nodup_flatMap_of_place {γ : Type} {gather : α → List β} (name : α → γ) (place : β → γ)
    (distinct : items.Pairwise (fun one other => name one ≠ name other))
    (each : ∀ item ∈ items, (gather item).Nodup)
    (placed : ∀ item, ∀ entry ∈ gather item, place entry = name item) :
    (items.flatMap gather).Nodup := by
  refine List.nodup_flatMap.2 ⟨each, distinct.imp ?_⟩
  intro one other different entry first second
  apply different
  rw [← placed one entry first, ← placed other entry second]

section Count

variable [DecidableEq β] {entry : β}

theorem count_flatMap_eq_length {gather : α → List β}
    (each : ∀ item ∈ items, (gather item).Nodup) :
    (items.flatMap gather).count entry =
      (items.filter (fun item => decide (entry ∈ gather item))).length := by
  induction items with
  | nil => rfl
  | cons item items ih =>
      have later := ih (fun other listed => each other (List.mem_cons_of_mem item listed))
      rw [List.flatMap_cons, List.count_append, later, (each item List.mem_cons_self).count]
      by_cases gathered : entry ∈ gather item
      · rw [if_pos gathered, List.filter_cons_of_pos (by simpa using gathered), List.length_cons]
        omega
      · rw [if_neg gathered, List.filter_cons_of_neg (by simpa using gathered), Nat.zero_add]

theorem count_flatMap_eq_ncard {gather : α → List β} (distinct : items.Nodup)
    (each : ∀ item ∈ items, (gather item).Nodup) :
    (items.flatMap gather).count entry = {item | item ∈ items ∧ entry ∈ gather item}.ncard := by
  rw [count_flatMap_eq_length each, length_filter_eq_ncard distinct]
  simp only [decide_eq_true_eq]

theorem count_filterMap_eq_ncard {choose : α → Option β} (distinct : items.Nodup) :
    (items.filterMap choose).count entry = {item | item ∈ items ∧ choose item = some entry}.ncard := by
  rw [List.filterMap_eq_flatMap_toList, count_flatMap_eq_ncard distinct]
  · simp only [Option.mem_toList]
  · intro item _listed
    cases choose item with
    | none => exact List.nodup_nil
    | some entry => exact List.nodup_singleton entry

end Count

end OntologyLint
