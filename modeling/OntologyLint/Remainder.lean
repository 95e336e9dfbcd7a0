set_option autoImplicit false

/-! What remains of a list after an element is struck from it. A search that strikes every place it
enters ends when nothing remains. -/

namespace OntologyLint

variable {α : Type} [DecidableEq α]

def strike (item : α) (items : List α) : List α := items.filter (fun other => other ≠ item)

theorem length_strike_lt {item : α} {items : List α} (found : item ∈ items) :
    (strike item items).length < items.length := by
  refine Nat.lt_of_le_of_ne (List.length_filter_le _ _) ?_
  intro same
  have := List.length_filter_eq_length_iff.1 same item found
  simp at this

end OntologyLint
