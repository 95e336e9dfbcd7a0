set_option autoImplicit false

/-! Computations told by relations. A relation that holds of some result, and of none but the computed
one, holds of just that; it can tell values and failures apart. -/

namespace OntologyLint

theorem eq_iff_of_determined {β : Type} {result value : β} {Ends : β → Prop}
    (determined : ∀ value, Ends value → result = value) (total : ∃ value, Ends value) :
    result = value ↔ Ends value := by
  obtain ⟨found, ends⟩ := total
  have same : result = found := determined found ends
  constructor
  · intro computed
    rw [← computed, same]
    exact ends
  · exact determined value

section Except

variable {α ε : Type} {result : Except ε α} {value : α} {error : ε} {Gives : α → Prop}
  {Refuses : ε → Prop} (gives : ∀ value, Gives value → result = .ok value)
  (refuses : ∀ error, Refuses error → result = .error error)
  (total : (∃ value, Gives value) ∨ ∃ error, Refuses error)

include gives refuses total

theorem eq_ok_iff_of_determined : result = .ok value ↔ Gives value := by
  constructor
  · intro computed
    rcases total with ⟨found, given⟩ | ⟨cause, refused⟩
    · cases computed.symm.trans (gives found given)
      exact given
    · cases computed.symm.trans (refuses cause refused)
  · exact gives value

theorem eq_error_iff_of_determined : result = .error error ↔ Refuses error := by
  constructor
  · intro computed
    rcases total with ⟨found, given⟩ | ⟨cause, refused⟩
    · cases computed.symm.trans (gives found given)
    · cases computed.symm.trans (refuses cause refused)
      exact refused
  · exact refuses error

end Except

end OntologyLint
