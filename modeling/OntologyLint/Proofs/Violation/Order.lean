import OntologyLint.Proofs.SortedSet
import OntologyLint.Violation.Basic

set_option autoImplicit false

/-! The order of violations, key by key: the kind decides first, and violations that share the keys
before one of them stand in the order of that one. -/

namespace OntologyLint

theorem ViolationKind.name_injective : Function.Injective ViolationKind.name := by
  intro one other same
  cases one <;> cases other <;> simp [ViolationKind.name] at same ⊢

section Keys

variable {α β : Type} [Ord β] {key : α → β} {later : α → α → Ordering} {one other : α}

theorem compareLex_lt_of_key (before : compare (key one) (key other) = .lt) :
    compareLex (compareOn key) later one other = .lt :=
  Ordering.then_eq_lt.2 (Or.inl before)

theorem compareLex_lt_of_same_key [Std.ReflOrd β] (same : key one = key other)
    (before : later one other = .lt) : compareLex (compareOn key) later one other = .lt := by
  have equal : compareOn key one other = .eq := by
    unfold compareOn
    rw [same]
    exact Std.ReflCmp.compare_self
  exact Ordering.then_eq_lt.2 (Or.inr ⟨equal, before⟩)

end Keys

namespace Violation

variable {one other : Violation}

theorem lt_of_kind (before : compare one.kind other.kind = .lt) : compare one other = .lt :=
  compareLex_lt_of_key before

variable (kinds : one.kind = other.kind) (triples : one.triple? = other.triple?)

include kinds triples

theorem lt_of_expected {a b : Resource} (first : one.expected? = some a)
    (second : other.expected? = some b) (before : compare a b = .lt) :
    compare one other = .lt := by
  apply compareLex_lt_of_same_key kinds
  apply compareLex_lt_of_same_key triples
  apply compareLex_lt_of_key
  rw [first, second]
  exact before

variable (expecteds : one.expected? = other.expected?) (resources : one.resource? = other.resource?)

include expecteds resources

theorem lt_of_classes {a b : DisjointPair} (first : one.classes? = some a)
    (second : other.classes? = some b) (before : compare a b = .lt) :
    compare one other = .lt := by
  apply compareLex_lt_of_same_key kinds
  apply compareLex_lt_of_same_key triples
  apply compareLex_lt_of_same_key expecteds
  apply compareLex_lt_of_same_key resources
  apply compareLex_lt_of_key
  rw [first, second]
  exact before

theorem lt_of_restriction {a b : Restriction} (classes : one.classes? = other.classes?)
    (first : one.restriction? = some a) (second : other.restriction? = some b)
    (before : compare a b = .lt) : compare one other = .lt := by
  apply compareLex_lt_of_same_key kinds
  apply compareLex_lt_of_same_key triples
  apply compareLex_lt_of_same_key expecteds
  apply compareLex_lt_of_same_key resources
  apply compareLex_lt_of_same_key classes
  apply compareLex_lt_of_key
  rw [first, second]
  exact before

end Violation

end OntologyLint
