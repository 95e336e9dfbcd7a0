import OntologyLint.Check.Basic

set_option autoImplicit false

/-! The outcome of a validation: the violations that were found, and how much was looked at. -/

namespace OntologyLint

structure CheckStats where
  check : Check
  targets : Nat
  violations : Nat
  durationMs : Nat := 0

structure RunStats where
  dataTriples : Nat := 0
  schemaTriples : Nat := 0
  declaredProperties : Nat := 0
  disjointPairs : Nat := 0
  checks : List CheckStats := []
  cache : CacheCounts := {}
  durationMs : Nat := 0

structure Report where
  violations : ViolationSet
  stats : RunStats

def Report.isValid (report : Report) : Bool := report.violations.isEmpty

end OntologyLint
