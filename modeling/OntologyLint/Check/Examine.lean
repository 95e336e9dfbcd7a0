import OntologyLint.Check.Cardinality
import OntologyLint.Check.DatatypeRange
import OntologyLint.Check.Disjointness
import OntologyLint.Check.DomainRange

set_option autoImplicit false

/-! Every check in one form: what it looks at, and what it finds there. -/

namespace OntologyLint.Check

def targets (check : Check) (scene : Scene) : List Focus :=
  match check with
  | .domainRange => (DomainRange.targets scene).map .triple
  | .disjointness => (Disjointness.targets scene).map .resource
  | .datatype => (DatatypeRange.targets scene).map .triple
  | .cardinality => (Cardinality.targets scene).toList.map .resource

/-- What the check finds at a focus. At a focus of the wrong sort it finds nothing. -/
def examine (check : Check) (scene : Scene) (focus : Focus) : Asking (List Violation) :=
  match check, focus with
  | .domainRange, .triple triple => DomainRange.examine scene triple
  | .disjointness, .resource resource => Disjointness.examine scene resource
  | .datatype, .triple triple => pure (DatatypeRange.examine scene triple)
  | .cardinality, .resource resource => Cardinality.examine scene resource
  | _, _ => pure []

end OntologyLint.Check
