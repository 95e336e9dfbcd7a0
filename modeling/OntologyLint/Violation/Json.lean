import OntologyLint.Term.Json
import OntologyLint.Violation.Set

set_option autoImplicit false

/-! The JSON form of violations: an object that names its kind first and then its parts. -/

namespace OntologyLint

def DisjointPair.json (pair : DisjointPair) : Json :=
  .object [("first", pair.first.json), ("second", pair.second.json)]

def Bound.json : Bound → Json
  | .min count => .object [("min", .natural count)]
  | .max count => .object [("max", .natural count)]
  | .exact count => .object [("exact", .natural count)]

def Qualifier.json : Qualifier → Json
  | .instances type => .object [("class", type.json)]
  | .literals datatype => .object [("data_range", datatype.json)]

namespace Violation

def jsonFields : Violation → List (String × Json)
  | .domainMismatch triple expected =>
      [("triple", triple.json), ("expected", expected.json)]
  | .rangeMismatch triple expected =>
      [("triple", triple.json), ("expected", expected.json)]
  | .disjointMembership resource classes =>
      [("resource", resource.json), ("classes", classes.json)]
  | .datatypeMismatch triple expected =>
      [("triple", triple.json), ("expected", expected.json)]
  | .cardinalityMismatch resource property bound qualifier actual =>
      [("resource", resource.json), ("property", property.json), ("bound", bound.json)] ++
        qualifier.toList.map (fun qualifier => ("qualifier", qualifier.json)) ++
        [("actual", .natural actual)]

def json (violation : Violation) : Json :=
  .object (("kind", .string violation.kind.name) :: violation.jsonFields)

end Violation

def ViolationSet.json (set : ViolationSet) : Json := .list (set.toList.map Violation.json)

end OntologyLint
