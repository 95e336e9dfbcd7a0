import OntologyLint.Check.Basic
import OntologyLint.Datatype.Conformance

set_option autoImplicit false

/-! Datatype ranges. Each declared datatype range of a property binds every literal that the
property leads to. -/

namespace OntologyLint.DatatypeRange

def examine (scene : Scene) (triple : Triple) : List Violation :=
  match triple.object with
  | .resource _ => []
  | .literal literal =>
      match scene.schema.declaration? triple.predicate with
      | none => []
      | some declaration =>
          (declaration.datatypeRanges.toList.filter
            (fun datatype => !literalConforms literal datatype)).map (.datatypeMismatch triple)

def targets (scene : Scene) : List Triple :=
  (scene.schema.properties.filter (fun declaration => !declaration.datatypeRanges.isEmpty)).flatMap
    (fun declaration =>
      (scene.data.withPredicate declaration.property.text).filter
        (fun triple => triple.object.literal?.isSome))

end OntologyLint.DatatypeRange
