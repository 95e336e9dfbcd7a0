import OntologyLint.Check.Basic

set_option autoImplicit false

/-! Domains and class ranges. Each declared domain and each declared class range of a property binds
every triple that uses the property, and a triple fails each of them on its own. -/

namespace OntologyLint.DomainRange

/-- The declared classes that a resource lacks. It is not asked about when there are none. -/
def missingClasses (scene : Scene) (declared : SortedSet Resource) (resource : Resource) :
    Asking (List Resource) :=
  if declared.isEmpty then pure []
  else do
    let types ← scene.types.askTypes resource
    pure (declared.toList.filter (fun type => !types.contains type))

def examine (scene : Scene) (triple : Triple) : Asking (List Violation) :=
  match scene.schema.declaration? triple.predicate with
  | none => pure []
  | some declaration => do
      let domains ← missingClasses scene declaration.domains triple.subject
      let ranges ←
        match triple.object with
        | .resource object => missingClasses scene declaration.classRanges object
        | .literal _ => pure []
      pure (domains.map (.domainMismatch triple) ++ ranges.map (.rangeMismatch triple))

/-- A declaration with something to check. The type property itself is exempt. -/
def applies (declaration : PropertyDeclaration) : Bool :=
  declaration.property != .iri Rdf.type &&
    (!declaration.domains.isEmpty || !declaration.classRanges.isEmpty)

def targets (scene : Scene) : List Triple :=
  (scene.schema.properties.filter applies).flatMap
    (fun declaration => scene.data.withPredicate declaration.property.text)

end OntologyLint.DomainRange
