import OntologyLint.Check.Basic
import OntologyLint.Datatype.Conformance

set_option autoImplicit false

/-! Numbers of values. A resource is bound by the restrictions among its classes and, for each
functional property that it uses, by "at most one". Values are counted in the data alone. -/

namespace OntologyLint.Cardinality

def boundsOn (scene : Scene) (types : SortedSet Resource) (resource : Resource) :
    SortedSet Restriction :=
  SortedSet.ofList
    (types.toList.flatMap scene.schema.restrictionsFor ++
      (scene.schema.functional.toList.filter
        (fun property => !(scene.data.objectsOf resource property.text).isEmpty)).map
          (fun property => ⟨property, .max 1, none⟩))

def qualifies (scene : Scene) (qualifier : Qualifier) (value : Object) : Asking Bool :=
  match qualifier, value with
  | .instances type, .resource resource =>
      if type = .iri Owl.thing then pure true
      else do
        let types ← scene.types.askTypes resource
        pure (types.contains type)
  | .literals datatype, .literal literal => pure (literalConforms literal datatype)
  | _, _ => pure false

def countValues (scene : Scene) (qualifier : Option Qualifier) (values : List Object) :
    Asking Nat :=
  match qualifier with
  | none => pure values.length
  | some qualifier => Asking.countWhere (qualifies scene qualifier) values

/-- The violation of one bound, if there is one. A blank property names nothing to count. -/
def examineBound (scene : Scene) (resource : Resource) (restriction : Restriction) :
    Asking (List Violation) :=
  if restriction.property.isBlank then pure []
  else do
    let actual ← countValues scene restriction.qualifier
      (scene.data.objectsOf resource restriction.property.text)
    pure (if restriction.bound.admits actual then []
      else [.cardinalityMismatch resource restriction.property restriction.bound
        restriction.qualifier actual])

def examine (scene : Scene) (resource : Resource) : Asking (List Violation) := do
  let types ← scene.types.askTypes resource
  Asking.gather (examineBound scene resource) (boundsOn scene types resource).toList

/-- The typed resources, if the schema restricts anything, and the users of functional
properties. -/
def targets (scene : Scene) : SortedSet Resource :=
  SortedSet.ofList
    ((if scene.schema.hasRestrictions then scene.data.typedResources.toList else []) ++
      scene.schema.functional.toList.flatMap
        (fun property => scene.data.subjectsOf property.text))

end OntologyLint.Cardinality
