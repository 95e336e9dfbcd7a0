import OntologyLint.Check.Basic

set_option autoImplicit false

/-! Disjoint classes. The classes of a resource are compared pair by pair in increasing order, so
each unordered pair is met once. -/

namespace OntologyLint.Disjointness

/-- A class with a name of its own: no blank node and no restriction. -/
def isNamedClass (scene : Scene) (type : Resource) : Bool :=
  !type.isBlank && !scene.schema.isRestriction type

def areDisjoint (scene : Scene) (a b : Resource) : Bool :=
  scene.schema.areDisjoint a b ||
    (scene.datatypesDisjoint && isNamedClass scene a && isNamedClass scene b &&
      scene.schema.isDatatype a != scene.schema.isDatatype b)

def disjointPairs (scene : Scene) (types : List Resource) : List DisjointPair :=
  ((pairsOf types).filter (fun pair => areDisjoint scene pair.1 pair.2)).filterMap
    (fun pair => DisjointPair.of? pair.1 pair.2)

def examine (scene : Scene) (resource : Resource) : Asking (List Violation) := do
  let types ← scene.types.askTypes resource
  pure ((disjointPairs scene types.toList).map (.disjointMembership resource))

/-- The typed resources of the data, unless no two classes can be disjoint. -/
def targets (scene : Scene) : List Resource :=
  if scene.schema.disjoint.isEmpty && !scene.datatypesDisjoint then []
  else scene.data.typedResources.toList

end OntologyLint.Disjointness
