import OntologyLint.Proofs.Graph.Rearrangement
import OntologyLint.Proofs.Schema.Declarations

set_option autoImplicit false

/-! Schemas that are gathered from the same triples in different orders. They declare the same, and
differ at most in the order of their properties and of their restrictions. -/

namespace OntologyLint

namespace Schema

/-- The schemas declare the same, each property once. -/
structure Rearranges (one other : Schema) : Prop where
  properties : one.properties.Perm other.properties
  distinct : (one.properties.map PropertyDeclaration.property).Nodup
  functional : one.functional = other.functional
  disjoint : one.disjoint = other.disjoint
  restrictions : one.restrictions.Perm other.restrictions
  restrictionNodes : one.restrictionNodes = other.restrictionNodes
  datatypes : one.datatypes = other.datatypes

variable {one other : Schema}

namespace Rearranges

variable (same : one.Rearranges other)

include same

theorem declaration? (property : Resource) :
    one.declaration? property = other.declaration? property := by
  have distinct := (same.properties.map PropertyDeclaration.property).nodup_iff.1 same.distinct
  ext declaration
  rw [declaration?_eq_some_iff same.distinct, declaration?_eq_some_iff distinct,
    same.properties.mem_iff]

theorem isDatatype (resource : Resource) : one.isDatatype resource = other.isDatatype resource := by
  rw [Schema.isDatatype, Schema.isDatatype, same.datatypes]

theorem areDisjoint (a b : Resource) : one.areDisjoint a b = other.areDisjoint a b := by
  rw [Schema.areDisjoint, Schema.areDisjoint, same.disjoint]

theorem isRestriction (type : Resource) : one.isRestriction type = other.isRestriction type := by
  rw [Schema.isRestriction, Schema.isRestriction, same.restrictionNodes]

theorem restrictionsFor (type : Resource) :
    (one.restrictionsFor type).Perm (other.restrictionsFor type) :=
  same.restrictions.filterMap _

theorem hasRestrictions : one.hasRestrictions = other.hasRestrictions := by
  rw [Schema.hasRestrictions, Schema.hasRestrictions, same.restrictions.isEmpty_eq]

end Rearranges

end Schema

namespace View

variable {one other : View} (same : one.Rearranges other)

include same

theorem Rearranges.countsOf (node : Resource) (predicate : String) :
    (one.countsOf node predicate).Perm (other.countsOf node predicate) :=
  ((same.objectsOf node predicate).filterMap _).filterMap _

theorem Rearranges.boundsBy (node property : Resource) (kind : BoundPredicate)
    (qualifiers : one.qualifierOf? node = other.qualifierOf? node) :
    (one.boundsBy node property kind).Perm (other.boundsBy node property kind) := by
  have counts := same.countsOf node kind.predicate
  unfold View.boundsBy
  rw [qualifiers]
  dsimp only
  split
  · cases other.qualifierOf? node with
    | none => exact .refl _
    | some qualifier => exact counts.map _
  · exact counts.map _

end View

/-- What a view declares does not hang on the order in which its triples are met, as long as the same
choices are made. -/
theorem Schema.ofView_rearranges {one other : View} (same : one.Rearranges other)
    (chooses : one.ChoosesAs other) : (ofView one).Rearranges (ofView other) := by
  have triples : one.SameTriples other := same.sameTriples
  constructor
  case properties =>
    rw [triples.properties]
  case distinct => exact nodup_properties one
  case functional => exact triples.functional
  case disjoint =>
    have asserted := same.disjointnessAssertions chooses
    ext pair
    simp only [ofView, View.declaredDisjoint, SortedSet.mem_ofList]
    exact (asserted.filterMap _).mem_iff
  case restrictions =>
    have restricted : one.restrictedProperties.Perm other.restrictedProperties :=
      (same.withPredicate Owl.onProperty).filterMap _
    refine (restricted.flatMap_right _).trans (List.Perm.flatMap_left _ ?_)
    -- At each node the bounds come in another order too, but with one qualifier to choose.
    rintro ⟨node, property⟩ _placed
    refine List.Perm.flatMap_left _ ?_
    intro kind _known
    exact (same.boundsBy node property kind (congrFun chooses.qualifiers node)).map _
  case restrictionNodes =>
    ext node
    simp only [ofView, View.restrictionNodes, SortedSet.mem_ofList, List.mem_append]
    exact or_congr (triples.on Rdf.type).mem_subjectsWith
      (triples.on Owl.onProperty).mem_subjectsOf
  case datatypes => exact View.setOfInstances_congr (triples.on Rdf.type) Rdfs.datatype

end OntologyLint
