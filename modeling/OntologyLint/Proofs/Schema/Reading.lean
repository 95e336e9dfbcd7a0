import Mathlib.Data.List.Basic
import OntologyLint.Proofs.Graph.Agreement
import OntologyLint.Proofs.Schema.Declarations

set_option autoImplicit false

/-! The predicates that a schema is read from. Views that list the same triples of those predicates
give the same schema, whatever else they hold; subclass edges are not among them, since classes are
looked up in the graphs themselves. -/

namespace OntologyLint

def schemaPredicates : List String :=
  [Rdf.type, Rdf.first, Rdf.rest, Rdfs.domain, Rdfs.range, Owl.disjointWith, Owl.members,
    Owl.onProperty, Owl.onClass, Owl.onDataRange] ++ boundPredicates.map BoundPredicate.predicate

namespace View

variable {one other : View}

theorem disjointnessAssertions_eq (types : one.AgreesOn other Rdf.type)
    (pairs : one.AgreesOn other Owl.disjointWith) (members : one.AgreesOn other Owl.members)
    (firsts : one.AgreesOn other Rdf.first) (rests : one.AgreesOn other Rdf.rest) :
    one.disjointnessAssertions = other.disjointnessAssertions := by
  simp only [disjointnessAssertions, instancesOf, pairs.withPredicate_eq, types.subjectsWith_eq,
    members.resourcesOf_eq, listMembers_eq firsts rests]

section Bounds

variable (counts : ∀ kind ∈ boundPredicates, one.AgreesOn other kind.predicate)
  (classes : one.AgreesOn other Owl.onClass)
  (datatypes : one.AgreesOn other Owl.onDataRange)

include counts in
theorem literalsOf_eq {kind : BoundPredicate} (known : kind ∈ boundPredicates) (node : Resource) :
    one.literalsOf node kind.predicate = other.literalsOf node kind.predicate := by
  rw [literalsOf, literalsOf, (counts kind known).objectsOf_eq]

include classes datatypes in
theorem qualifierOf?_eq (node : Resource) : one.qualifierOf? node = other.qualifierOf? node := by
  rw [qualifierOf?, qualifierOf?, classes.resourcesOf_eq, datatypes.resourcesOf_eq]

include counts classes datatypes

theorem boundsBy_eq {kind : BoundPredicate} (known : kind ∈ boundPredicates)
    (node property : Resource) :
    one.boundsBy node property kind = other.boundsBy node property kind := by
  simp only [boundsBy, countsOf, literalsOf_eq counts known, qualifierOf?_eq classes datatypes]

theorem warningsBy_eq {kind : BoundPredicate} (known : kind ∈ boundPredicates) (node : Resource) :
    one.warningsBy node kind = other.warningsBy node kind := by
  rw [warningsBy, warningsBy, unreadableCounts, unreadableCounts, countsOf, countsOf,
    literalsOf_eq counts known, qualifierOf?_eq classes datatypes]

end Bounds

end View

theorem Schema.ofView_eq {one other : View}
    (agrees : ∀ predicate ∈ schemaPredicates, one.AgreesOn other predicate) :
    ofView one = ofView other := by
  have types := agrees Rdf.type (by simp [schemaPredicates])
  have domains := agrees Rdfs.domain (by simp [schemaPredicates])
  have ranges := agrees Rdfs.range (by simp [schemaPredicates])
  have placed := agrees Owl.onProperty (by simp [schemaPredicates])
  have classes := agrees Owl.onClass (by simp [schemaPredicates])
  have datatypes := agrees Owl.onDataRange (by simp [schemaPredicates])
  have counts : ∀ kind ∈ boundPredicates, one.AgreesOn other kind.predicate := by
    intro kind known
    exact agrees kind.predicate (List.mem_append_right _ (List.mem_map.2 ⟨kind, known, rfl⟩))
  have instances : one.instancesOf = other.instancesOf := by
    funext type
    exact types.subjectsWith_eq (.iri type)
  have properties : one.declaredProperties = other.declaredProperties :=
    View.declaredProperties_congr types.sameOn domains.sameOn ranges.sameOn
  have declarations : one.declarationOf = other.declarationOf :=
    View.declarationOf_congr types.sameOn domains.sameOn ranges.sameOn
  have disjoint : one.disjointnessAssertions = other.disjointnessAssertions :=
    View.disjointnessAssertions_eq types (agrees _ (by simp [schemaPredicates]))
      (agrees _ (by simp [schemaPredicates])) (agrees _ (by simp [schemaPredicates]))
      (agrees _ (by simp [schemaPredicates]))
  have restricted : one.restrictedProperties = other.restrictedProperties := by
    rw [View.restrictedProperties, View.restrictedProperties, placed.withPredicate_eq]
  have restrictions : one.declaredRestrictions = other.declaredRestrictions := by
    rw [View.declaredRestrictions, View.declaredRestrictions, restricted]
    refine List.flatMap_congr (fun place _ => List.flatMap_congr (fun kind known => ?_))
    rw [View.boundsBy_eq counts classes datatypes known]
  have warnings : one.restrictionWarnings = other.restrictionWarnings := by
    rw [View.restrictionWarnings, View.restrictionWarnings, restricted]
    refine List.flatMap_congr (fun place _ => List.flatMap_congr (fun kind known => ?_))
    exact View.warningsBy_eq counts classes datatypes known place.1
  simp only [ofView, properties, declarations, instances,
    View.declaredDisjoint, disjoint, restrictions, View.restrictionNodes, placed.subjectsOf_eq,
    warnings]

end OntologyLint
