import Mathlib.Order.Bounds.Defs
import OntologyLint.Proofs.Graph.Facts
import OntologyLint.Proofs.Hierarchy.Search
import OntologyLint.Proofs.SortedSet

set_option autoImplicit false

/-! The classes of a resource, told by facts alone: those that steps up the hierarchy lead to from
its asserted types. The search through a view finds exactly them, and they are the least set that
has the asserted types and that no step leaves. -/

namespace OntologyLint

open Relation (ReflTransGen)

section Instances

variable {holds larger : Triple → Prop} {resource type : Resource}

/-- One step up the hierarchy. Equivalence is a step both ways. -/
def SubclassStep (holds : Triple → Prop) (type parent : Resource) : Prop :=
  holds ⟨type, .iri Rdfs.subClassOf, .resource parent⟩ ∨
    holds ⟨type, .iri Owl.equivalentClass, .resource parent⟩ ∨
    holds ⟨parent, .iri Owl.equivalentClass, .resource type⟩

/-- Steps up the hierarchy lead from an asserted type of the resource to the class. -/
def InstanceOf (holds : Triple → Prop) (resource type : Resource) : Prop :=
  ∃ asserted, holds ⟨resource, .iri Rdf.type, .resource asserted⟩ ∧
    ReflTransGen (SubclassStep holds) asserted type

/-- The predicates of the facts that give a resource its classes. -/
def hierarchyPredicates : List String := [Rdf.type, Rdfs.subClassOf, Owl.equivalentClass]

theorem InstanceOf.mono
    (more : ∀ predicate ∈ hierarchyPredicates, ∀ subject object,
      holds ⟨subject, .iri predicate, object⟩ → larger ⟨subject, .iri predicate, object⟩)
    (member : InstanceOf holds resource type) : InstanceOf larger resource type := by
  have types := more Rdf.type (by simp [hierarchyPredicates])
  have classes := more Rdfs.subClassOf (by simp [hierarchyPredicates])
  have equivalents := more Owl.equivalentClass (by simp [hierarchyPredicates])
  obtain ⟨asserted, typed, path⟩ := member
  refine ⟨asserted, types _ _ typed, ReflTransGen.mono ?_ _ _ path⟩
  rintro a b (below | same | same)
  · exact Or.inl (classes _ _ below)
  · exact Or.inr (Or.inl (equivalents _ _ same))
  · exact Or.inr (Or.inr (equivalents _ _ same))

theorem InstanceOf.congr
    (same : ∀ predicate ∈ hierarchyPredicates, ∀ subject object,
      holds ⟨subject, .iri predicate, object⟩ ↔ larger ⟨subject, .iri predicate, object⟩) :
    InstanceOf holds resource type ↔ InstanceOf larger resource type :=
  ⟨.mono (fun predicate known subject object => (same predicate known subject object).1),
    .mono (fun predicate known subject object => (same predicate known subject object).2)⟩

/-- The classes of a resource are the fewest that hold its asserted types and whatever a step up
the hierarchy leads to from one of them. -/
theorem InstanceOf.mem_of_closed (classes : Resource → Prop)
    (typed : ∀ asserted, holds ⟨resource, .iri Rdf.type, .resource asserted⟩ → classes asserted)
    (closed : ∀ a b, classes a → SubclassStep holds a b → classes b)
    (member : InstanceOf holds resource type) : classes type := by
  obtain ⟨asserted, holds_type, path⟩ := member
  induction path with
  | refl => exact typed asserted holds_type
  | tail _path step ih => exact closed _ _ ih step

end Instances

namespace View

variable {view : View}

theorem mem_superclasses {type parent : Resource} :
    parent ∈ view.superclasses type ↔ SubclassStep (· ∈ view.triples) type parent := by
  rw [superclasses, List.mem_append, List.mem_append, mem_resourcesOf, mem_resourcesOf,
    mem_subjectsWith, or_assoc]
  rfl

theorem mem_typesOf {resource type : Resource} :
    type ∈ view.typesOf resource ↔ InstanceOf (· ∈ view.triples) resource type := by
  have steps : (fun a b => b ∈ view.superclasses a) = SubclassStep (· ∈ view.triples) := by
    funext a b
    exact propext mem_superclasses
  rw [typesOf, SortedSet.mem_ofList, typeSearch, Search.mem_run_iff, steps]
  exact exists_congr (fun asserted => and_congr_left (fun _ => mem_resourcesOf))

/-- The search for the classes of a resource ends after as many rounds as it finds classes. -/
theorem typeSearch_rounds (view : View) (resource : Resource) :
    (view.typeSearch resource).run view.superclasses view.resources superclass_mem_resources =
      (Search.round view.superclasses)^[(view.typesOf resource).size] (view.typeSearch resource) := by
  have sound : Search.Sound view.superclasses (view.assertedTypes resource)
      ((view.typeSearch resource).run view.superclasses view.resources superclass_mem_resources) :=
    (Search.sound_begin view.superclasses (view.assertedTypes resource)).run
  have found := SortedSet.size_eq_length sound.distinct (fun _ => SortedSet.mem_ofList)
  rw [typesOf, found]
  exact Search.run_eq_rounds_visited (view.assertedTypes resource)

end View

theorem Graph.mem_typesOf_beside {first second : Graph} {resource type : Resource} :
    type ∈ (first.beside second).typesOf resource ↔
      InstanceOf (first.Either second) resource type :=
  View.mem_typesOf.trans (InstanceOf.congr (fun _ _ _ _ => Graph.mem_beside))

/-- A set of classes that has the asserted types of a resource and that no step up the hierarchy
leaves. -/
structure ClosedFor (holds : Triple → Prop) (resource : Resource) (classes : Set Resource) :
    Prop where
  typed : ∀ asserted, holds ⟨resource, .iri Rdf.type, .resource asserted⟩ → asserted ∈ classes
  upward : ∀ type ∈ classes, ∀ parent, SubclassStep holds type parent → parent ∈ classes

theorem isLeast_instanceOf (holds : Triple → Prop) (resource : Resource) :
    IsLeast {classes | ClosedFor holds resource classes} {type | InstanceOf holds resource type} := by
  constructor
  · constructor
    · intro asserted typed
      exact ⟨asserted, typed, .refl⟩
    · rintro type ⟨asserted, typed, path⟩ parent step
      exact ⟨asserted, typed, path.tail step⟩
  · intro classes closed type member
    exact member.mem_of_closed (· ∈ classes) closed.typed
      (fun a b inside step => closed.upward a inside b step)

/-- On all graphs, with cycles or without, the search for the classes of a resource comes to an end,
and it has then found the least closed set of classes. -/
theorem type_search_ends_with_least_classes (data schema : Graph) (resource : Resource) :
    let view := data.beside schema
    let ended := (Search.round view.superclasses)^[(view.typesOf resource).size]
      (view.typeSearch resource)
    (ended.worklist = [] ∧ ∀ type, type ∈ ended.visited ↔ type ∈ view.typesOf resource) ∧
      IsLeast {classes | ClosedFor (data.Either schema) resource classes}
        {type | type ∈ view.typesOf resource} ∧
      (view.typesOf resource = ∅ ↔
        ¬∃ asserted, data.Either schema ⟨resource, .iri Rdf.type, .resource asserted⟩) := by
  intro view ended
  have classes : {type | type ∈ view.typesOf resource} =
      {type | InstanceOf (data.Either schema) resource type} := by
    ext type
    exact Graph.mem_typesOf_beside
  refine ⟨⟨?_, ?_⟩, ?_, ?_⟩
  · exact (congrArg Search.worklist (view.typeSearch_rounds resource)).symm.trans
      Search.worklist_run
  · -- The set of classes is read off the ended search.
    intro type
    rw [View.typesOf, SortedSet.mem_ofList, view.typeSearch_rounds resource]
  · rw [classes]
    exact isLeast_instanceOf (data.Either schema) resource
  · constructor
    · rintro none ⟨asserted, typed⟩
      have member : asserted ∈ view.typesOf resource :=
        Graph.mem_typesOf_beside.2 ⟨asserted, typed, .refl⟩
      rw [none] at member
      exact SortedSet.not_mem_empty asserted member
    · intro untyped
      refine SortedSet.ext (fun type => iff_of_false ?_ (SortedSet.not_mem_empty type))
      intro member
      obtain ⟨asserted, typed, _path⟩ := Graph.mem_typesOf_beside.1 member
      exact untyped ⟨asserted, typed⟩

end OntologyLint
