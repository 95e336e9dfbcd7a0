import OntologyLint.Proofs.Graph.Order
import OntologyLint.Proofs.Graph.Walk
import OntologyLint.Proofs.Hierarchy.Instances
import OntologyLint.Proofs.Term.Relabeling

set_option autoImplicit false

/-! Graphs under other labels. A relabeled graph has the relabeled triples and no others, and what
is derived from its triples, the classes of resources and the members of collections, is relabeled
along with them. -/

namespace OntologyLint

open Relation (ReflTransGen)

namespace Relabeling

variable {relabel : Relabeling}

def graph (relabel : Relabeling) (graph : Graph) : Graph :=
  ⟨SortedSet.ofList (graph.triples.toList.map relabel.triple), by
    intro triple found
    obtain ⟨original, member, rfl⟩ := List.mem_map.1 (SortedSet.mem_ofList.1 found)
    obtain ⟨statement, rfl⟩ := graph.written original member
    exact relabel.exists_statement statement⟩

theorem relabels_graph (relabel : Relabeling) (graph : Graph) :
    relabel.Relabels (· ∈ graph) (· ∈ relabel.graph graph) :=
  fun _ => SortedSet.mem_ofList.trans List.mem_map

theorem relabels_either (relabel : Relabeling) (first second : Graph) :
    relabel.Relabels (first.Either second)
      ((relabel.graph first).Either (relabel.graph second)) := by
  intro other
  refine (or_congr (relabel.relabels_graph first other)
    (relabel.relabels_graph second other)).trans ?_
  constructor
  · rintro (⟨triple, known, same⟩ | ⟨triple, known, same⟩)
    · exact ⟨triple, Or.inl known, same⟩
    · exact ⟨triple, Or.inr known, same⟩
  · rintro ⟨triple, known | known, same⟩
    · exact Or.inl ⟨triple, known, same⟩
    · exact Or.inr ⟨triple, known, same⟩

section Classes

variable {holds relabeled : Triple → Prop} (relabels : relabel.Relabels holds relabeled)
  {resource type : Resource}

include relabels

theorem Relabels.subclassStep_iff {parent : Resource} :
    SubclassStep relabeled (relabel type) parent ↔
      ∃ original, SubclassStep holds type original ∧ relabel original = parent := by
  rw [SubclassStep, relabels.resource_from_iff, relabels.resource_from_iff,
    relabels.resource_to_iff]
  constructor
  · rintro (⟨original, below, same⟩ | ⟨original, equal, same⟩ | ⟨original, equal, same⟩)
    · exact ⟨original, Or.inl below, same⟩
    · exact ⟨original, Or.inr (Or.inl equal), same⟩
    · exact ⟨original, Or.inr (Or.inr equal), same⟩
  · rintro ⟨original, below | equal | equal, same⟩
    · exact Or.inl ⟨original, below, same⟩
    · exact Or.inr (Or.inl ⟨original, equal, same⟩)
    · exact Or.inr (Or.inr ⟨original, equal, same⟩)

theorem Relabels.path_iff {upper : Resource} :
    ReflTransGen (SubclassStep relabeled) (relabel type) upper ↔
      ∃ original, ReflTransGen (SubclassStep holds) type original ∧ relabel original = upper := by
  constructor
  · intro path
    induction path with
    | refl => exact ⟨type, .refl, rfl⟩
    | tail _path step ih =>
        obtain ⟨middle, before, rfl⟩ := ih
        obtain ⟨original, last, same⟩ := relabels.subclassStep_iff.1 step
        exact ⟨original, before.tail last, same⟩
  · rintro ⟨original, path, rfl⟩
    refine ReflTransGen.lift relabel ?_ _ _ path
    intro lower upper step
    exact relabels.subclassStep_iff.2 ⟨upper, step, rfl⟩

theorem Relabels.exists_instanceOf_iff :
    InstanceOf relabeled (relabel resource) type ↔
      ∃ original, InstanceOf holds resource original ∧ relabel original = type := by
  constructor
  · rintro ⟨asserted, typed, path⟩
    obtain ⟨lowest, originally, rfl⟩ := relabels.resource_from_iff.1 typed
    obtain ⟨original, above, same⟩ := relabels.path_iff.1 path
    exact ⟨original, ⟨lowest, originally, above⟩, same⟩
  · rintro ⟨original, ⟨asserted, typed, path⟩, rfl⟩
    exact ⟨relabel asserted, relabels.resource_iff.2 typed,
      relabels.path_iff.2 ⟨original, path, rfl⟩⟩

theorem Relabels.instanceOf_iff :
    InstanceOf relabeled (relabel resource) (relabel type) ↔ InstanceOf holds resource type := by
  rw [relabels.exists_instanceOf_iff]
  constructor
  · rintro ⟨original, member, same⟩
    rw [← relabel.injective same]
    exact member
  · intro member
    exact ⟨type, member, rfl⟩

end Classes

section Graphs

variable {graph : Graph} {subject resource : Resource} {predicate type : String}

theorem isTyped_iff :
    (relabel.graph graph).IsTyped (relabel resource) type ↔ graph.IsTyped resource type :=
  (relabel.relabels_graph graph).iri_iff

theorem exists_isTyped (typed : (relabel.graph graph).IsTyped resource type) :
    ∃ original, graph.IsTyped original type ∧ relabel original = resource := by
  rw [Graph.IsTyped, ← relabel.iri type] at typed
  exact (relabel.relabels_graph graph).resource_to_iff.1 typed

theorem uses_iff :
    (relabel.graph graph).Uses (relabel subject) predicate ↔ graph.Uses subject predicate := by
  constructor
  · rintro ⟨object, leads⟩
    obtain ⟨target, known, _same⟩ := (relabel.relabels_graph graph).from_iff.1 leads
    exact ⟨target, known⟩
  · rintro ⟨object, leads⟩
    exact ⟨relabel.object object,
      ((relabel.relabels_graph graph).object_iff subject object).2 leads⟩

theorem exists_uses (uses : (relabel.graph graph).Uses subject predicate) :
    ∃ original, graph.Uses original predicate ∧ relabel original = subject := by
  obtain ⟨object, leads⟩ := uses
  obtain ⟨source, target, known, same, _same⟩ := (relabel.relabels_graph graph).fact_iff.1 leads
  exact ⟨source, ⟨target, known⟩, same⟩

theorem leadsToOne_graph (unique : graph.LeadsToOne predicate) :
    (relabel.graph graph).LeadsToOne predicate := by
  intro node a b first second
  obtain ⟨source, target, known, rfl, leads⟩ := (relabel.relabels_graph graph).fact_iff.1 first
  obtain ⟨value, rfl, rfl⟩ := object_eq_resource.1 leads
  obtain ⟨other, again, rfl⟩ := (relabel.relabels_graph graph).resource_from_iff.1 second
  rw [unique source value other known again]

theorem determinate_graph (determinate : graph.Determinate) :
    (relabel.graph graph).Determinate where
  member := by
    intro node a b first second
    obtain ⟨source, target, known, rfl, rfl⟩ := (relabel.relabels_graph graph).fact_iff.1 first
    obtain ⟨other, again, rfl⟩ := (relabel.relabels_graph graph).from_iff.1 second
    rw [determinate.member source target other known again]
  successor := leadsToOne_graph determinate.successor
  classQualifier := leadsToOne_graph determinate.classQualifier
  datatypeQualifier := leadsToOne_graph determinate.datatypeQualifier

end Graphs

end Relabeling

namespace View

variable {relabel : Relabeling} {graph : Graph}

theorem head?_objectsOf_first (determinate : graph.Determinate) {cell : Resource}
    {member : Object} :
    (graph.view.objectsOf cell Rdf.first).head? = some member ↔
      ⟨cell, .iri Rdf.first, member⟩ ∈ graph := by
  rw [increasing_objectsOf.head?_eq_some, mem_objectsOf]
  constructor
  · exact And.left
  · intro leads
    refine ⟨leads, ?_⟩
    intro other again
    rw [determinate.member cell other member (mem_objectsOf.1 again) leads]
    exact not_lt_self member

theorem listMembers_relabel (determinate : graph.Determinate) (head : Resource) :
    (relabel.graph graph).view.listMembers (relabel head) =
      (graph.view.listMembers head).map relabel.object := by
  have relabels := relabel.relabels_graph graph
  apply listMembers_map relabel.injective (fun _ => Relabeling.apply_eq_iri)
  case members =>
    intro cell
    ext member
    rw [head?_objectsOf_first (Relabeling.determinate_graph determinate), Option.map_eq_some_iff,
      relabels.from_iff]
    simp only [head?_objectsOf_first determinate]
  case successors =>
    intro cell
    ext next
    rw [head?_resourcesOf, Option.map_eq_some_iff,
      Graph.leadsFirst_iff (Relabeling.leadsToOne_graph determinate.successor),
      relabels.resource_from_iff]
    simp only [head?_resourcesOf, Graph.leadsFirst_iff determinate.successor]
  case cells =>
    intro cell
    rw [mem_subjectsOf, mem_subjectsOf]
    exact Relabeling.uses_iff

end View

end OntologyLint
