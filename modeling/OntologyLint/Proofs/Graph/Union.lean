import OntologyLint.Proofs.Graph.Chain
import OntologyLint.Proofs.Graph.Sameness
import OntologyLint.Proofs.SortedSet

set_option autoImplicit false

/-! Two graphs side by side and the graph that holds the triples of both. Side by side a triple of both
graphs is met twice, and the first graph answers before the second; the answers are those of the one
graph all the same, and so are collections whose cells lie in both. -/

namespace OntologyLint

namespace View

/-- The two views give the same answers to every question, whatever it is asked of. -/
structure SameAnswers (one other : View) : Prop where
  withPredicate : ∀ predicate triple,
    triple ∈ one.withPredicate predicate ↔ triple ∈ other.withPredicate predicate
  objectsOf : ∀ subject predicate object,
    object ∈ one.objectsOf subject predicate ↔ object ∈ other.objectsOf subject predicate
  resourcesOf : ∀ subject predicate resource,
    resource ∈ one.resourcesOf subject predicate ↔ resource ∈ other.resourcesOf subject predicate
  subjectsWith : ∀ predicate object subject,
    subject ∈ one.subjectsWith predicate object ↔ subject ∈ other.subjectsWith predicate object
  assertedTypes : ∀ resource type,
    type ∈ one.assertedTypes resource ↔ type ∈ other.assertedTypes resource
  superclasses : ∀ type parent, parent ∈ one.superclasses type ↔ parent ∈ other.superclasses type
  declaredDomains : ∀ property domain,
    domain ∈ one.declaredDomains property ↔ domain ∈ other.declaredDomains property
  declaredRanges : ∀ property range,
    range ∈ one.declaredRanges property ↔ range ∈ other.declaredRanges property
  typedResources : one.typedResources = other.typedResources

theorem SameTriples.sameAnswers {one other : View} (same : one.SameTriples other) :
    one.SameAnswers other where
  withPredicate := fun _predicate _triple => same.mem_withPredicate
  objectsOf := fun _subject predicate _object => (same.on predicate).mem_objectsOf
  resourcesOf := fun _subject predicate _resource => (same.on predicate).mem_resourcesOf
  subjectsWith := fun predicate _object _subject => (same.on predicate).mem_subjectsWith
  assertedTypes := fun _resource _type => (same.on Rdf.type).mem_resourcesOf
  superclasses := fun _type _parent => same.mem_superclasses
  declaredDomains := fun _property _domain => (same.on Rdfs.domain).mem_resourcesOf
  declaredRanges := fun _property _range => (same.on Rdfs.range).mem_resourcesOf
  typedResources := same.typedResources

end View

namespace Graph

variable {first second : Graph}

theorem sameTriples_beside_merge :
    (first.beside second).SameTriples (first.merge second).view :=
  fun _triple => mem_beside.trans mem_merge.symm

theorem sameTriples_beside_swap :
    (second.beside first).SameTriples (first.merge second).view :=
  fun _triple => mem_beside.trans (or_comm.trans mem_merge.symm)

theorem merge_ofStatements {some others : List Statement} :
    (ofStatements some).merge (ofStatements others) = ofStatements (some ++ others) := by
  ext triple
  rw [mem_merge, mem_ofStatements_iff, mem_ofStatements_iff, mem_ofStatements_iff, List.map_append,
    List.mem_append]

end Graph

/-- Two graphs side by side answer as the graph that holds the triples of both, whichever of the two
is asked first, and so does every other listing of those triples. -/
theorem union_refines_merge (first second : Graph) :
    (first.beside second).SameAnswers (first.merge second).view ∧
    (first.beside second).SameAnswers (second.beside first) ∧
    (first.beside second).typedResources.toList.Nodup ∧
    ((first.beside second).subjectsOf Rdf.type).eraseDups.Perm
      (first.beside second).typedResources.toList ∧
    ((first.merge second).Unbranched → ∀ head,
      (first.beside second).listMembers head = (first.merge second).view.listMembers head ∧
      (second.beside first).listMembers head = (first.merge second).view.listMembers head) ∧
    (∀ listing : View, listing.SameTriples (first.merge second).view →
      listing.SameAnswers (first.merge second).view ∧
      ((first.merge second).Unbranched → ∀ head,
        listing.listMembers head = (first.merge second).view.listMembers head)) := by
  have straight : (first.beside second).SameTriples (first.merge second).view :=
    Graph.sameTriples_beside_merge
  have swapped : (second.beside first).SameTriples (first.merge second).view :=
    Graph.sameTriples_beside_swap
  refine ⟨straight.sameAnswers, (straight.trans swapped.symm).sameAnswers, ?_, ?_, ?_, ?_⟩
  · exact (first.beside second).typedResources.increasing.nodup
  · exact SortedSet.eraseDups_perm_ofList _
  · intro unbranched head
    exact ⟨straight.listMembers_eq unbranched head, swapped.listMembers_eq unbranched head⟩
  · intro listing same
    exact ⟨same.sameAnswers, fun unbranched head => same.listMembers_eq unbranched head⟩

namespace SpreadCollection

/-- The first cell, and a resource that the other part types as well. -/
def near : List Statement := [
  ⟨.iri "rex", Rdf.type, .resource (.iri "Dog")⟩,
  ⟨.blank "one", Rdf.first, .resource (.iri "Cat")⟩, ⟨.blank "one", Rdf.rest, .resource (.blank "two")⟩]

def far : List Statement := [
  ⟨.iri "rex", Rdf.type, .resource (.iri "Pet")⟩,
  ⟨.blank "one", Rdf.rest, .resource (.blank "two")⟩,
  ⟨.blank "two", Rdf.first, .resource (.iri "Dog")⟩,
  ⟨.blank "two", Rdf.rest, .resource (.iri Rdf.nil)⟩]

theorem unbranched : ((Graph.ofStatements near).merge (.ofStatements far)).Unbranched := by
  rw [Graph.merge_ofStatements]
  exact (Graph.determinate_ofStatements (by decide)).unbranched

theorem strand : ((Graph.ofStatements near).merge (.ofStatements far)).view.Strand (.blank "one")
    [(.blank "one", .resource (.iri "Cat")), (.blank "two", .resource (.iri "Dog"))]
    (.iri Rdf.nil) where
  chain := by
    rw [Graph.merge_ofStatements]
    exact .cons (View.isCell_ofStatements (by decide) (by decide) (by decide) (by decide))
      (.cons (View.isCell_ofStatements (by decide) (by decide) (by decide) (by decide)) (.nil _))
  distinct := by decide
  inner := by decide

/-- All statements from the last to the first, and the first part once more. -/
def listing : View := ⟨((near ++ far).reverse ++ near).map Statement.triple⟩

theorem sameTriples :
    listing.SameTriples ((Graph.ofStatements near).merge (.ofStatements far)).view := by
  rw [Graph.merge_ofStatements]
  apply View.sameTriples_ofStatements
  intro statement
  rw [List.mem_append, List.mem_reverse]
  exact or_iff_left_of_imp (List.mem_append_left far)

end SpreadCollection

open SpreadCollection in
theorem spread_collection_refined :
    ((Graph.ofStatements near).beside (.ofStatements far)).listMembers (.blank "one") =
      [.resource (.iri "Cat"), .resource (.iri "Dog")] ∧
    ((Graph.ofStatements far).beside (.ofStatements near)).listMembers (.blank "one") =
      [.resource (.iri "Cat"), .resource (.iri "Dog")] ∧
    listing.listMembers (.blank "one") = [.resource (.iri "Cat"), .resource (.iri "Dog")] := by
  obtain ⟨_answers, _swapped, _distinct, _scanned, lists, listings⟩ :=
    union_refines_merge (.ofStatements near) (.ofStatements far)
  have members := strand.listMembers_eq (Or.inl rfl)
  obtain ⟨straight, swapped⟩ := lists unbranched (.blank "one")
  exact ⟨straight.trans members, swapped.trans members,
    ((listings listing sameTriples).2 unbranched (.blank "one")).trans members⟩

end OntologyLint
