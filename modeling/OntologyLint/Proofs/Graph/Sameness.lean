import OntologyLint.Proofs.Graph.Facts
import OntologyLint.Proofs.Graph.Walk

set_option autoImplicit false

/-! Views that list the same triples, each in an order of its own and each triple as often as it
likes. Every question has the same answers in both. What comes first among several answers may differ,
so their collections are the same where no cell has a choice of members or successors. -/

namespace OntologyLint

theorem head?_eq_of_same {α : Type} {items others : List α}
    (same : ∀ item, item ∈ items ↔ item ∈ others) (unique : ∀ a ∈ others, ∀ b ∈ others, a = b) :
    items.head? = others.head? := by
  cases others with
  | nil =>
      rw [List.eq_nil_iff_forall_not_mem.2 (fun item found => List.not_mem_nil ((same item).1 found))]
  | cons first rest =>
      apply head?_eq_some_of_only
      intro other
      rw [same other]
      constructor
      · intro found
        exact unique other found first List.mem_cons_self
      · intro again
        rw [again]
        exact List.mem_cons_self

namespace Graph

/-- No cell has a choice of members or of successors. -/
structure Unbranched (graph : Graph) : Prop where
  member : ∀ node a b, ⟨node, .iri Rdf.first, a⟩ ∈ graph → ⟨node, .iri Rdf.first, b⟩ ∈ graph → a = b
  successor : graph.LeadsToOne Rdf.rest

theorem Determinate.unbranched {graph : Graph} (determinate : graph.Determinate) :
    graph.Unbranched :=
  ⟨determinate.member, determinate.successor⟩

end Graph

namespace View

def SameOn (one other : View) (predicate : String) : Prop :=
  ∀ subject object, ⟨subject, .iri predicate, object⟩ ∈ one.triples ↔
    ⟨subject, .iri predicate, object⟩ ∈ other.triples

def SameTriples (one other : View) : Prop :=
  ∀ triple, triple ∈ one.triples ↔ triple ∈ other.triples

theorem sameTriples_ofStatements {statements listed : List Statement}
    (same : ∀ statement, statement ∈ listed ↔ statement ∈ statements) :
    (⟨listed.map Statement.triple⟩ : View).SameTriples (Graph.ofStatements statements).view := by
  intro triple
  rw [Graph.mem_view, Graph.mem_ofStatements, List.mem_map]
  exact exists_congr fun statement => and_congr_left fun _same => same statement

variable {one other : View} {subject resource : Resource} {predicate : String}

namespace SameOn

variable (same : one.SameOn other predicate)

include same

theorem mem_objectsOf {object : Object} :
    object ∈ one.objectsOf subject predicate ↔ object ∈ other.objectsOf subject predicate := by
  rw [View.mem_objectsOf, View.mem_objectsOf]
  exact same subject object

theorem mem_resourcesOf :
    resource ∈ one.resourcesOf subject predicate ↔
      resource ∈ other.resourcesOf subject predicate := by
  rw [View.mem_resourcesOf, View.mem_resourcesOf]
  exact same subject (.resource resource)

theorem mem_subjectsWith :
    subject ∈ one.subjectsWith predicate resource ↔
      subject ∈ other.subjectsWith predicate resource := by
  rw [View.mem_subjectsWith, View.mem_subjectsWith]
  exact same subject (.resource resource)

theorem mem_subjectsOf :
    subject ∈ one.subjectsOf predicate ↔ subject ∈ other.subjectsOf predicate := by
  rw [View.mem_subjectsOf, View.mem_subjectsOf]
  exact exists_congr (same subject)

theorem setOfResources (subject : Resource) :
    SortedSet.ofList (one.resourcesOf subject predicate) =
      SortedSet.ofList (other.resourcesOf subject predicate) := by
  ext resource
  rw [SortedSet.mem_ofList, SortedSet.mem_ofList]
  exact same.mem_resourcesOf

end SameOn

theorem setOfInstances_congr (types : one.SameOn other Rdf.type) (type : String) :
    SortedSet.ofList (one.instancesOf type) = SortedSet.ofList (other.instancesOf type) := by
  ext resource
  rw [SortedSet.mem_ofList, SortedSet.mem_ofList]
  exact types.mem_subjectsWith

namespace SameTriples

theorem symm (same : one.SameTriples other) : other.SameTriples one :=
  fun triple => (same triple).symm

theorem trans {third : View} (first : one.SameTriples other) (second : other.SameTriples third) :
    one.SameTriples third :=
  fun triple => (first triple).trans (second triple)

theorem on (same : one.SameTriples other) (predicate : String) : one.SameOn other predicate :=
  fun _subject _object => same _

theorem mem_withPredicate (same : one.SameTriples other) {triple : Triple} :
    triple ∈ one.withPredicate predicate ↔ triple ∈ other.withPredicate predicate := by
  rw [View.mem_withPredicate, View.mem_withPredicate, same triple]

theorem mem_superclasses (same : one.SameTriples other) {type : Resource} :
    resource ∈ one.superclasses type ↔ resource ∈ other.superclasses type := by
  simp only [superclasses, List.mem_append]
  exact or_congr (or_congr (same.on _).mem_resourcesOf (same.on _).mem_resourcesOf)
    (same.on _).mem_subjectsWith

theorem typedResources (same : one.SameTriples other) :
    one.typedResources = other.typedResources := by
  ext resource
  rw [View.typedResources, View.typedResources, SortedSet.mem_ofList, SortedSet.mem_ofList]
  exact (same.on Rdf.type).mem_subjectsOf

theorem listMembers_eq {graph : Graph} {view : View} (same : view.SameTriples graph.view)
    (unbranched : graph.Unbranched) (head : Resource) :
    view.listMembers head = graph.view.listMembers head := by
  apply listMembers_congr
  · intro cell
    apply head?_eq_of_same (fun _object => (same.on Rdf.first).mem_objectsOf)
    intro a first b second
    exact unbranched.member cell a b (View.mem_objectsOf.1 first) (View.mem_objectsOf.1 second)
  · intro cell
    apply head?_eq_of_same (fun _resource => (same.on Rdf.rest).mem_resourcesOf)
    intro a first b second
    exact unbranched.successor cell a b (View.mem_resourcesOf.1 first)
      (View.mem_resourcesOf.1 second)
  · intro cell
    exact (same.on Rdf.first).mem_subjectsOf

end SameTriples

end View

end OntologyLint
