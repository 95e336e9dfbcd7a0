import OntologyLint.Graph.Collection
import OntologyLint.Proofs.Graph.Facts

set_option autoImplicit false

/-! Walks along collections. A walk goes by the first member and the first successor of each cell
and by whether a cell is still open, and by nothing else; so views that agree on those, be it under
other labels for the cells, list the same members. In a determinate graph there is no other member
or successor to come first. -/

namespace OntologyLint

def Triple.linked? (subject : Resource) (predicate : String) (triple : Triple) : Option Resource :=
  if triple.subject = subject ∧ triple.predicate = .iri predicate then triple.object.resource?
  else none

theorem Triple.linked?_eq_some {subject resource : Resource} {predicate : String} {triple : Triple} :
    triple.linked? subject predicate = some resource ↔
      triple = ⟨subject, .iri predicate, .resource resource⟩ := by
  rw [linked?, Option.ite_none_right_eq_some, Object.resource?_eq_some]
  constructor
  · rintro ⟨⟨subjects, predicates⟩, objects⟩
    cases triple
    simp_all
  · rintro rfl
    exact ⟨⟨rfl, rfl⟩, rfl⟩

namespace View

variable {view : View} {subject resource : Resource} {predicate : String}

theorem resourcesOf_eq_filterMap (view : View) (subject : Resource) (predicate : String) :
    view.resourcesOf subject predicate =
      view.triples.filterMap (Triple.linked? subject predicate) := by
  rw [resourcesOf, objectsOf, withPredicate, List.filterMap_map, List.filterMap_filter,
    List.filterMap_filter]
  congr 1
  funext triple
  by_cases subjects : triple.subject = subject
  · by_cases predicates : triple.predicate = .iri predicate <;> simp [Triple.linked?, *]
  · by_cases predicates : triple.predicate = .iri predicate <;> simp [Triple.linked?, *]

/-- The view lists the link to the resource, and no other one with the subject and the predicate
before it. -/
def LeadsFirst (view : View) (subject : Resource) (predicate : String) (resource : Resource) :
    Prop :=
  ∃ before after, view.triples = before ++ ⟨subject, .iri predicate, .resource resource⟩ :: after ∧
    ∀ other, ⟨subject, .iri predicate, .resource other⟩ ∉ before

theorem head?_resourcesOf :
    (view.resourcesOf subject predicate).head? = some resource ↔
      view.LeadsFirst subject predicate resource := by
  rw [resourcesOf_eq_filterMap, List.head?_filterMap, List.findSome?_eq_some_iff]
  constructor
  · rintro ⟨before, triple, after, listed, found, unlinked⟩
    rw [Triple.linked?_eq_some.1 found] at listed
    refine ⟨before, after, listed, ?_⟩
    intro other earlier
    have none := unlinked _ earlier
    rw [Triple.linked?_eq_some.2 rfl] at none
    cases none
  · rintro ⟨before, after, listed, fresh⟩
    refine ⟨before, _, after, listed, Triple.linked?_eq_some.2 rfl, ?_⟩
    intro triple earlier
    cases found : triple.linked? subject predicate with
    | none => rfl
    | some other =>
        rw [Triple.linked?_eq_some.1 found] at earlier
        exact absurd earlier (fresh other)

theorem LeadsFirst.mem (first : view.LeadsFirst subject predicate resource) :
    ⟨subject, .iri predicate, .resource resource⟩ ∈ view.triples :=
  mem_resourcesOf.1 (List.mem_of_head? (head?_resourcesOf.2 first))

theorem exists_leadsFirst (leads : ⟨subject, .iri predicate, .resource resource⟩ ∈ view.triples) :
    ∃ other, view.LeadsFirst subject predicate other := by
  simp only [← head?_resourcesOf, ← Option.isSome_iff_exists, List.isSome_head?]
  exact List.ne_nil_of_mem (mem_resourcesOf.2 leads)

end View

namespace Graph

def LeadsToOne (graph : Graph) (predicate : String) : Prop :=
  ∀ node a b, ⟨node, .iri predicate, .resource a⟩ ∈ graph →
    ⟨node, .iri predicate, .resource b⟩ ∈ graph → a = b

/-- Where a predicate leads to one resource only, that one comes first. -/
theorem leadsFirst_iff {graph : Graph} {subject resource : Resource} {predicate : String}
    (unique : graph.LeadsToOne predicate) :
    graph.view.LeadsFirst subject predicate resource ↔
      ⟨subject, .iri predicate, .resource resource⟩ ∈ graph := by
  constructor
  · exact View.LeadsFirst.mem
  · intro leads
    have listed : ⟨subject, .iri predicate, .resource resource⟩ ∈ graph.view.triples := leads
    obtain ⟨other, first⟩ := View.exists_leadsFirst listed
    rw [unique subject resource other leads first.mem]
    exact first

/-- No node has a choice of members, successors or qualifiers. -/
structure Determinate (graph : Graph) : Prop where
  member : ∀ node a b, ⟨node, .iri Rdf.first, a⟩ ∈ graph → ⟨node, .iri Rdf.first, b⟩ ∈ graph → a = b
  successor : graph.LeadsToOne Rdf.rest
  classQualifier : graph.LeadsToOne Owl.onClass
  datatypeQualifier : graph.LeadsToOne Owl.onDataRange

/-- The predicates whose first object from a node counts, and no other. -/
def choosingPredicates : List String := [Rdf.first, Rdf.rest, Owl.onClass, Owl.onDataRange]

/-- A list of statements without two different objects to choose from gives a determinate graph. -/
theorem determinate_ofStatements {statements : List Statement}
    (same : ∀ one ∈ statements, ∀ other ∈ statements, one.subject = other.subject →
      one.predicate = other.predicate → one.predicate ∈ choosingPredicates →
      one.object = other.object) : (ofStatements statements).Determinate := by
  have unique {predicate : String} (chooses : predicate ∈ choosingPredicates) (node : Resource)
      (a b : Object) (first : ⟨node, .iri predicate, a⟩ ∈ ofStatements statements)
      (second : ⟨node, .iri predicate, b⟩ ∈ ofStatements statements) : a = b := by
    obtain ⟨one, oneListed, oneTriple⟩ := mem_ofStatements.1 first
    obtain ⟨other, otherListed, otherTriple⟩ := mem_ofStatements.1 second
    obtain ⟨subjects, predicates, objects⟩ := Triple.mk.inj oneTriple
    obtain ⟨otherSubjects, otherPredicates, otherObjects⟩ := Triple.mk.inj otherTriple
    have predicates := Resource.iri.inj predicates
    have terms := same one oneListed other otherListed (subjects.trans otherSubjects.symm)
      (predicates.trans (Resource.iri.inj otherPredicates).symm) (predicates ▸ chooses)
    rw [← objects, ← otherObjects, terms]
  have leads {predicate : String} (chooses : predicate ∈ choosingPredicates) :
      (ofStatements statements).LeadsToOne predicate := by
    intro node a b first second
    exact Object.resource.inj (unique chooses node _ _ first second)
  exact ⟨unique (by decide), leads (by decide), leads (by decide), leads (by decide)⟩

end Graph

theorem head?_eq_some_of_only {α : Type} {items : List α} {item : α}
    (only : ∀ other, other ∈ items ↔ other = item) : items.head? = some item := by
  cases items with
  | nil => exact absurd ((only item).2 rfl) List.not_mem_nil
  | cons head tail => exact congrArg some ((only head).1 List.mem_cons_self)

theorem mem_strike {places : List Resource} {place other : Resource} :
    other ∈ strike place places ↔ other ∈ places ∧ other ≠ place := by
  rw [strike, List.mem_filter, decide_eq_true_eq]

namespace View

theorem walkCollection_eq_head (view : View) (unvisited : List Resource) (cell : Resource) :
    view.walkCollection unvisited cell =
      if cell = .iri Rdf.nil then []
      else if cell ∈ unvisited then
        match (view.objectsOf cell Rdf.first).head? with
        | none => []
        | some member =>
            member :: match (view.resourcesOf cell Rdf.rest).head? with
              | none => []
              | some next => view.walkCollection (strike cell unvisited) next
      else [] := by
  rw [walkCollection]
  split
  · rfl
  · split
    · cases view.objectsOf cell Rdf.first with
      | nil => rfl
      | cons member others =>
          cases view.resourcesOf cell Rdf.rest with
          | nil => rfl
          | cons next branches => rfl
    · rfl

section Relabeled

variable {one other : View} {relabel : Resource → Resource} {relabelObject : Object → Object}
  (injective : Function.Injective relabel)
  (ends : ∀ cell, relabel cell = .iri Rdf.nil ↔ cell = .iri Rdf.nil)
  (members : ∀ cell, (other.objectsOf (relabel cell) Rdf.first).head? =
    (one.objectsOf cell Rdf.first).head?.map relabelObject)
  (successors : ∀ cell, (other.resourcesOf (relabel cell) Rdf.rest).head? =
    (one.resourcesOf cell Rdf.rest).head?.map relabel)

include injective ends members successors

theorem walkCollection_map {unvisited places : List Resource}
    (opened : ∀ cell, relabel cell ∈ places ↔ cell ∈ unvisited) (cell : Resource) :
    other.walkCollection places (relabel cell) =
      (one.walkCollection unvisited cell).map relabelObject := by
  rw [walkCollection_eq_head, members, successors]
  -- Along the walk on the right; on the left the same cells stay open under their new labels.
  fun_induction View.walkCollection one unvisited cell generalizing places with
  | case1 unvisited => rw [if_pos ((ends _).2 rfl), List.map_nil]
  | case2 unvisited cell inner fresh empty =>
      rw [if_neg (fun last => inner ((ends cell).1 last)), if_pos ((opened cell).2 fresh), empty]
      rfl
  | case3 unvisited cell inner fresh member others listed last =>
      rw [if_neg (fun last => inner ((ends cell).1 last)), if_pos ((opened cell).2 fresh), listed,
        last]
      rfl
  | case4 unvisited cell inner fresh member others listed next branches continued ih =>
      -- Striking a cell on both sides leaves the same cells open, for no two share a label.
      have still : ∀ place, relabel place ∈ strike (relabel cell) places ↔
          place ∈ strike cell unvisited := by
        intro place
        rw [mem_strike, mem_strike, opened, injective.ne_iff]
      have later := ih still
      rw [← successors, ← members, ← walkCollection_eq_head] at later
      rw [if_neg (fun last => inner ((ends cell).1 last)), if_pos ((opened cell).2 fresh), listed,
        continued]
      exact congrArg (relabelObject member :: ·) later
  | case5 unvisited cell inner closed =>
      rw [if_neg (fun last => inner ((ends cell).1 last)),
        if_neg (fun known => closed ((opened cell).1 known)), List.map_nil]

theorem listMembers_map (cells : ∀ cell, relabel cell ∈ other.subjectsOf Rdf.first ↔
      cell ∈ one.subjectsOf Rdf.first) (head : Resource) :
    other.listMembers (relabel head) = (one.listMembers head).map relabelObject :=
  walkCollection_map injective ends members successors cells head

end Relabeled

theorem listMembers_congr {one other : View}
    (members : ∀ cell, (other.objectsOf cell Rdf.first).head? =
      (one.objectsOf cell Rdf.first).head?)
    (successors : ∀ cell, (other.resourcesOf cell Rdf.rest).head? =
      (one.resourcesOf cell Rdf.rest).head?)
    (cells : ∀ cell, cell ∈ other.subjectsOf Rdf.first ↔ cell ∈ one.subjectsOf Rdf.first)
    (head : Resource) : other.listMembers head = one.listMembers head := by
  have walked : other.listMembers (id head) = (one.listMembers head).map id := by
    apply listMembers_map Function.injective_id (fun _ => Iff.rfl)
    · intro cell
      rw [id, members, Option.map_id, id]
    · intro cell
      rw [id, successors, Option.map_id, id]
    · exact cells
  rw [List.map_id] at walked
  exact walked

end View

end OntologyLint
