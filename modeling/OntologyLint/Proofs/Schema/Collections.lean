import OntologyLint.Proofs.Graph.Agreement
import OntologyLint.Proofs.Graph.Collection
import OntologyLint.Proofs.Graph.Rounds

set_option autoImplicit false

/-! What a collection of disjoint classes adds to the declared pairs. A graph with one more link from a
group of disjoint classes to a collection declares the pairs of that collection besides what it
declared before, and each two classes of a well-formed collection make one pair. -/

namespace OntologyLint

theorem flatMap_perm_of_grows {α β : Type} {items : List α} {item : α} {added : List β}
    {before after : α → List β} (distinct : items.Nodup) (listed : item ∈ items)
    (grows : (after item).Perm (added ++ before item))
    (stays : ∀ other, other ≠ item → after other = before other) :
    (items.flatMap after).Perm (added ++ items.flatMap before) := by
  induction items with
  | nil => cases listed
  | cons head tail ih =>
      obtain ⟨fresh, rest⟩ := List.nodup_cons.1 distinct
      rw [List.flatMap_cons, List.flatMap_cons]
      by_cases same : head = item
      · have others : tail.flatMap after = tail.flatMap before := by
          apply List.flatMap_congr
          intro other later
          apply stays
          intro again
          rw [same, ← again] at fresh
          exact fresh later
        rw [same, others, ← List.append_assoc]
        exact grows.append_right _
      · have later : item ∈ tail := List.mem_of_ne_of_mem (Ne.symm same) listed
        rw [stays head same, ← List.append_assoc]
        refine ((ih rest later).append_left _).trans ?_
        rw [← List.append_assoc]
        exact List.perm_append_comm.append_right _

/-- The graph with a link from a group to a collection of its members. -/
def Graph.withMembers (graph : Graph) (group head : Resource) : Graph :=
  graph.insert ⟨group, Owl.members, .resource head⟩

namespace View

variable {graph : Graph} {group head other : Resource}

theorem agreesOn_withMembers {predicate : String} (different : Owl.members ≠ predicate) :
    graph.view.AgreesOn (graph.withMembers group head).view predicate :=
  (Graph.agreesOn_insert graph different).view

theorem mem_resourcesOf_withMembers {member : Resource} :
    member ∈ (graph.withMembers group head).view.resourcesOf other Owl.members ↔
      (other = group ∧ member = head) ∨ member ∈ graph.view.resourcesOf other Owl.members := by
  rw [mem_resourcesOf, mem_resourcesOf, Graph.mem_view, Graph.withMembers, Graph.mem_insert]
  refine or_congr_left ?_
  constructor
  · intro same
    cases same
    exact ⟨rfl, rfl⟩
  · intro same
    rw [same.1, same.2]
    rfl

theorem resourcesOf_withMembers_of_ne (different : other ≠ group) :
    (graph.withMembers group head).view.resourcesOf other Owl.members =
      graph.view.resourcesOf other Owl.members := by
  apply SortedSet.eq_of_increasing increasing_resourcesOf increasing_resourcesOf
  intro member
  rw [mem_resourcesOf_withMembers]
  exact or_iff_right (fun same => different same.1)

theorem resourcesOf_withMembers_perm
    (fresh : ⟨group, .iri Owl.members, .resource head⟩ ∉ graph) :
    ((graph.withMembers group head).view.resourcesOf group Owl.members).Perm
      (head :: graph.view.resourcesOf group Owl.members) := by
  have absent : head ∉ graph.view.resourcesOf group Owl.members := by
    rw [mem_resourcesOf]
    exact fresh
  have distinct : (head :: graph.view.resourcesOf group Owl.members).Nodup :=
    List.nodup_cons.2 ⟨absent, increasing_resourcesOf.nodup⟩
  apply (List.perm_ext_iff_of_nodup increasing_resourcesOf.nodup distinct).2
  intro member
  rw [mem_resourcesOf_withMembers, List.mem_cons]
  exact or_congr_left (and_iff_right rfl)

/-- A new link to a collection adds the pairs of its members and nothing else. -/
theorem disjointnessAssertions_withMembers
    (typed : graph.IsTyped group Owl.allDisjointClasses)
    (fresh : ⟨group, .iri Owl.members, .resource head⟩ ∉ graph) :
    (graph.withMembers group head).view.disjointnessAssertions.Perm
      (pairsOf ((graph.view.listMembers head).filterMap Object.resource?) ++
        graph.view.disjointnessAssertions) := by
  have edges : graph.view.AgreesOn (graph.withMembers group head).view Owl.disjointWith :=
    agreesOn_withMembers (by decide)
  have types : graph.view.AgreesOn (graph.withMembers group head).view Rdf.type :=
    agreesOn_withMembers (by decide)
  have lists : graph.view.listMembers = (graph.withMembers group head).view.listMembers :=
    listMembers_eq (agreesOn_withMembers (by decide)) (agreesOn_withMembers (by decide))
  rw [disjointnessAssertions, disjointnessAssertions, instancesOf, instancesOf,
    ← edges.withPredicate_eq, ← types.subjectsWith_eq, ← lists, ← List.append_assoc]
  refine List.Perm.trans ?_ (List.perm_append_comm.append_right _)
  rw [List.append_assoc]
  apply List.Perm.append_left
  apply flatMap_perm_of_grows nodup_subjectsWith (mem_instancesOf.2 typed)
  · exact (resourcesOf_withMembers_perm fresh).flatMap_right _
  · intro other different
    rw [resourcesOf_withMembers_of_ne different]

end View

/-- The pairs hold every two different classes once, in one of the two directions, and no other. -/
structure PairsOnce (classes : List Resource) (pairs : List (Resource × Resource)) : Prop where
  number : pairs.length = classes.length * (classes.length - 1) / 2
  once : ∀ a b, pairs.count (a, b) + pairs.count (b, a) =
    if a ∈ classes ∧ b ∈ classes ∧ a ≠ b then 1 else 0

theorem pairsOnce_pairsOf {classes : List Resource} (distinct : classes.Nodup) :
    PairsOnce classes (pairsOf classes) :=
  ⟨length_pairsOf, fun _a _b => count_pairsOf_of_nodup distinct⟩

theorem resources_map_resource (classes : List Resource) :
    (classes.map Object.resource).filterMap Object.resource? = classes := by
  rw [List.filterMap_map]
  exact List.filterMap_some

/-- A well-formed collection of different classes adds each two of them once. -/
theorem View.Strand.adds_pairs {graph : Graph} {group head : Resource}
    {cells : List (Resource × Object)} {classes : List Resource}
    (strand : graph.view.Strand head cells (.iri Rdf.nil))
    (members : cells.map Prod.snd = classes.map Object.resource) (distinct : classes.Nodup)
    (typed : graph.IsTyped group Owl.allDisjointClasses)
    (fresh : ⟨group, .iri Owl.members, .resource head⟩ ∉ graph) :
    ∃ pairs, PairsOnce classes pairs ∧
      (graph.withMembers group head).view.disjointnessAssertions.Perm
        (pairs ++ graph.view.disjointnessAssertions) := by
  refine ⟨pairsOf classes, pairsOnce_pairsOf distinct, ?_⟩
  have added := View.disjointnessAssertions_withMembers typed fresh
  rw [strand.listMembers_eq (Or.inl rfl), members, resources_map_resource] at added
  exact added

/-- A walk meets the members of a well-formed collection, and those of a ring, once and in order; and
on every graph it ends, without meeting a cell twice. -/
theorem collections_walked_to_their_end :
    (∀ (view : View) (head : Resource) (cells : List (Resource × Object)),
      view.Strand head cells (.iri Rdf.nil) → view.listMembers head = cells.map Prod.snd) ∧
    (∀ (view : View) (head : Resource) (cells : List (Resource × Object)), cells ≠ [] →
      view.Strand head cells head → view.listMembers head = cells.map Prod.snd) ∧
    (∀ (view : View) (head : Resource),
      (∀ rounds, (view.walkFrom head rounds).Sound view) ∧
      (view.walkFrom head ((view.subjectsOf Rdf.first).toFinset.card + 1)).next? = none ∧
      (view.walkFrom head ((view.subjectsOf Rdf.first).toFinset.card + 1)).members =
        view.listMembers head ∧
      (view.listMembers head).length ≤ (view.subjectsOf Rdf.first).toFinset.card) ∧
    (∀ (graph : Graph) (group head : Resource) (cells : List (Resource × Object))
      (classes : List Resource), graph.view.Strand head cells (.iri Rdf.nil) →
      cells.map Prod.snd = classes.map Object.resource → classes.Nodup →
      graph.IsTyped group Owl.allDisjointClasses →
      ⟨group, .iri Owl.members, .resource head⟩ ∉ graph →
      ∃ pairs, PairsOnce classes pairs ∧
        (graph.withMembers group head).view.disjointnessAssertions.Perm
          (pairs ++ graph.view.disjointnessAssertions)) := by
  refine ⟨?_, ?_, ?_, ?_⟩
  · intro view head cells strand
    exact strand.listMembers_eq (Or.inl rfl)
  · intro view head cells nonempty ring
    exact ring.listMembers_eq (Or.inr (ring.head_mem nonempty))
  · intro view head
    obtain ⟨ended, met⟩ := view.walkFrom_ended head
    exact ⟨View.sound_walkFrom head, ended, met, View.length_listMembers_le head⟩
  · intro graph group head cells classes strand members distinct typed fresh
    exact strand.adds_pairs members distinct typed fresh

namespace PetCollections

/-- A collection of two classes, after whose end another member is written, and a ring of two cells. -/
def statements : List Statement := [
  ⟨.blank "one", Rdf.first, .resource (.iri "Cat")⟩, ⟨.blank "one", Rdf.rest, .resource (.blank "two")⟩,
  ⟨.blank "two", Rdf.first, .resource (.iri "Dog")⟩, ⟨.blank "two", Rdf.rest, .resource (.iri Rdf.nil)⟩,
  ⟨.iri Rdf.nil, Rdf.first, .resource (.iri "Bird")⟩,
  ⟨.blank "east", Rdf.first, .plain "sun"⟩,
  ⟨.blank "east", Rdf.rest, .resource (.blank "west")⟩,
  ⟨.blank "west", Rdf.first, .resource (.iri "Cat")⟩,
  ⟨.blank "west", Rdf.rest, .resource (.blank "east")⟩,
  ⟨.blank "pets", Rdf.type, .resource (.iri Owl.allDisjointClasses)⟩]

theorem line : (Graph.ofStatements statements).view.Strand (.blank "one")
    [(.blank "one", .resource (.iri "Cat")), (.blank "two", .resource (.iri "Dog"))]
    (.iri Rdf.nil) where
  chain := .cons (View.isCell_ofStatements (by decide) (by decide) (by decide) (by decide))
    (.cons (View.isCell_ofStatements (by decide) (by decide) (by decide) (by decide)) (.nil _))
  distinct := by decide
  inner := by decide

theorem ring : (Graph.ofStatements statements).view.Strand (.blank "east")
    [(.blank "east", .literal (.plain "sun")), (.blank "west", .resource (.iri "Cat"))]
    (.blank "east") where
  chain := .cons (View.isCell_ofStatements (by decide) (by decide) (by decide) (by decide))
    (.cons (View.isCell_ofStatements (by decide) (by decide) (by decide) (by decide)) (.nil _))
  distinct := by decide
  inner := by decide

theorem unlinked : ⟨.blank "pets", .iri Owl.members, .resource (.blank "one")⟩ ∉
    Graph.ofStatements statements := by
  rw [Graph.mem_ofStatements_iff]
  decide

end PetCollections

open PetCollections in
theorem pet_collections_walked :
    (Graph.ofStatements statements).view.listMembers (.blank "one") =
      [.resource (.iri "Cat"), .resource (.iri "Dog")] ∧
    (Graph.ofStatements statements).view.listMembers (.blank "east") =
      [.literal (.plain "sun"), .resource (.iri "Cat")] ∧
    ∃ pairs, PairsOnce [.iri "Cat", .iri "Dog"] pairs ∧
      ((Graph.ofStatements statements).withMembers (.blank "pets")
        (.blank "one")).view.disjointnessAssertions.Perm
          (pairs ++ (Graph.ofStatements statements).view.disjointnessAssertions) := by
  obtain ⟨straight, around, _ends, pairs⟩ := collections_walked_to_their_end
  refine ⟨straight _ _ _ line, around _ _ _ (List.cons_ne_nil _ _) ring, ?_⟩
  apply pairs _ _ _ _ _ line rfl (by decide) _ unlinked
  exact Graph.mem_ofStatements_iff.2 (by decide)

end OntologyLint
