import OntologyLint.Proofs.Graph.Collection
import OntologyLint.Proofs.Graph.Facts
import OntologyLint.Schema.Index

set_option autoImplicit false

/-! What a schema gathers about disjoint classes. A pair of classes is disjoint in a schema if its
graph says so of the classes in either order, or lists both in a collection of disjoint classes. -/

namespace OntologyLint

namespace View

def ListsDisjoint (view : View) (a b : Resource) : Prop :=
  ∃ group head, ⟨group, .iri Rdf.type, .resource (.iri Owl.allDisjointClasses)⟩ ∈ view.triples ∧
    ⟨group, .iri Owl.members, .resource head⟩ ∈ view.triples ∧
    ∃ i j : Nat, i ≠ j ∧ (view.listMembers head)[i]? = some (.resource a) ∧
      (view.listMembers head)[j]? = some (.resource b)

def DeclaresDisjoint (view : View) (a b : Resource) : Prop :=
  ⟨a, .iri Owl.disjointWith, .resource b⟩ ∈ view.triples ∨
    ⟨b, .iri Owl.disjointWith, .resource a⟩ ∈ view.triples ∨ view.ListsDisjoint a b

end View

variable {view : View} {a b : Resource}

theorem DisjointPair.of?_eq_some {pair : DisjointPair} :
    DisjointPair.of? a b = some pair ↔
      (a = pair.first ∧ b = pair.second) ∨ (a = pair.second ∧ b = pair.first) := by
  constructor
  · intro made
    unfold DisjointPair.of? at made
    split at made
    · cases made
      exact Or.inl ⟨rfl, rfl⟩
    · split at made
      · cases made
        exact Or.inr ⟨rfl, rfl⟩
      · cases made
  · have before := pair.increasing
    rintro (⟨rfl, rfl⟩ | ⟨rfl, rfl⟩)
    · exact dif_pos before
    · have after : compare pair.second pair.first ≠ .lt := by
        intro after
        exact not_lt_self _ (Std.TransCmp.lt_trans before after)
      exact (dif_neg after).trans (dif_pos before)

namespace View

theorem mem_disjointnessAssertions :
    (a, b) ∈ view.disjointnessAssertions ↔
      ⟨a, .iri Owl.disjointWith, .resource b⟩ ∈ view.triples ∨
        ∃ group head, ⟨group, .iri Rdf.type, .resource (.iri Owl.allDisjointClasses)⟩ ∈ view.triples ∧
          ⟨group, .iri Owl.members, .resource head⟩ ∈ view.triples ∧
          [.resource a, .resource b].Sublist (view.listMembers head) := by
  rw [disjointnessAssertions, List.mem_append]
  refine or_congr ?_ ?_
  · exact mem_edges
  · simp only [List.mem_flatMap, instancesOf, mem_subjectsWith, mem_resourcesOf, mem_pairsOf,
      pair_sublist_resources, exists_and_left]

/-- The order in which a collection lists two classes makes no difference. -/
theorem listsDisjoint_iff :
    view.ListsDisjoint a b ↔
      ∃ group head, ⟨group, .iri Rdf.type, .resource (.iri Owl.allDisjointClasses)⟩ ∈ view.triples ∧
        ⟨group, .iri Owl.members, .resource head⟩ ∈ view.triples ∧
        ([.resource a, .resource b].Sublist (view.listMembers head) ∨
          [.resource b, .resource a].Sublist (view.listMembers head)) := by
  refine exists_congr fun group => exists_congr fun head =>
    and_congr_right fun _ => and_congr_right fun _ => ?_
  rw [pair_sublist_iff, pair_sublist_iff]
  constructor
  · rintro ⟨i, j, different, first, second⟩
    rcases Nat.lt_or_gt_of_ne different with before | after
    · exact Or.inl ⟨i, j, before, first, second⟩
    · exact Or.inr ⟨j, i, after, second, first⟩
  · rintro (⟨i, j, before, first, second⟩ | ⟨i, j, before, second, first⟩)
    · exact ⟨i, j, Nat.ne_of_lt before, first, second⟩
    · exact ⟨j, i, Nat.ne_of_gt before, first, second⟩

theorem declaresDisjoint_iff :
    view.DeclaresDisjoint a b ↔
      (a, b) ∈ view.disjointnessAssertions ∨ (b, a) ∈ view.disjointnessAssertions := by
  rw [DeclaresDisjoint, listsDisjoint_iff, mem_disjointnessAssertions,
    mem_disjointnessAssertions]
  constructor
  · rintro (one | other | ⟨group, head, typed, members, forward | backward⟩)
    · exact Or.inl (Or.inl one)
    · exact Or.inr (Or.inl other)
    · exact Or.inl (Or.inr ⟨group, head, typed, members, forward⟩)
    · exact Or.inr (Or.inr ⟨group, head, typed, members, backward⟩)
  · rintro ((one | ⟨group, head, typed, members, forward⟩) |
      (other | ⟨group, head, typed, members, backward⟩))
    · exact Or.inl one
    · exact Or.inr (Or.inr ⟨group, head, typed, members, Or.inl forward⟩)
    · exact Or.inr (Or.inl other)
    · exact Or.inr (Or.inr ⟨group, head, typed, members, Or.inr backward⟩)

theorem declaresDisjoint_comm : view.DeclaresDisjoint a b ↔ view.DeclaresDisjoint b a := by
  rw [declaresDisjoint_iff, declaresDisjoint_iff]
  exact or_comm

theorem mem_declaredDisjoint {pair : DisjointPair} :
    pair ∈ view.declaredDisjoint ↔ view.DeclaresDisjoint pair.first pair.second := by
  rw [declaredDisjoint, SortedSet.mem_ofList, List.mem_filterMap, declaresDisjoint_iff]
  simp only [DisjointPair.of?_eq_some]
  constructor
  · rintro ⟨⟨a, b⟩, asserted, ⟨rfl, rfl⟩ | ⟨rfl, rfl⟩⟩
    · exact Or.inl asserted
    · exact Or.inr asserted
  · rintro (asserted | asserted)
    · exact ⟨_, asserted, Or.inl ⟨rfl, rfl⟩⟩
    · exact ⟨_, asserted, Or.inr ⟨rfl, rfl⟩⟩

end View

theorem Schema.areDisjoint_ofView (pair : DisjointPair) :
    (Schema.ofView view).areDisjoint pair.first pair.second = true ↔
      view.DeclaresDisjoint pair.first pair.second := by
  have made : DisjointPair.of? pair.first pair.second = some pair :=
    DisjointPair.of?_eq_some.2 (Or.inl ⟨rfl, rfl⟩)
  rw [Schema.areDisjoint, made, ← View.mem_declaredDisjoint]
  exact decide_eq_true_iff

end OntologyLint
