import Mathlib.Data.Sym.Sym2
import OntologyLint.Proofs.Graph.Relabeling
import OntologyLint.Proofs.Schema.Disjointness
import OntologyLint.Proofs.Schema.Properties
import OntologyLint.Proofs.Schema.Restrictions

set_option autoImplicit false

/-! What a schema declares under other labels. Whether a resource names a datatype or a restriction,
and which bounds and disjoint classes a determinate graph declares, does not hang on labels; only
the order of two classes in a pair may change. -/

namespace OntologyLint

namespace DisjointPair

def classes (pair : DisjointPair) : Sym2 Resource := s(pair.first, pair.second)

theorem classes_injective : Function.Injective classes := by
  intro one other same
  have made : of? one.first one.second = some other := of?_eq_some.2 (Sym2.eq_iff.1 same)
  have itself : of? one.first one.second = some one := of?_eq_some.2 (Or.inl ⟨rfl, rfl⟩)
  exact Option.some.inj (itself.symm.trans made)

theorem exists_of?_of_ne {a b : Resource} (different : a ≠ b) :
    ∃ pair, of? a b = some pair := by
  cases order : compare a b with
  | lt => exact ⟨_, dif_pos order⟩
  | eq => exact absurd (Std.LawfulEqOrd.eq_of_compare order) different
  | gt =>
      have after : compare b a = .lt := Std.OrientedCmp.gt_iff_lt.1 order
      have before : compare a b ≠ .lt := by
        rw [order]
        decide
      exact ⟨_, (dif_neg before).trans (dif_pos after)⟩

end DisjointPair

namespace Relabeling

variable {relabel : Relabeling}

def qualifier (relabel : Relabeling) : Qualifier → Qualifier
  | .instances type => .instances (relabel type)
  | .literals datatype => .literals (relabel datatype)

def restriction (relabel : Relabeling) (restriction : Restriction) : Restriction :=
  ⟨relabel restriction.property, restriction.bound, restriction.qualifier.map relabel.qualifier⟩

/-- The pair of the relabeled classes, the smaller one first again. -/
def pair (relabel : Relabeling) (pair : DisjointPair) : DisjointPair :=
  if before : compare (relabel pair.first) (relabel pair.second) = .lt then ⟨_, _, before⟩
  else
    ⟨relabel pair.second, relabel pair.first, by
      cases order : compare (relabel pair.first) (relabel pair.second) with
      | lt => exact absurd order before
      | eq =>
          have same := relabel.injective (Std.LawfulEqOrd.eq_of_compare order)
          have increasing := pair.increasing
          rw [same] at increasing
          exact absurd increasing (not_lt_self pair.second)
      | gt => exact Std.OrientedCmp.gt_iff_lt.1 order⟩

theorem classes_pair (pair : DisjointPair) :
    (relabel.pair pair).classes = pair.classes.map relabel := by
  rw [DisjointPair.classes, Relabeling.pair]
  split
  · rfl
  · exact Sym2.eq_swap

theorem pair_eq_iff {pair other : DisjointPair} :
    relabel.pair pair = other ↔
      (relabel pair.first = other.first ∧ relabel pair.second = other.second) ∨
        (relabel pair.first = other.second ∧ relabel pair.second = other.first) := by
  rw [← DisjointPair.classes_injective.eq_iff, classes_pair]
  exact Sym2.eq_iff

theorem pair_injective (relabel : Relabeling) : Function.Injective relabel.pair := by
  intro one other same
  have classes : one.classes.map relabel = other.classes.map relabel := by
    rw [← classes_pair, same, classes_pair]
  exact DisjointPair.classes_injective (Sym2.map.injective relabel.injective classes)

theorem exists_pair {pair : DisjointPair} {a b : Resource} (first : relabel a = pair.first)
    (second : relabel b = pair.second) : ∃ original, relabel.pair original = pair := by
  have different : a ≠ b := by
    rintro rfl
    have increasing := pair.increasing
    rw [← first, ← second] at increasing
    exact not_lt_self _ increasing
  obtain ⟨original, made⟩ := DisjointPair.exists_of?_of_ne different
  refine ⟨original, pair_eq_iff.2 ?_⟩
  rcases DisjointPair.of?_eq_some.1 made with ⟨rfl, rfl⟩ | ⟨rfl, rfl⟩
  · exact Or.inl ⟨first, second⟩
  · exact Or.inr ⟨second, first⟩

theorem qualifier_injective (relabel : Relabeling) : Function.Injective relabel.qualifier := by
  intro one other same
  cases one with
  | instances type =>
      cases other with
      | instances class_ => exact congrArg _ (relabel.injective (Qualifier.instances.inj same))
      | literals datatype => cases same
  | literals datatype =>
      cases other with
      | instances type => cases same
      | literals other => exact congrArg _ (relabel.injective (Qualifier.literals.inj same))

variable {graph : Graph} {node resource a b : Resource}

theorem namesDatatype_iff :
    (relabel.graph graph).NamesDatatype (relabel resource) ↔ graph.NamesDatatype resource := by
  simp only [Graph.NamesDatatype, apply_eq_iri, isTyped_iff]

theorem isRestriction_iff :
    (relabel.graph graph).IsRestriction (relabel resource) ↔ graph.IsRestriction resource :=
  or_congr isTyped_iff uses_iff

theorem exists_declares (declares : (relabel.graph graph).Declares resource) :
    ∃ original, graph.Declares original ∧ relabel original = resource := by
  rcases declares with domain | range | ⟨type, known, typed⟩
  · obtain ⟨original, uses, same⟩ := exists_uses domain
    exact ⟨original, Or.inl uses, same⟩
  · obtain ⟨original, uses, same⟩ := exists_uses range
    exact ⟨original, Or.inr (Or.inl uses), same⟩
  · obtain ⟨original, typed, same⟩ := exists_isTyped typed
    exact ⟨original, Or.inr (Or.inr ⟨type, known, typed⟩), same⟩

section Determinate

variable (determinate : graph.Determinate)

include determinate

theorem qualifies_iff {qualifier : Qualifier} :
    (relabel.graph graph).view.Qualifies (relabel node) (relabel.qualifier qualifier) ↔
      graph.view.Qualifies node qualifier := by
  have relabels := relabel.relabels_graph graph
  have again : (relabel.graph graph).Determinate := determinate_graph determinate
  cases qualifier with
  | instances type =>
      rw [Graph.qualifies_instances_iff determinate.classQualifier, qualifier,
        Graph.qualifies_instances_iff again.classQualifier]
      exact relabels.resource_iff
  | literals datatype =>
      have classes : (∃ type, ⟨relabel node, .iri Owl.onClass, .resource type⟩ ∈
          relabel.graph graph) ↔ ∃ type, ⟨node, .iri Owl.onClass, .resource type⟩ ∈ graph := by
        constructor
        · rintro ⟨type, leads⟩
          obtain ⟨original, known, _same⟩ := relabels.resource_from_iff.1 leads
          exact ⟨original, known⟩
        · rintro ⟨type, known⟩
          exact ⟨relabel type, relabels.resource_iff.2 known⟩
      rw [Graph.qualifies_literals_iff determinate.datatypeQualifier, qualifier,
        Graph.qualifies_literals_iff again.datatypeQualifier, classes]
      exact and_congr_right (fun _ => relabels.resource_iff)

theorem carries_iff {restriction : Restriction} :
    (relabel.graph graph).view.Carries (relabel node) (relabel.restriction restriction) ↔
      graph.view.Carries node restriction := by
  have relabels := relabel.relabels_graph graph
  have qualified (kind : BoundPredicate) : (relabel.graph graph).view.QualifiesBound (relabel node) kind
      (relabel.restriction restriction).qualifier ↔
        graph.view.QualifiesBound node kind restriction.qualifier := by
    rw [Relabeling.restriction]
    cases restriction.qualifier with
    | none => exact Iff.rfl
    | some qualifier => exact and_congr_right (fun _ => qualifies_iff determinate)
  refine and_congr relabels.resource_iff (exists_congr fun kind => and_congr_right fun _known => ?_)
  refine exists_congr fun literal => exists_congr fun count => ?_
  exact and_congr relabels.literal_iff (and_congr_right fun _reads =>
    and_congr_right fun _bound => qualified kind)

theorem exists_restriction {restriction : Restriction}
    (carries : (relabel.graph graph).view.Carries (relabel node) restriction) :
    ∃ original, relabel.restriction original = restriction := by
  have relabels := relabel.relabels_graph graph
  have again : (relabel.graph graph).Determinate := determinate_graph determinate
  obtain ⟨property, bound, qualifier⟩ := restriction
  obtain ⟨placed, kind, _known, _literal, _count, _declared, _reads, _bound, qualifies⟩ := carries
  obtain ⟨named, _onProperty, rfl⟩ := relabels.resource_from_iff.1 placed
  cases qualifier with
  | none => exact ⟨⟨named, bound, none⟩, rfl⟩
  | some qualifier =>
      have counts := qualifies.2
      cases qualifier with
      | instances type =>
          obtain ⟨original, _known, rfl⟩ := relabels.resource_from_iff.1
            ((Graph.qualifies_instances_iff again.classQualifier).1 counts)
          exact ⟨⟨named, bound, some (.instances original)⟩, rfl⟩
      | literals datatype =>
          obtain ⟨original, _known, rfl⟩ := relabels.resource_from_iff.1
            ((Graph.qualifies_literals_iff again.datatypeQualifier).1 counts).2
          exact ⟨⟨named, bound, some (.literals original)⟩, rfl⟩

omit determinate in
theorem getElem?_map_object {objects : List Object} {place : Nat} :
    (objects.map relabel.object)[place]? = some (.resource (relabel a)) ↔
      objects[place]? = some (.resource a) := by
  rw [List.getElem?_map, Option.map_eq_some_iff]
  constructor
  · rintro ⟨object, listed, same⟩
    obtain ⟨original, rfl, equal⟩ := object_eq_resource.1 same
    rw [apply_inj] at equal
    rw [← equal]
    exact listed
  · intro listed
    exact ⟨_, listed, rfl⟩

theorem declaresDisjoint_iff :
    (relabel.graph graph).view.DeclaresDisjoint (relabel a) (relabel b) ↔
      graph.view.DeclaresDisjoint a b := by
  have relabels := relabel.relabels_graph graph
  refine or_congr relabels.resource_iff (or_congr relabels.resource_iff ?_)
  constructor
  · rintro ⟨group, head, typed, members, i, j, different, first, second⟩
    obtain ⟨collection, grouped, rfl⟩ := exists_isTyped typed
    obtain ⟨start, starts, rfl⟩ := relabels.resource_from_iff.1 members
    rw [View.listMembers_relabel determinate, getElem?_map_object] at first second
    exact ⟨collection, start, grouped, starts, i, j, different, first, second⟩
  · rintro ⟨group, head, typed, members, i, j, different, first, second⟩
    refine ⟨relabel group, relabel head, isTyped_iff.2 typed, relabels.resource_iff.2 members,
      i, j, different, ?_, ?_⟩
    · rw [View.listMembers_relabel determinate, getElem?_map_object]
      exact first
    · rw [View.listMembers_relabel determinate, getElem?_map_object]
      exact second

end Determinate

end Relabeling

end OntologyLint
