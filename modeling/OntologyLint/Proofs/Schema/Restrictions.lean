import OntologyLint.Proofs.Graph.Sameness
import OntologyLint.Schema.Index

set_option autoImplicit false

/-! What a schema gathers about restrictions. A node carries a bound for each property that it is
placed on, each of the bounding predicates and each count that the predicate leads to; where a
predicate needs a qualifier, a class goes before a datatype, and of several the one that is listed
first is taken. -/

namespace OntologyLint

namespace Graph

/-- The node is called a restriction, or is placed on something. -/
def IsRestriction (graph : Graph) (node : Resource) : Prop :=
  graph.IsTyped node Owl.restriction ∨ graph.Uses node Owl.onProperty

end Graph

namespace View

inductive Qualifies (view : View) (node : Resource) : Qualifier → Prop
  | instances (type : Resource) (first : view.LeadsFirst node Owl.onClass type) :
      Qualifies view node (.instances type)
  | literals (datatype : Resource)
      (classless : ∀ type, ⟨node, .iri Owl.onClass, .resource type⟩ ∉ view.triples)
      (first : view.LeadsFirst node Owl.onDataRange datatype) :
      Qualifies view node (.literals datatype)

/-- The qualifier that a bound of the predicate has at the node. -/
def QualifiesBound (view : View) (node : Resource) (kind : BoundPredicate) :
    Option Qualifier → Prop
  | none => kind.qualified = false
  | some qualifier => kind.qualified = true ∧ view.Qualifies node qualifier

/-- The node places the restriction on its instances. -/
def Carries (view : View) (node : Resource) (restriction : Restriction) : Prop :=
  ⟨node, .iri Owl.onProperty, .resource restriction.property⟩ ∈ view.triples ∧
    ∃ kind ∈ boundPredicates, ∃ literal count,
      ⟨node, .iri kind.predicate, .literal literal⟩ ∈ view.triples ∧
        Count.read? literal.lexical = some count ∧ restriction.bound = kind.bound count ∧
        view.QualifiesBound node kind restriction.qualifier

end View

namespace Graph

variable {graph : Graph} {node type datatype : Resource}

theorem qualifies_instances_iff (unique : graph.LeadsToOne Owl.onClass) :
    graph.view.Qualifies node (.instances type) ↔
      ⟨node, .iri Owl.onClass, .resource type⟩ ∈ graph := by
  rw [← leadsFirst_iff unique]
  constructor
  · intro qualifies
    cases qualifies with
    | instances _ first => exact first
  · exact .instances type

theorem qualifies_literals_iff (unique : graph.LeadsToOne Owl.onDataRange) :
    graph.view.Qualifies node (.literals datatype) ↔
      (¬∃ type, ⟨node, .iri Owl.onClass, .resource type⟩ ∈ graph) ∧
        ⟨node, .iri Owl.onDataRange, .resource datatype⟩ ∈ graph := by
  rw [← leadsFirst_iff unique, not_exists]
  constructor
  · intro qualifies
    cases qualifies with
    | literals _ classless first => exact ⟨classless, first⟩
  · rintro ⟨classless, first⟩
    exact .literals datatype classless first

end Graph

variable {view : View} {node property : Resource} {restriction : Restriction}

namespace View

theorem qualifierOf?_eq_some {qualifier : Qualifier} :
    view.qualifierOf? node = some qualifier ↔ view.Qualifies node qualifier := by
  unfold qualifierOf?
  split
  · rename_i type rest listed
    have first : view.LeadsFirst node Owl.onClass type := by
      rw [← head?_resourcesOf, listed, List.head?_cons]
    rw [Option.some.injEq]
    constructor
    · rintro rfl
      exact .instances type first
    · intro qualifies
      cases qualifies with
      | instances other otherFirst =>
          rw [← head?_resourcesOf, listed, List.head?_cons, Option.some.injEq] at otherFirst
          rw [otherFirst]
      | literals datatype classless _first => exact absurd first.mem (classless type)
  · rename_i listed
    rw [Option.map_eq_some_iff]
    simp only [head?_resourcesOf]
    have classless : ∀ type, ⟨node, .iri Owl.onClass, .resource type⟩ ∉ view.triples := by
      intro type declared
      have member := mem_resourcesOf.2 declared
      rw [listed] at member
      cases member
    constructor
    · rintro ⟨datatype, first, rfl⟩
      exact .literals datatype classless first
    · intro qualifies
      cases qualifies with
      | instances type first => exact absurd first.mem (classless type)
      | literals datatype _classless first => exact ⟨datatype, first, rfl⟩

theorem mem_literalsOf {predicate : String} {literal : Literal} :
    literal ∈ view.literalsOf node predicate ↔
      ⟨node, .iri predicate, .literal literal⟩ ∈ view.triples := by
  simp only [literalsOf, List.mem_filterMap, Object.literal?_eq_some, exists_eq_right]
  exact mem_objectsOf

theorem mem_countsOf {predicate : String} {count : Nat} :
    count ∈ view.countsOf node predicate ↔
      ∃ literal, ⟨node, .iri predicate, .literal literal⟩ ∈ view.triples ∧
        Count.read? literal.lexical = some count := by
  simp only [countsOf, List.mem_filterMap, mem_literalsOf]

/-- The qualifier that bounds of a kind have at the node; none fits where they need one and the node
has none. -/
def boundQualifier? (view : View) (node : Resource) (kind : BoundPredicate) :
    Option (Option Qualifier) :=
  if kind.qualified then (view.qualifierOf? node).map some else some none

theorem boundQualifier?_eq_some {kind : BoundPredicate} {qualifier : Option Qualifier} :
    view.boundQualifier? node kind = some qualifier ↔
      view.QualifiesBound node kind qualifier := by
  unfold boundQualifier?
  cases qualified : kind.qualified with
  | false =>
      cases qualifier with
      | none => simp [QualifiesBound, qualified]
      | some given => simp [QualifiesBound, qualified]
  | true =>
      cases qualifier with
      | none => simp [QualifiesBound, qualified]
      | some given => simp [QualifiesBound, qualified, qualifierOf?_eq_some]

def boundOf? (view : View) (node property : Resource) (kind : BoundPredicate) (count : Nat) :
    Option Restriction :=
  (view.boundQualifier? node kind).map (fun qualifier => ⟨property, kind.bound count, qualifier⟩)

theorem boundOf?_eq_some {kind : BoundPredicate} {count : Nat} :
    view.boundOf? node property kind count = some restriction ↔
      restriction.property = property ∧ restriction.bound = kind.bound count ∧
        view.QualifiesBound node kind restriction.qualifier := by
  simp only [boundOf?, Option.map_eq_some_iff, boundQualifier?_eq_some]
  constructor
  · intro found
    obtain ⟨qualifier, qualifies, same⟩ := found
    subst same
    exact ⟨rfl, rfl, qualifies⟩
  · intro found
    obtain ⟨properties, bounds, qualifies⟩ := found
    refine ⟨restriction.qualifier, qualifies, ?_⟩
    rw [← properties, ← bounds]

theorem boundsBy_eq_filterMap (view : View) (node property : Resource) (kind : BoundPredicate) :
    view.boundsBy node property kind =
      (view.countsOf node kind.predicate).filterMap (view.boundOf? node property kind) := by
  unfold boundsBy boundOf? boundQualifier?
  cases kind.qualified with
  | false => simp
  | true =>
      cases view.qualifierOf? node with
      | none => simp
      | some qualifier => simp

theorem mem_boundsBy {kind : BoundPredicate} :
    restriction ∈ view.boundsBy node property kind ↔
      restriction.property = property ∧
        (∃ count ∈ view.countsOf node kind.predicate, restriction.bound = kind.bound count) ∧
        view.QualifiesBound node kind restriction.qualifier := by
  simp only [boundsBy_eq_filterMap, List.mem_filterMap, boundOf?_eq_some]
  constructor
  · intro found
    obtain ⟨count, counts, properties, bounds, qualifies⟩ := found
    exact ⟨properties, ⟨count, counts, bounds⟩, qualifies⟩
  · intro found
    obtain ⟨properties, ⟨count, counts, bounds⟩, qualifies⟩ := found
    exact ⟨count, counts, properties, bounds, qualifies⟩

theorem mem_restrictedProperties :
    (node, property) ∈ view.restrictedProperties ↔
      ⟨node, .iri Owl.onProperty, .resource property⟩ ∈ view.triples :=
  mem_edges

theorem mem_declaredRestrictions :
    (node, restriction) ∈ view.declaredRestrictions ↔ view.Carries node restriction := by
  simp only [declaredRestrictions, List.mem_flatMap, List.mem_map, mem_boundsBy, mem_countsOf]
  constructor
  · rintro ⟨⟨place, property⟩, placed, kind, known, other, ⟨rfl, ⟨count, counted, bound⟩, qualifies⟩,
      same⟩
    cases same
    obtain ⟨literal, declared, reads⟩ := counted
    exact ⟨mem_restrictedProperties.1 placed, kind, known, literal, count, declared, reads, bound,
      qualifies⟩
  · rintro ⟨placed, kind, known, literal, count, declared, reads, bound, qualifies⟩
    exact ⟨_, mem_restrictedProperties.2 placed, kind, known, restriction,
      ⟨rfl, ⟨count, ⟨literal, declared, reads⟩, bound⟩, qualifies⟩, rfl⟩

end View

namespace Schema

theorem isRestriction_iff {graph : Graph} (lists : view.SameTriples graph.view) :
    (ofView view).isRestriction node = true ↔ graph.IsRestriction node := by
  refine decide_eq_true_iff.trans (SortedSet.mem_ofList.trans ?_)
  rw [List.mem_append]
  refine or_congr ?_ ?_
  · exact View.mem_subjectsWith.trans (lists _)
  · exact (lists.on Owl.onProperty).mem_subjectsOf.trans View.mem_subjectsOf

theorem mem_restrictionsFor :
    restriction ∈ (ofView view).restrictionsFor node ↔ view.Carries node restriction := by
  rw [restrictionsFor, List.mem_filterMap, ← View.mem_declaredRestrictions]
  constructor
  · rintro ⟨⟨place, other⟩, member, same⟩
    have chosen : (if place = node then some other else none) = some restriction := same
    obtain ⟨placed, kept⟩ := Option.ite_none_right_eq_some.1 chosen
    rw [← placed, ← Option.some.inj kept]
    exact member
  · intro member
    exact ⟨_, member, if_pos rfl⟩

theorem hasRestrictions_iff :
    (ofView view).hasRestrictions = true ↔
      ∃ node restriction, view.Carries node restriction := by
  rw [hasRestrictions, Bool.not_eq_true', List.isEmpty_eq_false_iff_exists_mem]
  constructor
  · rintro ⟨⟨node, restriction⟩, member⟩
    exact ⟨node, restriction, View.mem_declaredRestrictions.1 member⟩
  · rintro ⟨node, restriction, carries⟩
    exact ⟨_, View.mem_declaredRestrictions.2 carries⟩

end Schema

end OntologyLint
