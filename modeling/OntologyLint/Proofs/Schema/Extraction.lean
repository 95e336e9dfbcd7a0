import OntologyLint.Proofs.Graph.Order
import OntologyLint.Proofs.Multiplicity
import OntologyLint.Proofs.Schema.Count
import OntologyLint.Proofs.Schema.Restrictions

set_option autoImplicit false

/-! Restrictions are gathered without loss and without repetition. Each value of a bounding predicate
gives its node one bound for each property that the node is placed on, whatever the other values are;
what gives none is warned of. -/

namespace OntologyLint

/-- Where a bound is written: at a node that is placed on a property, as a value of a predicate. -/
structure BoundSource where
  node : Resource
  property : Resource
  kind : BoundPredicate
  literal : Literal

def SchemaWarning.restriction : SchemaWarning → Resource
  | .unreadableCount restriction _ _ => restriction
  | .missingQualifier restriction _ => restriction

def SchemaWarning.predicate : SchemaWarning → String
  | .unreadableCount _ predicate _ => predicate
  | .missingQualifier _ predicate => predicate

namespace Graph

structure Writes (graph : Graph) (source : BoundSource) : Prop where
  placed : ⟨source.node, .iri Owl.onProperty, .resource source.property⟩ ∈ graph
  known : source.kind ∈ boundPredicates
  written : ⟨source.node, .iri source.kind.predicate, .literal source.literal⟩ ∈ graph

/-- What a bound of the node counts. A qualified one counts by the class that the node names, and by
the datatype if there is no class. -/
def CountedBy (graph : Graph) (node : Resource) (kind : BoundPredicate) : Option Qualifier → Prop
  | none => kind.qualified = false
  | some (.instances type) =>
      kind.qualified = true ∧ ⟨node, .iri Owl.onClass, .resource type⟩ ∈ graph
  | some (.literals datatype) =>
      kind.qualified = true ∧ (¬∃ type, ⟨node, .iri Owl.onClass, .resource type⟩ ∈ graph) ∧
        ⟨node, .iri Owl.onDataRange, .resource datatype⟩ ∈ graph

/-- The source gives its node the restriction. -/
structure Gives (graph : Graph) (source : BoundSource) (restriction : Restriction) : Prop
    extends graph.Writes source where
  property : restriction.property = source.property
  bound : ∃ count, WritesCount source.literal.lexical count ∧
    restriction.bound = source.kind.bound count
  counted : graph.CountedBy source.node source.kind restriction.qualifier

/-- What is warned of: values that are no counts, and counts without the qualifier that they need. -/
inductive Warrants (graph : Graph) : SchemaWarning → Prop
  | unreadableCount (node : Resource) (kind : BoundPredicate) (literal : Literal)
      (known : kind ∈ boundPredicates)
      (written : ⟨node, .iri kind.predicate, .literal literal⟩ ∈ graph)
      (unreadable : ∀ count, ¬WritesCount literal.lexical count) :
      Warrants graph (.unreadableCount node kind.predicate literal)
  | missingQualifier (node : Resource) (kind : BoundPredicate) (literal : Literal) (count : Nat)
      (known : kind ∈ boundPredicates) (qualified : kind.qualified = true)
      (written : ⟨node, .iri kind.predicate, .literal literal⟩ ∈ graph)
      (readable : WritesCount literal.lexical count)
      (classless : ¬∃ type, ⟨node, .iri Owl.onClass, .resource type⟩ ∈ graph)
      (typeless : ¬∃ datatype, ⟨node, .iri Owl.onDataRange, .resource datatype⟩ ∈ graph) :
      Warrants graph (.missingQualifier node kind.predicate)

variable {graph : Graph} {node : Resource} {kind : BoundPredicate} {qualifier : Option Qualifier}

theorem countedBy_iff (classes : graph.LeadsToOne Owl.onClass)
    (datatypes : graph.LeadsToOne Owl.onDataRange) :
    graph.CountedBy node kind qualifier ↔ graph.view.QualifiesBound node kind qualifier := by
  cases qualifier with
  | none => exact Iff.rfl
  | some given =>
      cases given with
      | instances type => exact and_congr_right fun _ => (qualifies_instances_iff classes).symm
      | literals datatype => exact and_congr_right fun _ => (qualifies_literals_iff datatypes).symm

end Graph

theorem boundPredicates_distinct :
    boundPredicates.Pairwise (fun one other => one.predicate ≠ other.predicate) := by
  decide

variable {graph : Graph} {node property : Resource} {kind : BoundPredicate} {source : BoundSource}
  {restriction : Restriction} {warning : SchemaWarning}

namespace View

theorem nodup_literalsOf {predicate : String} : (graph.view.literalsOf node predicate).Nodup := by
  refine increasing_objectsOf.nodup.filterMap ?_
  intro one other literal first second
  rw [Object.literal?_eq_some.1 first, Object.literal?_eq_some.1 second]

theorem nodup_restrictedProperties : graph.view.restrictedProperties.Nodup := by
  refine List.pairwise_filterMap.2 (List.Pairwise.imp_of_mem ?_
    (graph.triples.increasing.nodup.filter _))
  intro one other first second different edge found again placed same
  obtain ⟨property, named, made⟩ := Option.map_eq_some_iff.1 found
  obtain ⟨another, renamed, remade⟩ := Option.map_eq_some_iff.1 placed
  rw [← made, ← remade] at same
  obtain ⟨subjects, properties⟩ := Prod.mk.inj same
  have predicates := (mem_withPredicate.1 first).2.trans (mem_withPredicate.1 second).2.symm
  have objects : one.object = other.object := by
    rw [Object.resource?_eq_some.1 named, Object.resource?_eq_some.1 renamed, properties]
  cases one
  cases other
  cases subjects
  cases predicates
  cases objects
  exact different rfl

/-- The sources of a view, in the order in which the bounds are gathered. -/
def boundSources (view : View) : List BoundSource :=
  view.restrictedProperties.flatMap (fun (node, property) =>
    boundPredicates.flatMap (fun kind =>
      (view.literalsOf node kind.predicate).map (fun literal => ⟨node, property, kind, literal⟩)))

def boundAt? (view : View) (source : BoundSource) : Option Restriction :=
  (Count.read? source.literal.lexical).bind
    (view.boundOf? source.node source.property source.kind)

theorem mem_boundSources : source ∈ graph.view.boundSources ↔ graph.Writes source := by
  simp only [boundSources, List.mem_flatMap, List.mem_map, mem_literalsOf]
  constructor
  · intro found
    obtain ⟨⟨node, property⟩, placed, kind, known, literal, written, same⟩ := found
    subst same
    exact ⟨mem_restrictedProperties.1 placed, known, written⟩
  · intro writes
    exact ⟨_, mem_restrictedProperties.2 writes.placed, _, writes.known, _, writes.written, rfl⟩

theorem nodup_boundSources : graph.view.boundSources.Nodup := by
  -- Every source tells its edge, and then which predicate of the node its value belongs to.
  apply nodup_flatMap_of_place id (fun source => (source.node, source.property))
    nodup_restrictedProperties
  · intro place _restricted
    apply nodup_flatMap_of_place BoundPredicate.predicate (fun source => source.kind.predicate)
      boundPredicates_distinct
    · intro kind _known
      apply nodup_literalsOf.map
      intro one other same
      cases same
      rfl
    · intro kind source member
      obtain ⟨literal, _written, same⟩ := List.mem_map.1 member
      rw [← same]
  · intro place source member
    obtain ⟨kind, _known, member⟩ := List.mem_flatMap.1 member
    obtain ⟨literal, _written, same⟩ := List.mem_map.1 member
    rw [← same]
    rfl

theorem boundsBy_literals (view : View) (node property : Resource) (kind : BoundPredicate) :
    view.boundsBy node property kind = (view.literalsOf node kind.predicate).filterMap
      (fun literal => view.boundAt? ⟨node, property, kind, literal⟩) := by
  rw [boundsBy_eq_filterMap, countsOf, List.filterMap_filterMap]
  rfl

theorem boundAt?_eq_some :
    graph.view.boundAt? source = some restriction ↔
      restriction.property = source.property ∧
        (∃ count, WritesCount source.literal.lexical count ∧
          restriction.bound = source.kind.bound count) ∧
        graph.view.QualifiesBound source.node source.kind restriction.qualifier := by
  simp only [boundAt?, Option.bind_eq_some_iff, boundOf?_eq_some, Count.read?_iff]
  constructor
  · intro found
    obtain ⟨count, readable, properties, bounds, qualifies⟩ := found
    exact ⟨properties, ⟨count, readable, bounds⟩, qualifies⟩
  · intro found
    obtain ⟨properties, ⟨count, readable, bounds⟩, qualifies⟩ := found
    exact ⟨count, readable, properties, bounds, qualifies⟩

end View

namespace Schema

theorem restrictionsFor_eq (view : View) (node : Resource) :
    (ofView view).restrictionsFor node = view.boundSources.filterMap
      (fun source => if source.node = node then view.boundAt? source else none) := by
  simp only [restrictionsFor, ofView, View.declaredRestrictions, View.boundSources,
    View.boundsBy_literals, List.filterMap_flatMap, List.filterMap_map, List.map_filterMap,
    List.filterMap_filterMap]
  congr 1
  funext place
  congr 1
  funext kind
  congr 1
  funext literal
  by_cases here : place.1 = node
  · simp [here, Option.bind_map]
  · simp [here, Option.bind_map]

theorem count_restrictionsFor (classes : graph.LeadsToOne Owl.onClass)
    (datatypes : graph.LeadsToOne Owl.onDataRange) :
    ((ofView graph.view).restrictionsFor node).count restriction =
      {source | source.node = node ∧ graph.Gives source restriction}.ncard := by
  rw [restrictionsFor_eq, count_filterMap_eq_ncard View.nodup_boundSources]
  congr 1
  ext source
  simp only [Set.mem_ofPred_eq, View.mem_boundSources, Option.ite_none_right_eq_some,
    View.boundAt?_eq_some, ← Graph.countedBy_iff classes datatypes]
  constructor
  · intro found
    obtain ⟨writes, here, property, bound, counted⟩ := found
    exact ⟨here, writes, property, bound, counted⟩
  · intro found
    obtain ⟨here, gives⟩ := found
    exact ⟨gives.toWrites, here, gives.property, gives.bound, gives.counted⟩

end Schema

namespace View

theorem qualifierOf?_eq_none :
    graph.view.qualifierOf? node = none ↔
      (¬∃ type, ⟨node, .iri Owl.onClass, .resource type⟩ ∈ graph) ∧
        ¬∃ datatype, ⟨node, .iri Owl.onDataRange, .resource datatype⟩ ∈ graph := by
  have listed (predicate : String) : graph.view.resourcesOf node predicate = [] ↔
      ¬∃ resource, ⟨node, .iri predicate, .resource resource⟩ ∈ graph := by
    rw [List.eq_nil_iff_forall_not_mem, not_exists]
    exact forall_congr' fun _ => not_congr mem_resourcesOf
  rw [← listed, ← listed]
  unfold qualifierOf?
  cases graph.view.resourcesOf node Owl.onClass with
  | nil => simp
  | cons type others => simp

theorem mem_unreadableCounts {predicate : String} {literal : Literal} :
    literal ∈ graph.view.unreadableCounts node predicate ↔
      ⟨node, .iri predicate, .literal literal⟩ ∈ graph ∧
        ∀ count, ¬WritesCount literal.lexical count := by
  rw [unreadableCounts, List.mem_filter, mem_literalsOf, Option.isNone_iff_eq_none,
    Count.read?_eq_none, Graph.mem_view]

theorem mem_warningsBy : warning ∈ graph.view.warningsBy node kind ↔
    (∃ literal ∈ graph.view.unreadableCounts node kind.predicate,
        warning = .unreadableCount node kind.predicate literal) ∨
      (kind.qualified = true ∧ graph.view.qualifierOf? node = none ∧
        (∃ count, count ∈ graph.view.countsOf node kind.predicate) ∧
        warning = .missingQualifier node kind.predicate) := by
  rw [warningsBy, List.mem_append, List.mem_map]
  refine or_congr (exists_congr fun literal => and_congr_right fun _ => eq_comm) ?_
  rw [List.mem_ite_nil_right, List.mem_singleton, Bool.and_eq_true, Bool.and_eq_true,
    Option.isNone_iff_eq_none, Bool.not_eq_true', List.isEmpty_eq_false_iff_exists_mem, and_assoc,
    and_assoc]

theorem place_of_mem_warningsBy (member : warning ∈ graph.view.warningsBy node kind) :
    warning.restriction = node ∧ warning.predicate = kind.predicate := by
  cases mem_warningsBy.1 member with
  | inl unread =>
      obtain ⟨literal, _unreadable, same⟩ := unread
      rw [same]
      exact ⟨rfl, rfl⟩
  | inr missing =>
      obtain ⟨_qualified, _none, _counts, same⟩ := missing
      rw [same]
      exact ⟨rfl, rfl⟩

theorem nodup_warningsBy : (graph.view.warningsBy node kind).Nodup := by
  have unreadable : ((graph.view.unreadableCounts node kind.predicate).map
      (SchemaWarning.unreadableCount node kind.predicate)).Nodup := by
    apply (nodup_literalsOf.filter _).map
    intro one other same
    cases same
    rfl
  unfold warningsBy
  split
  · refine unreadable.append (List.nodup_singleton _) ?_
    intro warning first second
    obtain ⟨literal, _unreadable, same⟩ := List.mem_map.1 first
    rw [List.mem_singleton, ← same] at second
    cases second
  · rw [List.append_nil]
    exact unreadable

/-- What is warned of at one node, whichever of its properties it is come to by. -/
def warningsAt (view : View) (node : Resource) : List SchemaWarning :=
  boundPredicates.flatMap (view.warningsBy node)

theorem mem_warningsAt : warning ∈ graph.view.warningsAt node ↔
    warning.restriction = node ∧ graph.Warrants warning := by
  rw [warningsAt, List.mem_flatMap]
  constructor
  · intro found
    obtain ⟨kind, known, member⟩ := found
    refine ⟨(place_of_mem_warningsBy member).1, ?_⟩
    cases mem_warningsBy.1 member with
    | inl unread =>
        obtain ⟨literal, listed, same⟩ := unread
        obtain ⟨written, unreadable⟩ := mem_unreadableCounts.1 listed
        rw [same]
        exact .unreadableCount node kind literal known written unreadable
    | inr missing =>
        obtain ⟨qualified, none, ⟨count, counts⟩, same⟩ := missing
        obtain ⟨literal, written, reads⟩ := mem_countsOf.1 counts
        obtain ⟨classless, typeless⟩ := qualifierOf?_eq_none.1 none
        rw [same]
        exact .missingQualifier node kind literal count known qualified written
          (Count.read?_iff.1 reads) classless typeless
  · intro warranted
    obtain ⟨here, warrants⟩ := warranted
    cases warrants with
    | unreadableCount place kind literal known written unreadable =>
        cases here
        exact ⟨kind, known, mem_warningsBy.2
          (Or.inl ⟨literal, mem_unreadableCounts.2 ⟨written, unreadable⟩, rfl⟩)⟩
    | missingQualifier place kind literal count known qualified written readable classless typeless =>
        cases here
        exact ⟨kind, known, mem_warningsBy.2 (Or.inr ⟨qualified,
          qualifierOf?_eq_none.2 ⟨classless, typeless⟩,
          ⟨count, mem_countsOf.2 ⟨literal, written, Count.read?_iff.2 readable⟩⟩, rfl⟩)⟩

theorem nodup_warningsAt : (graph.view.warningsAt node).Nodup := by
  apply nodup_flatMap_of_place BoundPredicate.predicate SchemaWarning.predicate
    boundPredicates_distinct
  · intro kind _known
    exact nodup_warningsBy
  · intro kind warning member
    exact (place_of_mem_warningsBy member).2

end View

theorem Schema.count_warnings : (Schema.ofView graph.view).warnings.count warning =
    {property | ⟨warning.restriction, .iri Owl.onProperty, .resource property⟩ ∈ graph ∧
      graph.Warrants warning}.ncard := by
  change (graph.view.restrictedProperties.flatMap (fun place => graph.view.warningsAt place.1)).count
    warning = _
  rw [count_flatMap_eq_ncard View.nodup_restrictedProperties (fun _ _ => View.nodup_warningsAt)]
  -- The node is told by the warning, so a place is counted by its property alone.
  have places : {place | place ∈ graph.view.restrictedProperties ∧
      warning ∈ graph.view.warningsAt place.1} =
        (fun property => (warning.restriction, property)) ''
          {property | ⟨warning.restriction, .iri Owl.onProperty, .resource property⟩ ∈ graph ∧
            graph.Warrants warning} := by
    ext place
    obtain ⟨node, property⟩ := place
    simp only [Set.mem_ofPred_eq, Set.mem_image, View.mem_restrictedProperties,
      View.mem_warningsAt, Prod.mk.injEq]
    constructor
    · intro found
      obtain ⟨placed, here, warrants⟩ := found
      subst here
      exact ⟨property, ⟨placed, warrants⟩, rfl, rfl⟩
    · intro found
      obtain ⟨other, ⟨placed, warrants⟩, here, same⟩ := found
      subst here
      subst same
      exact ⟨placed, rfl, warrants⟩
  rw [places, Set.ncard_image_of_injective]
  intro one other same
  exact (Prod.mk.inj same).2

theorem Schema.hasRestrictions_iff_exists_node : (Schema.ofView graph.view).hasRestrictions = true ↔
    ∃ node, (Schema.ofView graph.view).restrictionsFor node ≠ [] := by
  rw [Schema.hasRestrictions_iff]
  refine exists_congr fun node => ?_
  rw [Ne, List.eq_nil_iff_forall_not_mem, not_forall_not]
  exact exists_congr fun _ => Schema.mem_restrictionsFor.symm

/-- A node has as many bounds of one kind as there are values that give it, and whatever gives none is
warned of once for each property of its node. -/
theorem restrictions_extracted_exactly (graph : Graph) (classes : graph.LeadsToOne Owl.onClass)
    (datatypes : graph.LeadsToOne Owl.onDataRange) :
    (∀ node restriction, ((Schema.ofView graph.view).restrictionsFor node).count restriction =
        {source | source.node = node ∧ graph.Gives source restriction}.ncard) ∧
      ((Schema.ofView graph.view).hasRestrictions = true ↔
        ∃ node, (Schema.ofView graph.view).restrictionsFor node ≠ []) ∧
      ∀ warning, (Schema.ofView graph.view).warnings.count warning =
        {property | ⟨warning.restriction, .iri Owl.onProperty, .resource property⟩ ∈ graph ∧
          graph.Warrants warning}.ncard := by
  refine ⟨?_, Schema.hasRestrictions_iff_exists_node, ?_⟩
  · intro node restriction
    exact Schema.count_restrictionsFor classes datatypes
  · intro warning
    exact Schema.count_warnings

/-! A name that is wanted twice, with a word in place of a number beside it. -/

namespace Schema

def mixedCounts : List Statement := [
  ⟨.blank "twice", Owl.onProperty, .resource (.iri "name")⟩,
  ⟨.blank "twice", Owl.cardinality, .plain " +2 "⟩,
  ⟨.blank "twice", Owl.cardinality, .plain "many"⟩]

theorem mixedCounts_warrants : (Graph.ofStatements mixedCounts).Warrants
    (.unreadableCount (.blank "twice") Owl.cardinality (.plain "many")) := by
  apply Graph.Warrants.unreadableCount (.blank "twice") ⟨Owl.cardinality, .exact, false⟩
  · simp [boundPredicates]
  · exact Graph.mem_ofStatements_iff.2 (by decide)
  · exact Count.read?_eq_none.1 (by decide +kernel)

theorem mixedCounts_placed (property : Resource) :
    ⟨.blank "twice", .iri Owl.onProperty, .resource property⟩ ∈ Graph.ofStatements mixedCounts ↔
      property = .iri "name" := by
  rw [Graph.mem_ofStatements_iff]
  simp [mixedCounts, Statement.triple, Term.plain, Term.stored]

end Schema

open Schema in
theorem word_beside_a_count :
    (Graph.ofStatements mixedCounts).LeadsToOne Owl.onClass ∧
      (Graph.ofStatements mixedCounts).LeadsToOne Owl.onDataRange ∧
      (Schema.ofView (Graph.ofStatements mixedCounts).view).warnings.count
        (.unreadableCount (.blank "twice") Owl.cardinality (.plain "many")) = 1 := by
  have determinate : (Graph.ofStatements mixedCounts).Determinate :=
    Graph.determinate_ofStatements (by decide)
  have exact := restrictions_extracted_exactly _ determinate.classQualifier
    determinate.datatypeQualifier
  refine ⟨determinate.classQualifier, determinate.datatypeQualifier, ?_⟩
  rw [exact.2.2, ← Set.ncard_singleton (Resource.iri "name")]
  congr 1
  ext property
  exact (and_iff_left mixedCounts_warrants).trans (mixedCounts_placed property)

end OntologyLint
