import OntologyLint.Proofs.Check.Cardinality
import OntologyLint.Proofs.Check.DatatypeRange
import OntologyLint.Proofs.Check.Disjointness
import OntologyLint.Proofs.Check.DomainRange
import OntologyLint.Proofs.Graph.Agreement

set_option autoImplicit false

/-! A schema with further constraints refuses all that it refused before. The classes of a resource
and the values that a bound counts stay the same, and everything that a constraint adds to the schema
can only make more triples and resources looked at and hold more against them. -/

namespace OntologyLint

open OntologyLint.Graph (choosingPredicates)

/-- The predicates of triples that constrain the data and give no resource a class. -/
def constraintPredicates : List String := [
  Rdfs.domain, Rdfs.range, Owl.disjointWith,
  Owl.cardinality, Owl.minCardinality, Owl.maxCardinality,
  Owl.qualifiedCardinality, Owl.minQualifiedCardinality, Owl.maxQualifiedCardinality]

/-- The predicates of triples by which a schema builds its hierarchy, its lists and its restrictions. -/
def structuralPredicates : List String :=
  hierarchyPredicates ++ [Rdf.first, Rdf.rest, Owl.onProperty, Owl.onClass, Owl.onDataRange]

theorem not_constraint_of_structural :
    ∀ predicate ∈ structuralPredicates, predicate ∉ constraintPredicates := by decide +kernel

/-- The graph has all triples of another one, and beyond those only constraints. -/
structure Graph.Tightens (tighter graph : Graph) : Prop where
  keeps : ∀ triple ∈ graph, triple ∈ tighter
  agrees : ∀ predicate, predicate ∉ constraintPredicates → graph.AgreesOn tighter predicate

theorem Graph.tightens_insert {graph : Graph} {constraint : Statement}
    (constrains : constraint.predicate ∈ constraintPredicates) :
    (graph.insert constraint).Tightens graph := by
  refine ⟨fun triple member => Graph.mem_insert.2 (Or.inr member), ?_⟩
  intro predicate other
  apply Graph.agreesOn_insert
  rintro rfl
  exact other constrains

namespace Graph.Tightens

variable {data schema tighter : Graph} {further listing : View} {again scene : Scene}
  {triple : Triple} {resource property type : Resource} {a b : Resource}

section Schema

theorem structure_agrees (tightens : tighter.Tightens schema) {predicate : String}
    (structural : predicate ∈ structuralPredicates) : schema.AgreesOn tighter predicate :=
  tightens.agrees predicate (not_constraint_of_structural predicate structural)

theorem types (tightens : tighter.Tightens schema) : schema.AgreesOn tighter Rdf.type :=
  tightens.structure_agrees (by simp [structuralPredicates, hierarchyPredicates])

theorem instanceOf_iff (tightens : tighter.Tightens schema) :
    InstanceOf (data.Either schema) resource type ↔
      InstanceOf (data.Either tighter) resource type :=
  Graph.instanceOf_iff (fun _predicate known =>
    tightens.structure_agrees (List.mem_append_left _ known))

theorem declares (tightens : tighter.Tightens schema) (declared : schema.Declares property) :
    tighter.Declares property := by
  rcases declared with ⟨object, member⟩ | ⟨object, member⟩ | ⟨type, known, typed⟩
  · exact Or.inl ⟨object, tightens.keeps _ member⟩
  · exact Or.inr (Or.inl ⟨object, tightens.keeps _ member⟩)
  · exact Or.inr (Or.inr ⟨type, known, tightens.keeps _ typed⟩)

theorem mem_domains (tightens : tighter.Tightens schema)
    (member : type ∈ (schema.view.declarationOf property).domains) :
    type ∈ (tighter.view.declarationOf property).domains :=
  View.mem_domains.2 (tightens.keeps _ (View.mem_domains.1 member))

theorem mem_classRanges (tightens : tighter.Tightens schema)
    (member : type ∈ (schema.view.declarationOf property).classRanges) :
    type ∈ (tighter.view.declarationOf property).classRanges := by
  obtain ⟨range, resources, names⟩ := View.mem_classRanges.1 member
  -- What makes a range one of classes is said by types, and the tighter graph has no others.
  refine View.mem_classRanges.2 ⟨tightens.keeps _ range, ?_, ?_⟩
  · intro typed
    exact resources ((tightens.types property _).2 typed)
  · intro named
    exact names (tightens.types.namesDatatype_iff.2 named)

theorem mem_datatypeRanges (tightens : tighter.Tightens schema)
    (member : type ∈ (schema.view.declarationOf property).datatypeRanges) :
    type ∈ (tighter.view.declarationOf property).datatypeRanges := by
  obtain ⟨range, literals | names⟩ := View.mem_datatypeRanges.1 member
  · exact View.mem_datatypeRanges.2
      ⟨tightens.keeps _ range, Or.inl (tightens.keeps _ literals)⟩
  · exact View.mem_datatypeRanges.2
      ⟨tightens.keeps _ range, Or.inr (tightens.types.namesDatatype_iff.1 names)⟩

theorem isRestriction_iff (tightens : tighter.Tightens schema) :
    schema.IsRestriction type ↔ tighter.IsRestriction type := by
  have placed : schema.AgreesOn tighter Owl.onProperty :=
    tightens.structure_agrees (by simp [structuralPredicates])
  exact or_congr (tightens.types type _) placed.uses_iff

theorem setsApart_iff (tightens : tighter.Tightens schema) :
    schema.SetsApart a b ↔ tighter.SetsApart a b := by
  simp only [SetsApart, tightens.isRestriction_iff, tightens.types.namesDatatype_iff]

/-- A bound counts the values that it counted before. -/
theorem values_eq (tightens : tighter.Tightens schema) (qualifier : Option Qualifier) :
    Restriction.values data schema resource property qualifier =
      Restriction.values data tighter resource property qualifier := by
  have counts {given : Qualifier} {value : Object} :
      given.Counts (data.Either schema) value ↔ given.Counts (data.Either tighter) value :=
    Qualifier.Counts.congr (fun _ _ => tightens.instanceOf_iff)
  simp only [Restriction.values, counts]

end Schema

/-- A scene of each of the two schemas, where the listings make the same choices. -/
structure Shown (tighter schema data : Graph) (further listing : View) (again scene : Scene) :
    Prop where
  tightens : tighter.Tightens schema
  shows : scene.Shows data schema listing
  showsAgain : again.Shows data tighter further
  chooses : listing.ChoosesAs further
  datatypesDisjoint : scene.datatypesDisjoint = again.datatypesDisjoint

namespace Shown

variable (shown : Shown tighter schema data further listing again scene)

include shown

theorem keeps : ∀ triple ∈ listing.triples, triple ∈ further.triples := by
  intro triple listed
  exact (shown.showsAgain.lists triple).2
    (shown.tightens.keeps triple ((shown.shows.lists triple).1 listed))

theorem declaresDisjoint (declared : listing.DeclaresDisjoint a b) :
    further.DeclaresDisjoint a b := by
  rcases declared with forward | backward | ⟨group, head, typed, members, places⟩
  · exact Or.inl (shown.keeps _ forward)
  · exact Or.inr (Or.inl (shown.keeps _ backward))
  · rw [shown.chooses.members] at places
    exact Or.inr (Or.inr ⟨group, head, shown.keeps _ typed, shown.keeps _ members, places⟩)

theorem keepsApart (apart : schema.KeepsApart listing scene.datatypesDisjoint a b) :
    tighter.KeepsApart further again.datatypesDisjoint a b := by
  rcases apart with declared | ⟨enabled, different⟩
  · exact Or.inl (shown.declaresDisjoint declared)
  · rw [shown.datatypesDisjoint] at enabled
    exact Or.inr ⟨enabled, shown.tightens.setsApart_iff.1 different⟩

theorem carries {restriction : Restriction} (carried : listing.Carries type restriction) :
    further.Carries type restriction := by
  obtain ⟨placed, kind, known, literal, count, declared, reads, bound, qualifies⟩ := carried
  exact ⟨shown.keeps _ placed, kind, known, literal, count, shown.keeps _ declared, reads, bound,
    shown.chooses.qualifiesBound_iff.1 qualifies⟩

theorem binds {restriction : Restriction}
    (bound : restriction.Binds data schema listing resource) :
    restriction.Binds data tighter further resource := by
  rcases bound with ⟨type, member, carried⟩ | ⟨functional, used⟩
  · exact Or.inl ⟨type, shown.tightens.instanceOf_iff.1 member, shown.carries carried⟩
  · exact Or.inr ⟨shown.tightens.keeps _ functional, used⟩

theorem domainRange_target (target : triple ∈ DomainRange.targets scene) :
    triple ∈ DomainRange.targets again := by
  obtain ⟨inData, property, declared, predicate, applied⟩ :=
    (DomainRange.mem_targets shown.shows).1 target
  obtain ⟨ordinary, constrained⟩ := DomainRange.applies_iff.1 applied
  refine (DomainRange.mem_targets shown.showsAgain).2 ⟨inData, property,
    shown.tightens.declares declared, predicate, DomainRange.applies_iff.2 ⟨ordinary, ?_⟩⟩
  rcases constrained with ⟨type, domain⟩ | ⟨type, range⟩
  · exact Or.inl ⟨type, shown.tightens.mem_domains domain⟩
  · exact Or.inr ⟨type, shown.tightens.mem_classRanges range⟩

theorem cardinality_target (target : resource ∈ Cardinality.targets scene) :
    resource ∈ Cardinality.targets again := by
  refine (Cardinality.mem_targets shown.showsAgain).2 ?_
  rcases (Cardinality.mem_targets shown.shows).1 target with
    ⟨⟨node, restriction, carried⟩, typed⟩ | ⟨property, functional, used⟩
  · exact Or.inl ⟨⟨node, restriction, shown.carries carried⟩, typed⟩
  · exact Or.inr ⟨property, shown.tightens.keeps _ functional, used⟩

theorem mem_findings {check : Check} {violation : Violation}
    (found : violation ∈ check.findings scene) : violation ∈ check.findings again := by
  have tightens := shown.tightens
  cases Check.check_of_mem_findings found
  cases violation with
  | domainMismatch triple expected =>
      obtain ⟨target, domain, lacked⟩ :=
        (DomainRange.domainMismatch_mem_findings shown.shows).1 found
      exact (DomainRange.domainMismatch_mem_findings shown.showsAgain).2
        ⟨shown.domainRange_target target, tightens.keeps _ domain,
          fun member => lacked (tightens.instanceOf_iff.2 member)⟩
  | rangeMismatch triple expected =>
      obtain ⟨target, range, object, leads, lacked⟩ :=
        (DomainRange.rangeMismatch_mem_findings shown.shows).1 found
      exact (DomainRange.rangeMismatch_mem_findings shown.showsAgain).2
        ⟨shown.domainRange_target target, tightens.mem_classRanges range, object, leads,
          fun member => lacked (tightens.instanceOf_iff.2 member)⟩
  | disjointMembership resource pair =>
      obtain ⟨typed, first, second, apart⟩ :=
        (Disjointness.disjointMembership_mem_findings shown.shows).1 found
      exact (Disjointness.disjointMembership_mem_findings shown.showsAgain).2 ⟨typed,
        tightens.instanceOf_iff.1 first, tightens.instanceOf_iff.1 second, shown.keepsApart apart⟩
  | datatypeMismatch triple expected =>
      obtain ⟨inData, range, fails⟩ :=
        (DatatypeRange.datatypeMismatch_mem_findings shown.shows).1 found
      exact (DatatypeRange.datatypeMismatch_mem_findings shown.showsAgain).2
        ⟨inData, tightens.mem_datatypeRanges range, fails⟩
  | cardinalityMismatch resource property bound qualifier actual =>
      obtain ⟨target, named, bounds, counted, refused⟩ :=
        (Cardinality.cardinalityMismatch_mem_findings shown.shows).1 found
      rw [tightens.values_eq qualifier] at counted
      exact (Cardinality.cardinalityMismatch_mem_findings shown.showsAgain).2
        ⟨shown.cardinality_target target, named, shown.binds bounds, counted, refused⟩

end Shown

end Graph.Tightens

theorem not_choosing_of_constraint :
    ∀ predicate ∈ constraintPredicates, predicate ∉ choosingPredicates := by decide +kernel

/-- A validation that comes to the schema with a further constraint as it came to the schema before
keeps all violations; where there is nothing to choose, it keeps them in any order. -/
theorem Arrangement.mem_violations_insert {data schema : Graph} {options : Options}
    {constraint : Statement} (constrains : constraint.predicate ∈ constraintPredicates)
    (before : Arrangement data schema) (after : Arrangement data (schema.insert constraint))
    (alike : before.schemaView.AgreesBut constraint.triple after.schemaView ∨ schema.Determinate)
    {violation : Violation} (reported : violation ∈ (before.report options).violations) :
    violation ∈ (after.report options).violations := by
  have shown : Graph.Tightens.Shown (schema.insert constraint) schema data after.schemaView
      before.schemaView (after.scene options) (before.scene options) :=
    { tightens := Graph.tightens_insert constrains
      shows := before.shows options
      showsAgain := after.shows options
      chooses := View.choosesAs_insert before.schemaListed after.schemaListed
        (not_choosing_of_constraint _ constrains) alike
      datatypesDisjoint := rfl }
  obtain ⟨made, found⟩ := before.mem_violations.1 reported
  exact after.mem_violations.2 ⟨made, shown.mem_findings found⟩

/-- A constraint that is added to a schema removes no violation, whatever its subject and its object
are. So it is for any two orders in which a validation may come to the schema without the constraint
and with it, provided that they are the same but for the constraint, or that the schema leaves no
choice of members, successors or qualifiers. -/
theorem added_constraint_keeps_violations (data schema : Graph) (options : Options)
    (constraint : Statement) (constrains : constraint.predicate ∈ constraintPredicates) :
    (∀ violation ∈ options.validate data schema,
      violation ∈ options.validate data (schema.insert constraint)) ∧
    ∀ (before : Arrangement data schema) (after : Arrangement data (schema.insert constraint)),
      before.schemaView.AgreesBut constraint.triple after.schemaView ∨ schema.Determinate →
      ∀ violation ∈ (before.report options).violations,
        violation ∈ (after.report options).violations := by
  constructor
  · intro violation reported
    rw [← Arrangement.violations_forwards] at reported ⊢
    exact Arrangement.mem_violations_insert constrains _ _
      (Or.inl (Graph.agreesBut_insert schema constraint)) reported
  · intro before after alike violation reported
    exact before.mem_violations_insert constrains after alike reported

/-! A dog that is also a cat, before and after the schema is given a bound that is no number. -/

namespace Constraints

def sampleData : List Statement := [
  ⟨.iri "rex", Rdf.type, .resource (.iri "Dog")⟩,
  ⟨.iri "rex", Rdf.type, .resource (.iri "Cat")⟩]

def sampleSchema : List Statement := [⟨.iri "Dog", Owl.disjointWith, .resource (.iri "Cat")⟩]

def strayBound : Statement := ⟨.blank "odd", Owl.maxCardinality, .plain "many"⟩

def sampleViolation : Violation :=
  .disjointMembership (.iri "rex") ⟨.iri "Cat", .iri "Dog", by decide +kernel⟩

theorem sample_reported : sampleViolation ∈
    ({} : Options).validate (.ofStatements sampleData) (.ofStatements sampleSchema) := by
  have enabled : Check.disjointness ∈ ({} : Options).checks := Options.mem_checks_default _
  refine Options.mem_validate.2 ⟨.disjointness, enabled,
    (Disjointness.disjointMembership_mem_findings (Scene.shows_ofGraphs _)).2
      ⟨?_, ?_, ?_, Or.inl ?_⟩⟩
  · exact ⟨.resource (.iri "Cat"), Graph.mem_ofStatements_iff.2 (by decide)⟩
  · exact ⟨.iri "Cat", Graph.either_ofStatements.2 (by decide), .refl⟩
  · exact ⟨.iri "Dog", Graph.either_ofStatements.2 (by decide), .refl⟩
  · exact Or.inr (Or.inl (Graph.mem_ofStatements_iff.2 (by decide)))

end Constraints

open Constraints in
theorem stray_bound_keeps_violation :
    strayBound.predicate ∈ constraintPredicates ∧
      sampleViolation ∈
        ({} : Options).validate (.ofStatements sampleData) (.ofStatements sampleSchema) ∧
      sampleViolation ∈ ({} : Options).validate (.ofStatements sampleData)
        ((Graph.ofStatements sampleSchema).insert strayBound) ∧
      (Graph.ofStatements sampleSchema).Determinate ∧
      sampleViolation ∈ ((Arrangement.backwards (.ofStatements sampleData)
        ((Graph.ofStatements sampleSchema).insert strayBound)).report {}).violations := by
  have constrains : strayBound.predicate ∈ constraintPredicates := by decide +kernel
  have determinate : (Graph.ofStatements sampleSchema).Determinate :=
    Graph.determinate_ofStatements (by decide +kernel)
  obtain ⟨kept, keptInAnyOrder⟩ := added_constraint_keeps_violations (.ofStatements sampleData)
    (.ofStatements sampleSchema) {} strayBound constrains
  refine ⟨constrains, sample_reported, kept _ sample_reported, determinate,
    keptInAnyOrder (Arrangement.forwards _ _) _ (Or.inr determinate) _ ?_⟩
  rw [Arrangement.violations_forwards]
  exact sample_reported

end OntologyLint
