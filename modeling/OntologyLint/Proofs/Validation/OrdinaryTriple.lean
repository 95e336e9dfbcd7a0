import OntologyLint.Proofs.Check.Cardinality
import OntologyLint.Proofs.Check.DatatypeRange
import OntologyLint.Proofs.Check.Disjointness
import OntologyLint.Proofs.Check.DomainRange
import OntologyLint.Proofs.Graph.Agreement

set_option autoImplicit false

/-! A further triple in the data. Unless it is part of the class hierarchy it changes the classes of
no resource, so it is only looked at itself, by the checks of triples, and it can change numbers of
values only for its own subject. -/

namespace OntologyLint

variable {data schema : Graph} {added : Statement} {datatypesDisjoint : Bool} {triple : Triple}
  {resource : Resource} {violation : Violation}

section Scene

variable (ordinary : added.predicate ∉ hierarchyPredicates)

include ordinary in
theorem Graph.instanceOf_insert_data {type : Resource} :
    InstanceOf ((data.insert added).Either schema) resource type ↔
      InstanceOf (data.Either schema) resource type := by
  apply InstanceOf.congr
  intro predicate known subject object
  exact or_congr_left
    (Graph.agreesOn_insert_of_not_mem data ordinary predicate known subject object).symm

include ordinary in
theorem Graph.typesOf_insert_data :
    ((data.insert added).beside schema).typesOf = (data.beside schema).typesOf := by
  funext resource
  ext type
  rw [Graph.mem_typesOf_beside, Graph.mem_typesOf_beside, Graph.instanceOf_insert_data ordinary]

include ordinary in
theorem DomainRange.found_insert_data (triple : Triple) :
    found (Scene.ofGraphs (data.insert added) schema datatypesDisjoint) triple =
      found (Scene.ofGraphs data schema datatypesDisjoint) triple := by
  have lacked : lacking (Scene.ofGraphs (data.insert added) schema datatypesDisjoint) =
      lacking (Scene.ofGraphs data schema datatypesDisjoint) := by
    funext declared resource
    rw [lacking, lacking]
    simp only [Scene.ofGraphs, Graph.typesOf_insert_data ordinary]
  rw [found, found, lacked]
  rfl

/-- A triple that fails something is looked at, unless its predicate is the type property. -/
theorem DomainRange.mem_targets_of_found (inData : triple ∈ data)
    (untyped : triple.predicate ≠ .iri Rdf.type)
    (member : violation ∈ found (Scene.ofGraphs data schema datatypesDisjoint) triple) :
    triple ∈ targets (Scene.ofGraphs data schema datatypesDisjoint) := by
  have shows := @Scene.shows_ofGraphs data schema datatypesDisjoint
  obtain ⟨declaration, declared, lacked⟩ := mem_found.1 member
  obtain ⟨declares, rfl⟩ := shows.declaration?_eq_some.1 declared
  have constrained :
      (∃ type, type ∈ (schema.view.declarationOf triple.predicate).domains) ∨
        ∃ type, type ∈ (schema.view.declarationOf triple.predicate).classRanges := by
    rcases lacked with ⟨type, missing, _same⟩ | ⟨object, _leads, type, missing, _same⟩
    · exact Or.inl ⟨type, (mem_lacking.1 missing).1⟩
    · exact Or.inr ⟨type, (mem_lacking.1 missing).1⟩
  exact (mem_targets shows).2 ⟨inData, triple.predicate, declares,
    (Graph.predicate_isIri inData).iri_text.symm, applies_iff.2 ⟨untyped, constrained⟩⟩

theorem DatatypeRange.mem_targets_of_found (inData : triple ∈ data)
    (member : violation ∈ examine (Scene.ofGraphs data schema datatypesDisjoint) triple) :
    triple ∈ targets (Scene.ofGraphs data schema datatypesDisjoint) := by
  obtain ⟨literal, declaration, leads, declared, datatype, range, _fails⟩ := mem_examine.1 member
  have shows := @Scene.shows_ofGraphs data schema datatypesDisjoint
  obtain ⟨_declares, rfl⟩ := shows.declaration?_eq_some.1 declared
  exact mem_targets_of_ranged shows inData leads range

theorem Check.mem_findings_of_further {check : Check} {scene further : Scene}
    {targets others : List Triple} (aims : check.targets scene = targets.map .triple)
    (furtherAims : check.targets further = others.map .triple)
    (keeps : ∀ other, other ∈ others ↔ other ∈ targets ∨ other = triple ∧ triple ∈ others)
    (same : ∀ other, check.found further (.triple other) = check.found scene (.triple other))
    (due : violation ∈ check.found further (.triple triple) → triple ∈ others) :
    violation ∈ check.findings further ↔
      violation ∈ check.findings scene ∨ violation ∈ check.found further (.triple triple) := by
  rw [Check.mem_findings_of_targets check targets .triple aims,
    Check.mem_findings_of_targets check others .triple furtherAims]
  constructor
  · rintro ⟨other, target, found⟩
    rcases (keeps other).1 target with old | ⟨rfl, _new⟩
    · rw [same] at found
      exact Or.inl ⟨other, old, found⟩
    · exact Or.inr found
  · rintro (⟨other, old, found⟩ | found)
    · rw [← same] at found
      exact ⟨other, (keeps other).2 (Or.inl old), found⟩
    · exact ⟨triple, due found, found⟩

include ordinary in
theorem DomainRange.mem_findings_insert_data :
    violation ∈ Check.domainRange.findings
        (Scene.ofGraphs (data.insert added) schema datatypesDisjoint) ↔
      violation ∈ Check.domainRange.findings (Scene.ofGraphs data schema datatypesDisjoint) ∨
        violation ∈ Check.domainRange.found
          (Scene.ofGraphs (data.insert added) schema datatypesDisjoint) (.triple added.triple) := by
  have untyped : added.triple.predicate ≠ .iri Rdf.type := by
    intro same
    apply ordinary
    rw [Resource.iri.inj same]
    exact List.mem_cons_self
  refine Check.mem_findings_of_further rfl rfl ?_ (found_insert_data ordinary)
    (mem_targets_of_found (Graph.mem_insert.2 (Or.inl rfl)) untyped)
  intro other
  rw [mem_targets (Scene.shows_ofGraphs _), mem_targets (Scene.shows_ofGraphs _),
    mem_targets (Scene.shows_ofGraphs _)]
  simp only [Graph.mem_insert]
  grind

theorem DatatypeRange.mem_findings_insert_data :
    violation ∈ Check.datatype.findings
        (Scene.ofGraphs (data.insert added) schema datatypesDisjoint) ↔
      violation ∈ Check.datatype.findings (Scene.ofGraphs data schema datatypesDisjoint) ∨
        violation ∈ Check.datatype.found
          (Scene.ofGraphs (data.insert added) schema datatypesDisjoint) (.triple added.triple) := by
  refine Check.mem_findings_of_further rfl rfl ?_ (fun _ => rfl)
    (mem_targets_of_found (Graph.mem_insert.2 (Or.inl rfl)))
  intro other
  rw [mem_targets (Scene.shows_ofGraphs _), mem_targets (Scene.shows_ofGraphs _),
    mem_targets (Scene.shows_ofGraphs _)]
  simp only [Graph.mem_insert]
  grind

include ordinary in
theorem Disjointness.mem_findings_insert_data {pair : DisjointPair} :
    .disjointMembership resource pair ∈ Check.disjointness.findings
        (Scene.ofGraphs (data.insert added) schema datatypesDisjoint) ↔
      .disjointMembership resource pair ∈
        Check.disjointness.findings (Scene.ofGraphs data schema datatypesDisjoint) := by
  have types := Graph.agreesOn_insert_of_not_mem data ordinary Rdf.type List.mem_cons_self
  rw [disjointMembership_mem_findings (Scene.shows_ofGraphs _),
    disjointMembership_mem_findings (Scene.shows_ofGraphs _),
    Graph.instanceOf_insert_data ordinary, Graph.instanceOf_insert_data ordinary, types.uses_iff]
  rfl

section Other

variable (other : resource ≠ added.subject)

include other in
theorem Graph.mem_insert_other {predicate : Resource} {object : Object} :
    ⟨resource, predicate, object⟩ ∈ data.insert added ↔ ⟨resource, predicate, object⟩ ∈ data := by
  rw [Graph.mem_insert]
  refine or_iff_right ?_
  intro same
  exact other (congrArg Triple.subject same)

include other in
theorem Graph.uses_insert_other {predicate : String} :
    (data.insert added).Uses resource predicate ↔ data.Uses resource predicate :=
  exists_congr (fun _ => Graph.mem_insert_other other)

include other ordinary

theorem Restriction.binds_insert_other {restriction : Restriction} :
    restriction.Binds (data.insert added) schema schema.view resource ↔
      restriction.Binds data schema schema.view resource := by
  simp only [Restriction.Binds, Graph.instanceOf_insert_data ordinary,
    Graph.mem_insert_other other]

theorem Restriction.values_insert_other {property : Resource} {qualifier : Option Qualifier} :
    Restriction.values (data.insert added) schema resource property qualifier =
      Restriction.values data schema resource property qualifier := by
  have counts {given : Qualifier} {value : Object} :
      given.Counts ((data.insert added).Either schema) value ↔
        given.Counts (data.Either schema) value :=
    Qualifier.Counts.congr (fun _ _ => Graph.instanceOf_insert_data ordinary)
  simp only [Restriction.values, Graph.mem_insert_other other, counts]

theorem Cardinality.mem_findings_insert_other {property : Resource} {bound : Bound}
    {qualifier : Option Qualifier} {actual : Nat} :
    .cardinalityMismatch resource property bound qualifier actual ∈ Check.cardinality.findings
        (Scene.ofGraphs (data.insert added) schema datatypesDisjoint) ↔
      .cardinalityMismatch resource property bound qualifier actual ∈
        Check.cardinality.findings (Scene.ofGraphs data schema datatypesDisjoint) := by
  have shows := @Scene.shows_ofGraphs data schema datatypesDisjoint
  have showsAgain := @Scene.shows_ofGraphs (data.insert added) schema datatypesDisjoint
  rw [cardinalityMismatch_mem_findings showsAgain, cardinalityMismatch_mem_findings shows,
    mem_targets showsAgain, mem_targets shows,
    Restriction.binds_insert_other ordinary other, Restriction.values_insert_other ordinary other]
  simp only [Graph.uses_insert_other other]

end Other

end Scene

/-- What a check answers at one focus when nothing was asked before. -/
def Check.answersAt (check : Check) (scene : Scene) (focus : Focus) : List Violation :=
  ((check.examine scene focus).run TypeCache.empty).1

theorem Check.answersAt_eq (check : Check) (scene : Scene) (focus : Focus) :
    check.answersAt scene focus = check.found scene focus := by
  obtain ⟨after, _agrees, answered⟩ :=
    @answers_examine scene check focus TypeCache.empty TypeCache.empty_agrees
  exact congrArg Prod.fst answered

/-- A triple that is added to the data without being part of the class hierarchy adds exactly the
mismatches of domains, ranges and datatypes that the checks of triples find at it, adds and removes
no disjoint classes, and leaves the numbers of values of other resources alone. -/
theorem ordinary_triple_is_local (data schema : Graph) (options : Options) (added : Statement)
    (ordinary : added.predicate ∉ hierarchyPredicates) :
    (∀ violation : Violation,
      violation.kind ∈ [.domainMismatch, .rangeMismatch, .datatypeMismatch] →
      (violation ∈ options.validate (data.insert added) schema ↔
        violation ∈ options.validate data schema ∨
          ∃ check ∈ options.checks, check ∈ [.domainRange, .datatype] ∧
            violation ∈ check.answersAt (options.scene (data.insert added) schema)
              (.triple added.triple))) ∧
    (∀ check : Check, check.answersAt (options.scene (data.insert added) schema)
        (.triple added.triple) =
      check.answersAt (options.scene data schema) (.triple added.triple)) ∧
    (∀ resource pair,
      .disjointMembership resource pair ∈ options.validate (data.insert added) schema ↔
        .disjointMembership resource pair ∈ options.validate data schema) ∧
    (∀ resource property bound qualifier actual, resource ≠ added.subject →
      (.cardinalityMismatch resource property bound qualifier actual ∈
          options.validate (data.insert added) schema ↔
        .cardinalityMismatch resource property bound qualifier actual ∈
          options.validate data schema)) := by
  refine ⟨?_, ?_, ?_, ?_⟩
  · intro violation kind
    have further : ∀ check : Check, check ∈ [Check.domainRange, Check.datatype] →
        (violation ∈ check.findings (options.scene (data.insert added) schema) ↔
          violation ∈ check.findings (options.scene data schema) ∨
            violation ∈ check.found (options.scene (data.insert added) schema)
              (.triple added.triple)) := by
      intro check triples
      cases check with
      | domainRange => exact DomainRange.mem_findings_insert_data ordinary
      | datatype => exact DatatypeRange.mem_findings_insert_data
      | disjointness => simp at triples
      | cardinality => simp at triples
    have checked : violation.kind.check ∈ [Check.domainRange, Check.datatype] := by
      cases violation with
      | domainMismatch triple expected => exact List.mem_cons_self
      | rangeMismatch triple expected => exact List.mem_cons_self
      | datatypeMismatch triple expected => exact List.mem_cons_of_mem _ List.mem_cons_self
      | disjointMembership resource pair => simp [Violation.kind] at kind
      | cardinalityMismatch => simp [Violation.kind] at kind
    rw [Options.mem_validate_iff_kind, Options.mem_validate_iff_kind, further _ checked]
    simp only [Check.answersAt_eq]
    constructor
    · rintro ⟨made, old | new⟩
      · exact Or.inl ⟨made, old⟩
      · exact Or.inr ⟨_, made, checked, new⟩
    · rintro (⟨made, old⟩ | ⟨check, made, _triples, new⟩)
      · exact ⟨made, Or.inl old⟩
      · cases Check.check_of_mem_found new
        exact ⟨made, Or.inr new⟩
  · intro check
    rw [Check.answersAt_eq, Check.answersAt_eq]
    cases check with
    | domainRange => exact DomainRange.found_insert_data ordinary added.triple
    | disjointness => rfl
    | datatype => rfl
    | cardinality => rfl
  · intro resource pair
    rw [Options.mem_validate_iff_kind, Options.mem_validate_iff_kind]
    exact and_congr_right (fun _ => Disjointness.mem_findings_insert_data ordinary)
  · intro resource property bound qualifier actual other
    rw [Options.mem_validate_iff_kind, Options.mem_validate_iff_kind]
    exact and_congr_right (fun _ => Cardinality.mem_findings_insert_other ordinary other)

/-! An age that is no number is added to what is known about a person. -/

namespace OrdinaryTriple

def sampleData : List Statement := [
  ⟨.iri "ann", "age", .typed "44" Xsd.integer⟩,
  ⟨.iri "bob", Rdf.type, .resource (.iri "Person")⟩]

def sampleSchema : List Statement := [⟨.iri "age", Rdfs.range, .resource (.iri Xsd.integer)⟩]

def sampleAdded : Statement := ⟨.iri "ann", "age", .plain "old"⟩

def sampleViolation : Violation := .datatypeMismatch sampleAdded.triple (.iri Xsd.integer)

theorem sample_answered : sampleViolation ∈ Check.datatype.answersAt
    (({} : Options).scene ((Graph.ofStatements sampleData).insert sampleAdded)
      (.ofStatements sampleSchema)) (.triple sampleAdded.triple) := by
  have range : ⟨.iri "age", .iri Rdfs.range, .resource (.iri Xsd.integer)⟩ ∈
      Graph.ofStatements sampleSchema := Graph.mem_ofStatements_iff.2 (by decide)
  have names : (Graph.ofStatements sampleSchema).NamesDatatype (.iri Xsd.integer) := by
    rw [Graph.namesDatatype_iff]
    exact Or.inl (by decide)
  rw [Check.answersAt_eq]
  exact DatatypeRange.mem_examine.2 ⟨_, _, rfl,
    Schema.declaration?_eq_some.2 ⟨Graph.declares_of_range range, rfl⟩, _,
    View.mem_datatypeRanges.2 ⟨range, Or.inr names⟩, by decide +kernel, rfl⟩

end OrdinaryTriple

open OrdinaryTriple in
theorem old_age_is_reported :
    sampleAdded.predicate ∉ hierarchyPredicates ∧
      sampleViolation.kind ∈
        [ViolationKind.domainMismatch, .rangeMismatch, .datatypeMismatch] ∧
      sampleViolation ∈ ({} : Options).validate
        ((Graph.ofStatements sampleData).insert sampleAdded) (.ofStatements sampleSchema) ∧
      Resource.iri "bob" ≠ sampleAdded.subject ∧
      (.cardinalityMismatch (.iri "bob") (.iri "age") (.min 1) none 0 ∈ ({} : Options).validate
          ((Graph.ofStatements sampleData).insert sampleAdded) (.ofStatements sampleSchema) ↔
        .cardinalityMismatch (.iri "bob") (.iri "age") (.min 1) none 0 ∈
          ({} : Options).validate (.ofStatements sampleData) (.ofStatements sampleSchema)) := by
  have ordinary : sampleAdded.predicate ∉ hierarchyPredicates := by decide +kernel
  have kind : sampleViolation.kind ∈
      [ViolationKind.domainMismatch, .rangeMismatch, .datatypeMismatch] := by decide
  have enabled : Check.datatype ∈ ({} : Options).checks := Options.mem_checks_default _
  have other : Resource.iri "bob" ≠ sampleAdded.subject := by decide
  have isLocal := ordinary_triple_is_local (.ofStatements sampleData) (.ofStatements sampleSchema)
    {} sampleAdded ordinary
  exact ⟨ordinary, kind,
    (isLocal.1 _ kind).2 (Or.inr ⟨.datatype, enabled, by decide, sample_answered⟩), other,
    isLocal.2.2.2 _ _ _ _ _ other⟩

end OntologyLint
