import OntologyLint.Proofs.Check.Cardinality
import OntologyLint.Proofs.Check.DatatypeRange
import OntologyLint.Proofs.Check.Disjointness
import OntologyLint.Proofs.Check.DomainRange
import OntologyLint.Proofs.Schema.Relabeling

set_option autoImplicit false

/-! Checks under other labels. The checks look up a declared property by its text alone, so a label
that reads like a predicate of the data is taken for that predicate when targets are chosen. Where no
label reads so, each check finds the same at the relabeled targets. -/

namespace OntologyLint

variable {data schema : Graph} {listing : View} {scene : Scene} {datatypesDisjoint : Bool}
  {triple : Triple} {resource expected : Resource}

namespace Graph

/-- No label in the schema is taken for a predicate: those of functional properties do not read like
predicates of the data, and those of other properties not like the type property. -/
structure LabelsApart (schema data : Graph) : Prop where
  functional : ∀ property, schema.IsTyped property Owl.functionalProperty → ¬property.IsIri →
    ∀ subject, ¬data.Uses subject property.text
  declared : ∀ property, schema.Declares property → ¬property.IsIri → property.text ≠ Rdf.type

theorem labelsApart_of_named (named : ∀ property, schema.Declares property → property.IsIri) :
    schema.LabelsApart data where
  functional := by
    intro property typed blank
    have declared : schema.Declares property :=
      Or.inr (Or.inr ⟨Owl.functionalProperty, by decide, typed⟩)
    exact absurd (named property declared) blank
  declared := fun property declared blank => absurd (named property declared) blank

end Graph

section Apart

variable (apart : schema.LabelsApart data) (shows : scene.Shows data schema listing)

include apart shows

namespace DomainRange

theorem mem_targets_of_apart (declared : schema.Declares triple.predicate)
    (constrained : (∃ type, type ∈ (schema.view.declarationOf triple.predicate).domains) ∨
      ∃ type, type ∈ (schema.view.declarationOf triple.predicate).classRanges) :
    triple ∈ targets scene ↔ triple ∈ data ∧ triple.predicate ≠ .iri Rdf.type := by
  rw [mem_targets shows]
  constructor
  · rintro ⟨inData, property, declares, predicate, applied⟩
    refine ⟨inData, ?_⟩
    rw [predicate]
    by_cases named : property.IsIri
    · rw [named.iri_text]
      exact (applies_iff.1 applied).1
    · intro same
      exact apart.declared property declares named (Resource.iri.inj same)
  · rintro ⟨inData, ordinary⟩
    exact ⟨inData, triple.predicate, declared, (Graph.predicate_isIri inData).iri_text.symm,
      applies_iff.2 ⟨ordinary, constrained⟩⟩

theorem domainMismatch_iff_of_apart :
    .domainMismatch triple expected ∈ Check.domainRange.findings scene ↔
      (triple ∈ data ∧ triple.predicate ≠ .iri Rdf.type) ∧
        ⟨triple.predicate, .iri Rdfs.domain, .resource expected⟩ ∈ schema ∧
        ¬InstanceOf (data.Either schema) triple.subject expected := by
  rw [domainMismatch_mem_findings shows]
  refine and_congr_left ?_
  rintro ⟨domain, _lacks⟩
  exact mem_targets_of_apart apart shows (Graph.declares_of_domain domain)
    (Or.inl ⟨expected, View.mem_domains.2 domain⟩)

theorem rangeMismatch_iff_of_apart :
    .rangeMismatch triple expected ∈ Check.domainRange.findings scene ↔
      (triple ∈ data ∧ triple.predicate ≠ .iri Rdf.type) ∧
        (⟨triple.predicate, .iri Rdfs.range, .resource expected⟩ ∈ schema ∧
          ¬schema.IsTyped triple.predicate Owl.datatypeProperty ∧
          ¬schema.NamesDatatype expected) ∧
        ∃ object, triple.object = .resource object ∧
          ¬InstanceOf (data.Either schema) object expected := by
  rw [rangeMismatch_mem_findings shows, ← View.mem_classRanges]
  refine and_congr_left ?_
  rintro ⟨ranges, _lacks⟩
  exact mem_targets_of_apart apart shows (Graph.declares_of_range (View.mem_classRanges.1 ranges).1)
    (Or.inr ⟨expected, ranges⟩)

end DomainRange

theorem Cardinality.mem_targets_of_apart :
    resource ∈ targets scene ↔
      ((∃ node restriction, listing.Carries node restriction) ∧ data.Uses resource Rdf.type) ∨
        ∃ predicate, schema.IsTyped (.iri predicate) Owl.functionalProperty ∧
          data.Uses resource predicate := by
  rw [mem_targets shows]
  refine or_congr_right ?_
  constructor
  · rintro ⟨property, functional, uses⟩
    by_cases named : property.IsIri
    · obtain ⟨predicate, rfl⟩ := named
      exact ⟨predicate, functional, uses⟩
    · exact absurd uses (apart.functional property functional named resource)
  · rintro ⟨predicate, functional, uses⟩
    exact ⟨.iri predicate, functional, uses⟩

end Apart

namespace Relabeling

variable {relabel : Relabeling} {literal : Literal}

theorem conforms_iff (named : literal.datatype.IsIri) :
    literal.Conforms (relabel expected) ↔ literal.Conforms expected := by
  by_cases iri : expected.IsIri
  · rw [apply_of_isIri iri]
  · -- A datatype without a name has no literals but those that are written with it.
    have none_conforms {datatype : Resource} (blank : ¬datatype.IsIri) :
        ¬literal.Conforms datatype := by
      intro conforms
      cases conforms with
      | anything => exact blank ⟨_, rfl⟩
      | inLanguage tagged => exact blank ⟨_, rfl⟩
      | unnamed _ untagged _ same => exact blank (same ▸ named)
      | text other untagged particular plain conforms => exact blank ⟨other, rfl⟩
    exact iff_of_false (none_conforms (fun named => iri (isIri_apply.1 named)))
      (none_conforms iri)

theorem counts_iff {holds relabeled : Triple → Prop} (relabels : relabel.Relabels holds relabeled)
    {qualifier : Qualifier} {value : Object}
    (named : ∀ literal, value = .literal literal → literal.datatype.IsIri) :
    (relabel.qualifier qualifier).Counts relabeled (relabel.object value) ↔
      qualifier.Counts holds value := by
  cases qualifier with
  | instances type =>
      rw [Relabeling.qualifier, Qualifier.counts_instances_iff, Qualifier.counts_instances_iff,
        apply_eq_iri]
      cases value with
      | literal literal => simp [object]
      | resource value => simp [object, relabels.instanceOf_iff]
  | literals datatype =>
      rw [Relabeling.qualifier, Qualifier.counts_literals_iff, Qualifier.counts_literals_iff]
      simp only [object_eq_literal]
      exact exists_congr (fun literal =>
        and_congr_right (fun written => conforms_iff (named literal written)))

theorem values_relabel (text : String) (qualifier : Option Qualifier) :
    Restriction.values (relabel.graph data) (relabel.graph schema) (relabel resource) (.iri text)
        (qualifier.map relabel.qualifier) =
      Set.image relabel.object (Restriction.values data schema resource (.iri text) qualifier) := by
  have counts {value : Object} (known : ⟨resource, .iri text, value⟩ ∈ data) :
      (∀ given ∈ qualifier.map relabel.qualifier,
        given.Counts ((relabel.graph data).Either (relabel.graph schema)) (relabel.object value)) ↔
      ∀ given ∈ qualifier, given.Counts (data.Either schema) value := by
    cases qualifier with
    | none => simp
    | some given =>
        simp only [Option.map_some, Option.mem_some_iff, forall_eq']
        exact counts_iff (relabel.relabels_either data schema)
          (fun literal => Graph.datatype_isIri known)
  ext object
  constructor
  · rintro ⟨leads, counted⟩
    obtain ⟨value, known, rfl⟩ := (relabel.relabels_graph data).from_iff.1 leads
    exact ⟨value, ⟨known, (counts known).1 counted⟩, rfl⟩
  · rintro ⟨value, ⟨known, counted⟩, rfl⟩
    exact ⟨((relabel.relabels_graph data).object_iff resource value).2 known,
      (counts known).2 counted⟩

theorem setsApart_iff {a b : Resource} :
    (relabel.graph schema).SetsApart (relabel a) (relabel b) ↔ schema.SetsApart a b := by
  simp only [Graph.SetsApart, isIri_apply, isRestriction_iff, namesDatatype_iff]

section Determinate

variable (determinate : schema.Determinate)

include determinate

theorem binds_iff {restriction : Restriction} (named : restriction.property.IsIri) :
    Restriction.Binds (relabel.graph data) (relabel.graph schema) (relabel.graph schema).view
        (relabel resource) (relabel.restriction restriction) ↔
      Restriction.Binds data schema schema.view resource restriction := by
  have relabels := relabel.relabels_either data schema
  obtain ⟨property, bound, qualifier⟩ := restriction
  obtain ⟨text, rfl⟩ := named
  refine or_congr ?_ (and_congr isTyped_iff (and_congr ?_ (and_congr_right fun _ => ?_)))
  · constructor
    · rintro ⟨type, member, carries⟩
      obtain ⟨original, belongs, rfl⟩ := relabels.exists_instanceOf_iff.1 member
      exact ⟨original, belongs, (carries_iff determinate).1 carries⟩
    · rintro ⟨type, belongs, carries⟩
      exact ⟨relabel type, relabels.instanceOf_iff.2 belongs, (carries_iff determinate).2 carries⟩
  · change (∃ value, ⟨relabel resource, relabel (.iri text), value⟩ ∈ relabel.graph data) ↔ _
    rw [apply_iri]
    exact uses_iff
  · exact Option.map_eq_none_iff

theorem keepsApart_iff {a b : Resource} :
    (relabel.graph schema).KeepsApart (relabel.graph schema).view datatypesDisjoint (relabel a)
        (relabel b) ↔
      schema.KeepsApart schema.view datatypesDisjoint a b :=
  or_congr (declaresDisjoint_iff determinate) (and_congr_right fun _ => setsApart_iff)

theorem exists_bound {restriction : Restriction} (named : restriction.property.IsIri)
    (binds : Restriction.Binds (relabel.graph data) (relabel.graph schema)
      (relabel.graph schema).view (relabel resource) restriction) :
    ∃ original, relabel.restriction original = restriction := by
  rcases binds with ⟨type, member, carries⟩ | ⟨_functional, _valued, _bound, unqualified⟩
  · obtain ⟨original, _belongs, rfl⟩ :=
      (relabel.relabels_either data schema).exists_instanceOf_iff.1 member
    exact exists_restriction determinate carries
  · -- The bound of a functional property speaks of an IRI alone, so it is its own image.
    refine ⟨restriction, ?_⟩
    rw [Relabeling.restriction, apply_of_isIri named, unqualified]
    cases restriction
    cases unqualified
    rfl

theorem exists_carries_iff :
    (∃ node restriction, (relabel.graph schema).view.Carries node restriction) ↔
      ∃ node restriction, schema.view.Carries node restriction := by
  constructor
  · rintro ⟨node, restriction, carries⟩
    obtain ⟨source, _target, _placed, rfl, _same⟩ :=
      (relabel.relabels_graph schema).fact_iff.1 carries.1
    obtain ⟨original, rfl⟩ := exists_restriction determinate carries
    exact ⟨source, original, (carries_iff determinate).1 carries⟩
  · rintro ⟨node, restriction, carries⟩
    exact ⟨relabel node, relabel.restriction restriction, (carries_iff determinate).2 carries⟩

end Determinate

/-- Where IRIs name all declared properties, all labels do. -/
theorem labelsApart_graph (named : ∀ property, schema.Declares property → property.IsIri) :
    (relabel.graph schema).LabelsApart (relabel.graph data) := by
  apply Graph.labelsApart_of_named
  intro property declares
  obtain ⟨original, known, rfl⟩ := exists_declares declares
  exact isIri_apply.2 (named original known)

theorem datatypeMismatch_iff :
    .datatypeMismatch (relabel.triple triple) (relabel expected) ∈ Check.datatype.findings
        (Scene.ofGraphs (relabel.graph data) (relabel.graph schema) datatypesDisjoint) ↔
      .datatypeMismatch triple expected ∈
        Check.datatype.findings (Scene.ofGraphs data schema datatypesDisjoint) := by
  rw [DatatypeRange.datatypeMismatch_mem_findings (Scene.shows_ofGraphs _),
    DatatypeRange.datatypeMismatch_mem_findings (Scene.shows_ofGraphs _),
    View.mem_datatypeRanges, View.mem_datatypeRanges, (relabel.relabels_graph data).triple_iff]
  refine and_congr_right (fun inData => and_congr (and_congr ?_ ?_) ?_)
  · exact (relabel.relabels_graph schema).resource_iff
  · exact or_congr isTyped_iff namesDatatype_iff
  · refine exists_congr (fun literal => ?_)
    change relabel.object triple.object = .literal literal ∧ _ ↔ _
    rw [object_eq_literal]
    exact and_congr_right (fun written =>
      not_congr (conforms_iff (Graph.datatype_isIri inData written)))

/-- What has to hold of two graphs for their labels to carry no meaning. -/
structure Keeps (relabel : Relabeling) (data schema : Graph) : Prop where
  determinate : schema.Determinate
  apart : schema.LabelsApart data
  apartAgain : (relabel.graph schema).LabelsApart (relabel.graph data)

section Findings

variable (keeps : relabel.Keeps data schema)

include keeps

theorem mem_targets_iff :
    relabel resource ∈ Cardinality.targets
        (Scene.ofGraphs (relabel.graph data) (relabel.graph schema) datatypesDisjoint) ↔
      resource ∈ Cardinality.targets (Scene.ofGraphs data schema datatypesDisjoint) := by
  have functional (predicate : String) :
      (relabel.graph schema).IsTyped (.iri predicate) Owl.functionalProperty ↔
        schema.IsTyped (.iri predicate) Owl.functionalProperty := by
    have same := @isTyped_iff relabel schema (.iri predicate) Owl.functionalProperty
    rw [apply_iri] at same
    exact same
  rw [Cardinality.mem_targets_of_apart keeps.apartAgain (Scene.shows_ofGraphs _),
    Cardinality.mem_targets_of_apart keeps.apart (Scene.shows_ofGraphs _),
    exists_carries_iff keeps.determinate, uses_iff]
  simp only [functional, uses_iff]

theorem domainMismatch_iff :
    .domainMismatch (relabel.triple triple) (relabel expected) ∈ Check.domainRange.findings
        (Scene.ofGraphs (relabel.graph data) (relabel.graph schema) datatypesDisjoint) ↔
      .domainMismatch triple expected ∈
        Check.domainRange.findings (Scene.ofGraphs data schema datatypesDisjoint) := by
  rw [DomainRange.domainMismatch_iff_of_apart keeps.apartAgain (Scene.shows_ofGraphs _),
    DomainRange.domainMismatch_iff_of_apart keeps.apart (Scene.shows_ofGraphs _)]
  refine and_congr (and_congr ?_ (not_congr apply_eq_iri)) (and_congr ?_ (not_congr ?_))
  · exact (relabel.relabels_graph data).triple_iff
  · exact (relabel.relabels_graph schema).resource_iff
  · exact (relabel.relabels_either data schema).instanceOf_iff

theorem rangeMismatch_iff :
    .rangeMismatch (relabel.triple triple) (relabel expected) ∈ Check.domainRange.findings
        (Scene.ofGraphs (relabel.graph data) (relabel.graph schema) datatypesDisjoint) ↔
      .rangeMismatch triple expected ∈
        Check.domainRange.findings (Scene.ofGraphs data schema datatypesDisjoint) := by
  rw [DomainRange.rangeMismatch_iff_of_apart keeps.apartAgain (Scene.shows_ofGraphs _),
    DomainRange.rangeMismatch_iff_of_apart keeps.apart (Scene.shows_ofGraphs _)]
  refine and_congr (and_congr ?_ (not_congr apply_eq_iri))
    (and_congr (and_congr ?_ (and_congr (not_congr isTyped_iff) (not_congr namesDatatype_iff))) ?_)
  · exact (relabel.relabels_graph data).triple_iff
  · exact (relabel.relabels_graph schema).resource_iff
  · have relabels := relabel.relabels_either data schema
    constructor
    · rintro ⟨object, leads, lacks⟩
      obtain ⟨original, written, rfl⟩ := object_eq_resource.1 leads
      exact ⟨original, written, fun member => lacks (relabels.instanceOf_iff.2 member)⟩
    · rintro ⟨original, written, lacks⟩
      exact ⟨relabel original, object_eq_resource.2 ⟨original, written, rfl⟩,
        fun member => lacks (relabels.instanceOf_iff.1 member)⟩

theorem disjointMembership_iff {pair : DisjointPair} :
    .disjointMembership (relabel resource) (relabel.pair pair) ∈ Check.disjointness.findings
        (Scene.ofGraphs (relabel.graph data) (relabel.graph schema) datatypesDisjoint) ↔
      .disjointMembership resource pair ∈
        Check.disjointness.findings (Scene.ofGraphs data schema datatypesDisjoint) := by
  have relabels := relabel.relabels_either data schema
  rw [Disjointness.disjointMembership_mem_findings (Scene.shows_ofGraphs _),
    Disjointness.disjointMembership_mem_findings (Scene.shows_ofGraphs _)]
  rcases pair_eq_iff.1 (rfl : relabel.pair pair = _) with ⟨first, second⟩ | ⟨first, second⟩
  · rw [← first, ← second, uses_iff, relabels.instanceOf_iff, relabels.instanceOf_iff,
      keepsApart_iff keeps.determinate]
    rfl
  · -- The relabeled classes stand the other way round, and disjointness has no direction.
    rw [← first, ← second, uses_iff, relabels.instanceOf_iff, relabels.instanceOf_iff,
      keepsApart_iff keeps.determinate, Graph.keepsApart_comm]
    exact and_congr_right (fun _ => and_left_comm)

theorem cardinalityMismatch_iff {property : Resource} {bound : Bound}
    {qualifier : Option Qualifier} {actual : Nat} :
    .cardinalityMismatch (relabel resource) (relabel property) bound
        (qualifier.map relabel.qualifier) actual ∈ Check.cardinality.findings
        (Scene.ofGraphs (relabel.graph data) (relabel.graph schema) datatypesDisjoint) ↔
      .cardinalityMismatch resource property bound qualifier actual ∈
        Check.cardinality.findings (Scene.ofGraphs data schema datatypesDisjoint) := by
  rw [Cardinality.cardinalityMismatch_mem_findings (Scene.shows_ofGraphs _),
    Cardinality.cardinalityMismatch_mem_findings (Scene.shows_ofGraphs _),
    mem_targets_iff keeps, isIri_apply]
  refine and_congr_right (fun _target => and_congr_right (fun named => ?_))
  have binds := @binds_iff data schema resource relabel keeps.determinate
    ⟨property, bound, qualifier⟩ named
  obtain ⟨text, rfl⟩ := named
  rw [apply_iri, values_relabel,
    Set.ncard_image_of_injective _ relabel.object_injective]
  rw [Relabeling.restriction, apply_iri] at binds
  exact and_congr_left (fun _ => binds)

end Findings

end Relabeling

end OntologyLint
