import OntologyLint.Proofs.Datatype.Conformance
import OntologyLint.Proofs.Multiplicity
import OntologyLint.Proofs.Validation.Arrangement

set_option autoImplicit false

/-! Numbers of values are checked exactly: a validation reports a bound on a resource if and only if
the schema places it there and the data gives the resource a number of values that the bound does
not admit. A bound that is placed on a resource in several ways is come to once. -/

namespace OntologyLint

variable {data schema : Graph} {listing : View} {scene : Scene} {resource : Resource}
  {restriction : Restriction}

inductive Qualifier.Counts (holds : Triple → Prop) : Qualifier → Object → Prop
  | thing (resource : Resource) : Counts holds (.instances (.iri Owl.thing)) (.resource resource)
  | member (type resource : Resource) (belongs : InstanceOf holds resource type) :
      Counts holds (.instances type) (.resource resource)
  | literal (datatype : Resource) (literal : Literal) (conforms : literal.Conforms datatype) :
      Counts holds (.literals datatype) (.literal literal)

theorem Qualifier.Counts.mono {holds larger : Triple → Prop} {qualifier : Qualifier} {value : Object}
    (more : ∀ resource type, InstanceOf holds resource type → InstanceOf larger resource type)
    (counted : qualifier.Counts holds value) : qualifier.Counts larger value := by
  cases counted with
  | thing resource => exact .thing resource
  | member type resource belongs => exact .member type resource (more resource type belongs)
  | literal datatype literal conforms => exact .literal datatype literal conforms

theorem Qualifier.Counts.congr {holds larger : Triple → Prop} {qualifier : Qualifier}
    {value : Object}
    (same : ∀ resource type, InstanceOf holds resource type ↔ InstanceOf larger resource type) :
    qualifier.Counts holds value ↔ qualifier.Counts larger value := by
  constructor
  · exact .mono (fun resource type => (same resource type).1)
  · exact .mono (fun resource type => (same resource type).2)

theorem Qualifier.counts_instances_iff {holds : Triple → Prop} {type : Resource} {value : Object} :
    (Qualifier.instances type).Counts holds value ↔
      ∃ resource, value = .resource resource ∧
        (type = .iri Owl.thing ∨ InstanceOf holds resource type) := by
  constructor
  · intro counts
    cases counts with
    | thing resource => exact ⟨resource, rfl, Or.inl rfl⟩
    | member _ resource belongs => exact ⟨resource, rfl, Or.inr belongs⟩
  · rintro ⟨resource, rfl, rfl | belongs⟩
    · exact .thing resource
    · exact .member type resource belongs

theorem Qualifier.counts_literals_iff {holds : Triple → Prop} {datatype : Resource}
    {value : Object} :
    (Qualifier.literals datatype).Counts holds value ↔
      ∃ literal, value = .literal literal ∧ literal.Conforms datatype := by
  constructor
  · intro counts
    cases counts with
    | literal _ literal conforms => exact ⟨literal, rfl, conforms⟩
  · rintro ⟨literal, rfl, conforms⟩
    exact .literal datatype literal conforms

/-- The values of a property that a bound on the resource counts. -/
def Restriction.values (data schema : Graph) (resource property : Resource)
    (qualifier : Option Qualifier) : Set Object :=
  {value | ⟨resource, property, value⟩ ∈ data ∧
    ∀ given ∈ qualifier, given.Counts (data.Either schema) value}

/-- A class of the resource carries the restriction, or it says of a functional property with a
value that there is at most one. Where a node has several qualifiers to carry a bound with, the
listing of the schema tells which one it is. -/
def Restriction.Binds (data schema : Graph) (listing : View) (resource : Resource)
    (restriction : Restriction) : Prop :=
  (∃ type, InstanceOf (data.Either schema) resource type ∧ listing.Carries type restriction) ∨
    (schema.IsTyped restriction.property Owl.functionalProperty ∧
      (∃ value, ⟨resource, restriction.property, value⟩ ∈ data) ∧
      restriction.bound = .max 1 ∧ restriction.qualifier = none)

namespace Cardinality

section Scene

variable (shows : scene.Shows data schema listing)

include shows

theorem counted_iff {qualifier : Qualifier} {value : Object} :
    counted scene qualifier value = true ↔ qualifier.Counts (data.Either schema) value := by
  cases qualifier with
  | instances type =>
      cases value with
      | literal literal =>
          refine iff_of_false Bool.false_ne_true ?_
          intro counts
          cases counts
      | resource resource =>
          have belongs : (scene.types.typesOf resource).contains type = true ↔
              InstanceOf (data.Either schema) resource type :=
            decide_eq_true_iff.trans shows.mem_typesOf
          unfold counted
          rw [Bool.or_eq_true, beq_iff_eq]
          constructor
          · rintro (rfl | contains)
            · exact .thing resource
            · exact .member type resource (belongs.1 contains)
          · intro counts
            cases counts with
            | thing => exact Or.inl rfl
            | member _ _ member => exact Or.inr (belongs.2 member)
  | literals datatype =>
      cases value with
      | resource resource =>
          refine iff_of_false Bool.false_ne_true ?_
          intro counts
          cases counts
      | literal literal =>
          unfold counted
          rw [literalConforms_iff]
          constructor
          · exact .literal datatype literal
          · intro counts
            cases counts with
            | literal _ _ conforms => exact conforms

omit shows in
theorem count_eq_length {qualifier : Option Qualifier} {values : List Object} :
    count scene qualifier values =
      (values.filter (fun value => qualifier.all (fun given => counted scene given value))).length := by
  cases qualifier with
  | none => exact congrArg List.length (List.filter_eq_self.2 (fun _ _ => rfl)).symm
  | some given => exact List.countP_eq_length_filter

/-- No value of one property is listed twice, so the values are counted as a set. -/
theorem count_objectsOf {predicate : String} {qualifier : Option Qualifier} :
    count scene qualifier (scene.data.objectsOf resource predicate) =
      (Restriction.values data schema resource (.iri predicate) qualifier).ncard := by
  rw [count_eq_length, length_filter_eq_ncard shows.nodup_objectsOf]
  congr 1
  ext value
  refine and_congr (View.mem_objectsOf.trans shows.mem_data) ?_
  cases qualifier with
  | none => simp
  | some given => simp [counted_iff shows]

omit shows in
theorem mem_boundsOn {types : SortedSet Resource} :
    restriction ∈ boundsOn scene types resource ↔
      (∃ type ∈ types, restriction ∈ scene.schema.restrictionsFor type) ∨
        ∃ property ∈ scene.schema.functional,
          (scene.data.objectsOf resource property.text).isEmpty = false ∧
            restriction = ⟨property, .max 1, none⟩ := by
  rw [boundsOn, SortedSet.mem_ofList, List.mem_append, List.mem_flatMap, List.mem_map]
  refine or_congr Iff.rfl (exists_congr fun property => ?_)
  rw [List.mem_filter, Bool.not_eq_true', SortedSet.mem_toList, and_assoc]
  exact and_congr_right fun _ => and_congr_right fun _ => eq_comm

theorem mem_boundsOn_iff_binds (named : restriction.property.IsIri) :
    restriction ∈ boundsOn scene (scene.types.typesOf resource) resource ↔
      restriction.Binds data schema listing resource := by
  obtain ⟨property, bound, qualifier⟩ := restriction
  obtain ⟨text, rfl⟩ := named
  rw [mem_boundsOn]
  refine or_congr ?_ ?_
  · exact exists_congr fun type =>
      and_congr shows.mem_typesOf shows.mem_restrictionsFor
  · constructor
    · rintro ⟨property, functional, used, same⟩
      cases same
      exact ⟨shows.mem_functional.1 functional, shows.objectsOf_isEmpty.1 used, rfl, rfl⟩
    · rintro ⟨functional, used, rfl, rfl⟩
      exact ⟨_, shows.mem_functional.2 functional, shows.objectsOf_isEmpty.2 used, rfl⟩

theorem mem_targets :
    resource ∈ targets scene ↔
      ((∃ node restriction, listing.Carries node restriction) ∧ data.Uses resource Rdf.type) ∨
        ∃ property, schema.IsTyped property Owl.functionalProperty ∧
          data.Uses resource property.text := by
  rw [targets, SortedSet.mem_ofList, List.mem_append, List.mem_flatMap]
  refine or_congr ?_ ?_
  · rw [← shows.hasRestrictions_iff, ← shows.mem_typedResources, ← SortedSet.mem_toList]
    cases scene.schema.hasRestrictions with
    | false => simp
    | true => exact (and_iff_right rfl).symm
  · exact exists_congr fun property => and_congr shows.mem_functional shows.mem_subjectsOf

/-- The typed resources are passed over only if the schema restricts nothing, and then what binds a
resource are functional properties that it uses. -/
theorem mem_targets_of_binds
    (named : ∀ property, schema.IsTyped property Owl.functionalProperty → property.IsIri)
    (binds : restriction.Binds data schema listing resource) :
    resource ∈ targets scene ↔
      data.Uses resource Rdf.type ∨ ∃ property value,
        schema.IsTyped property Owl.functionalProperty ∧ ⟨resource, property, value⟩ ∈ data := by
  have used {property : Resource} (functional : schema.IsTyped property Owl.functionalProperty) :
      data.Uses resource property.text ↔ ∃ value, ⟨resource, property, value⟩ ∈ data := by
    rw [Graph.Uses, (named property functional).iri_text]
  rw [mem_targets shows]
  constructor
  · rintro (⟨_restricts, typed⟩ | ⟨property, functional, uses⟩)
    · exact Or.inl typed
    · obtain ⟨value, inData⟩ := (used functional).1 uses
      exact Or.inr ⟨property, value, functional, inData⟩
  · rintro (typed | ⟨property, value, functional, inData⟩)
    · rcases binds with ⟨type, _member, carries⟩ | ⟨functional, valued, _bound, _qualifier⟩
      · exact Or.inl ⟨⟨type, restriction, carries⟩, typed⟩
      · exact Or.inr ⟨_, functional, (used functional).2 valued⟩
    · exact Or.inr ⟨property, functional, (used functional).2 ⟨value, inData⟩⟩

omit shows in
theorem mem_findings {violation : Violation} :
    violation ∈ Check.cardinality.findings scene ↔
      ∃ resource ∈ targets scene, violation ∈ found scene resource :=
  Check.mem_findings_of_targets .cardinality (targets scene).toList .resource rfl

theorem cardinalityMismatch_mem_findings {property : Resource} {bound : Bound}
    {qualifier : Option Qualifier} {actual : Nat} :
    .cardinalityMismatch resource property bound qualifier actual ∈
        Check.cardinality.findings scene ↔
      resource ∈ targets scene ∧ property.IsIri ∧
        Restriction.Binds data schema listing resource ⟨property, bound, qualifier⟩ ∧
        actual = (Restriction.values data schema resource property qualifier).ncard ∧
        bound.admits actual = false := by
  rw [mem_findings]
  constructor
  · rintro ⟨other, target, member⟩
    obtain ⟨restriction, bounds, breaks⟩ := mem_found.1 member
    obtain ⟨number, counted, named, refused, same⟩ := mem_broken.1 breaks
    cases same
    have iri := (Resource.isIri_iff _).2 named
    refine ⟨target, iri, (mem_boundsOn_iff_binds shows iri).1 bounds, ?_, refused⟩
    rw [← iri.iri_text]
    exact counted.trans (count_objectsOf shows)
  · rintro ⟨target, iri, binds, counted, refused⟩
    refine ⟨resource, target, mem_found.2 ⟨_, (mem_boundsOn_iff_binds shows iri).2 binds,
      mem_broken.2 ⟨actual, ?_, (Resource.isIri_iff _).1 iri, refused, rfl⟩⟩⟩
    rw [← iri.iri_text] at counted
    exact counted.trans (count_objectsOf shows).symm

end Scene

theorem nodup_found : (found scene resource).Nodup := by
  rw [found, List.nodup_flatMap]
  constructor
  · intro restriction _bounds
    unfold broken
    dsimp only
    split
    · exact List.nodup_nil
    · exact List.nodup_singleton _
  · refine List.Pairwise.imp ?_ (boundsOn scene _ resource).increasing.nodup
    intro one other different violation oneBreaks otherBreaks
    obtain ⟨_number, _counted, _named, _refused, rfl⟩ := mem_broken.1 oneBreaks
    obtain ⟨_number, _counted, _named, _refused, same⟩ := mem_broken.1 otherBreaks
    obtain ⟨_resource, properties, bounds, qualifiers, _numbers⟩ :=
      Violation.cardinalityMismatch.inj same
    cases one
    cases other
    cases properties
    cases bounds
    cases qualifiers
    exact different rfl

theorem nodup_reported (scene : Scene) : (Check.cardinality.reported scene).Nodup := by
  refine Check.nodup_reported_of_resources rfl (targets scene).increasing.nodup
    (fun _ => nodup_found) ?_
  intro resource violation member
  obtain ⟨_restriction, _bounds, breaks⟩ := mem_found.1 member
  obtain ⟨_number, _counted, _named, _refused, rfl⟩ := mem_broken.1 breaks
  rfl

end Cardinality

/-- In whatever order a validation comes to the triples, a bound on a resource is reported exactly if
it does not admit the number of values that it counts, and the check comes to it once. -/
theorem cardinality_mismatches_exact (data schema : Graph) (options : Options)
    (enabled : Check.cardinality ∈ options.checks)
    (named : ∀ property, schema.IsTyped property Owl.functionalProperty → property.IsIri) :
    options.validate data schema =
        ((Arrangement.forwards data schema).report options).violations ∧
    ∀ arrangement : Arrangement data schema,
      (∀ (resource property : Resource) (bound : Bound) (qualifier : Option Qualifier)
          (actual : Nat),
        .cardinalityMismatch resource property bound qualifier actual ∈
            (arrangement.report options).violations ↔
          (data.Uses resource Rdf.type ∨ ∃ used value,
              schema.IsTyped used Owl.functionalProperty ∧ ⟨resource, used, value⟩ ∈ data) ∧
            property.IsIri ∧
            Restriction.Binds data schema arrangement.schemaView resource
              ⟨property, bound, qualifier⟩ ∧
            actual = (Restriction.values data schema resource property qualifier).ncard ∧
            bound.admits actual = false) ∧
        (Check.cardinality.reported (arrangement.scene options)).Nodup := by
  refine ⟨(Arrangement.violations_forwards data schema options).symm, ?_⟩
  intro arrangement
  have shows := arrangement.shows options
  constructor
  · intro resource property bound qualifier actual
    rw [arrangement.mem_violations_of_enabled enabled rfl,
      Cardinality.cardinalityMismatch_mem_findings shows]
    constructor
    · rintro ⟨target, iri, binds, counted⟩
      exact ⟨(Cardinality.mem_targets_of_binds shows named binds).1 target, iri, binds, counted⟩
    · rintro ⟨seen, iri, binds, counted⟩
      exact ⟨(Cardinality.mem_targets_of_binds shows named binds).2 seen, iri, binds, counted⟩
  · exact Cardinality.nodup_reported (arrangement.scene options)

/-! A person with two mothers. The schema allows one, by a restriction and by calling the property
functional. -/

namespace Cardinality

def sampleData : List Statement := [
  ⟨.iri "ann", Rdf.type, .resource (.iri "Person")⟩,
  ⟨.iri "ann", "mother", .resource (.iri "eve")⟩,
  ⟨.iri "ann", "mother", .resource (.iri "sue")⟩]

def sampleSchema : List Statement := [
  ⟨.iri "mother", Rdf.type, .resource (.iri Owl.functionalProperty)⟩,
  ⟨.iri "Person", Rdfs.subClassOf, .resource (.blank "one")⟩,
  ⟨.blank "one", Owl.onProperty, .resource (.iri "mother")⟩,
  ⟨.blank "one", Owl.maxCardinality, .plain "1"⟩]

theorem sampleSchema_named (property : Resource)
    (functional : (Graph.ofStatements sampleSchema).IsTyped property Owl.functionalProperty) :
    property.IsIri := by
  have subjects : ∀ triple ∈ sampleSchema.map Statement.triple,
      triple.predicate = .iri Rdf.type → triple.subject.isBlank = false := by decide
  exact (Resource.isIri_iff property).2 (subjects _ (Graph.mem_ofStatements_iff.1 functional) rfl)

theorem person_carries_one (lists : listing.SameTriples (Graph.ofStatements sampleSchema).view) :
    listing.Carries (.blank "one") ⟨.iri "mother", .max 1, none⟩ :=
  ⟨(lists _).2 (Graph.mem_ofStatements_iff.2 (by decide)), ⟨Owl.maxCardinality, .max, false⟩,
    by simp [boundPredicates], .plain "1", 1,
    (lists _).2 (Graph.mem_ofStatements_iff.2 (by decide)), by decide +kernel, rfl, rfl⟩

theorem person_binds (lists : listing.SameTriples (Graph.ofStatements sampleSchema).view) :
    Restriction.Binds (.ofStatements sampleData) (.ofStatements sampleSchema) listing (.iri "ann")
      ⟨.iri "mother", .max 1, none⟩ := by
  refine Or.inl ⟨.blank "one", ⟨.iri "Person", Graph.either_ofStatements.2 (by decide), ?_⟩,
    person_carries_one lists⟩
  exact .single (Or.inl (Graph.either_ofStatements.2 (by decide)))

theorem sample_values :
    Restriction.values (.ofStatements sampleData) (.ofStatements sampleSchema) (.iri "ann")
      (.iri "mother") none = {.resource (.iri "eve"), .resource (.iri "sue")} := by
  have mothers : ∀ triple ∈ sampleData.map Statement.triple, triple.predicate = .iri "mother" →
      triple.object = .resource (.iri "eve") ∨ triple.object = .resource (.iri "sue") := by decide
  ext value
  constructor
  · rintro ⟨inData, _unqualified⟩
    exact mothers _ (Graph.mem_ofStatements_iff.1 inData) rfl
  · rintro (rfl | rfl)
    · exact ⟨Graph.mem_ofStatements_iff.2 (by decide), fun _ given => by cases given⟩
    · exact ⟨Graph.mem_ofStatements_iff.2 (by decide), fun _ given => by cases given⟩

end Cardinality

open Cardinality in
theorem second_mother_refused :
    Check.cardinality ∈ ({} : Options).checks ∧
      (∀ property, (Graph.ofStatements sampleSchema).IsTyped property Owl.functionalProperty →
        property.IsIri) ∧
      .cardinalityMismatch (.iri "ann") (.iri "mother") (.max 1) none 2 ∈
        ({} : Options).validate (.ofStatements sampleData) (.ofStatements sampleSchema) ∧
      .cardinalityMismatch (.iri "ann") (.iri "mother") (.max 1) none 2 ∈
        ((Arrangement.backwards (.ofStatements sampleData) (.ofStatements sampleSchema)).report
          {}).violations := by
  have enabled : Check.cardinality ∈ ({} : Options).checks := Options.mem_checks_default _
  obtain ⟨forwards, exact⟩ := cardinality_mismatches_exact (.ofStatements sampleData)
    (.ofStatements sampleSchema) {} enabled sampleSchema_named
  have two : 2 = (Restriction.values (.ofStatements sampleData) (.ofStatements sampleSchema)
      (.iri "ann") (.iri "mother") none).ncard := by
    rw [sample_values]
    exact (Set.ncard_pair (by decide)).symm
  have reported (arrangement : Arrangement (.ofStatements sampleData) (.ofStatements sampleSchema)) :
      .cardinalityMismatch (.iri "ann") (.iri "mother") (.max 1) none 2 ∈
        (arrangement.report {}).violations :=
    ((exact arrangement).1 _ _ _ _ _).2
      ⟨Or.inl ⟨.resource (.iri "Person"), Graph.mem_ofStatements_iff.2 (by decide)⟩, ⟨_, rfl⟩,
        person_binds (arrangement.shows {}).lists, two, rfl⟩
  refine ⟨enabled, sampleSchema_named, ?_, reported _⟩
  rw [forwards]
  exact reported _

end OntologyLint
