import Mathlib.Logic.Equiv.Basic
import OntologyLint.Proofs.Check.Relabeling
import OntologyLint.Proofs.Validation.Evaluation

set_option autoImplicit false

/-! Validations under other labels. A set of violations is relabeled violation by violation, with
disjoint classes put in order again, and none of them fall together. Where no label is taken for a
predicate, the violations of relabeled graphs are the relabeled violations. -/

namespace OntologyLint

variable {data schema : Graph} {datatypesDisjoint : Bool}

namespace Relabeling

variable {relabel : Relabeling}

def violation (relabel : Relabeling) : Violation → Violation
  | .domainMismatch triple expected => .domainMismatch (relabel.triple triple) (relabel expected)
  | .rangeMismatch triple expected => .rangeMismatch (relabel.triple triple) (relabel expected)
  | .disjointMembership resource classes =>
      .disjointMembership (relabel resource) (relabel.pair classes)
  | .datatypeMismatch triple expected =>
      .datatypeMismatch (relabel.triple triple) (relabel expected)
  | .cardinalityMismatch resource property bound qualifier actual =>
      .cardinalityMismatch (relabel resource) (relabel property) bound
        (qualifier.map relabel.qualifier) actual

@[simp]
theorem kind_violation (violation : Violation) :
    (relabel.violation violation).kind = violation.kind := by
  cases violation <;> rfl

theorem violation_injective (relabel : Relabeling) : Function.Injective relabel.violation := by
  intro one other same
  have qualifiers := Option.map_injective relabel.qualifier_injective
  have kinds : one.kind = other.kind := by
    rw [← kind_violation one, same, kind_violation]
  cases one <;> cases other <;> cases kinds <;>
    simp_all [violation, relabel.triple_injective.eq_iff, relabel.pair_injective.eq_iff,
      qualifiers.eq_iff]

def violations (relabel : Relabeling) (set : ViolationSet) : ViolationSet :=
  SortedSet.ofList (set.toList.map relabel.violation)

theorem size_violations (set : ViolationSet) : (relabel.violations set).size = set.size := by
  have distinct := set.increasing.nodup.map relabel.violation_injective
  have counted : (relabel.violations set).size = (set.toList.map relabel.violation).length :=
    SortedSet.size_eq_length distinct (fun _ => SortedSet.mem_ofList)
  rw [counted, List.length_map]
  rfl

section Findings

variable (keeps : relabel.Keeps data schema)

include keeps

theorem violation_mem_findings_iff {violation : Violation} :
    relabel.violation violation ∈ violation.kind.check.findings
        (Scene.ofGraphs (relabel.graph data) (relabel.graph schema) datatypesDisjoint) ↔
      violation ∈
        violation.kind.check.findings (Scene.ofGraphs data schema datatypesDisjoint) := by
  cases violation with
  | domainMismatch triple expected => exact domainMismatch_iff keeps
  | rangeMismatch triple expected => exact rangeMismatch_iff keeps
  | disjointMembership resource pair => exact disjointMembership_iff keeps
  | datatypeMismatch triple expected => exact datatypeMismatch_iff
  | cardinalityMismatch resource property bound qualifier actual =>
      exact cardinalityMismatch_iff keeps

/-- All that is found under the new labels speaks of relabeled resources. -/
theorem exists_violation {violation : Violation}
    (found : violation ∈ violation.kind.check.findings
      (Scene.ofGraphs (relabel.graph data) (relabel.graph schema) datatypesDisjoint)) :
    ∃ original, relabel.violation original = violation := by
  have inData := relabel.relabels_graph data
  have inSchema := relabel.relabels_graph schema
  have either := relabel.relabels_either data schema
  have shows :=
    @Scene.shows_ofGraphs (relabel.graph data) (relabel.graph schema) datatypesDisjoint
  cases violation with
  | domainMismatch triple expected =>
      obtain ⟨⟨known, _ordinary⟩, domain, _lacks⟩ :=
        (DomainRange.domainMismatch_iff_of_apart keeps.apartAgain shows).1 found
      obtain ⟨original, _known, rfl⟩ := (inData triple).1 known
      obtain ⟨type, _domain, rfl⟩ := inSchema.resource_from_iff.1 domain
      exact ⟨.domainMismatch original type, rfl⟩
  | rangeMismatch triple expected =>
      obtain ⟨⟨known, _ordinary⟩, ⟨range, _kind⟩, _lacks⟩ :=
        (DomainRange.rangeMismatch_iff_of_apart keeps.apartAgain shows).1 found
      obtain ⟨original, _known, rfl⟩ := (inData triple).1 known
      obtain ⟨type, _range, rfl⟩ := inSchema.resource_from_iff.1 range
      exact ⟨.rangeMismatch original type, rfl⟩
  | disjointMembership resource pair =>
      obtain ⟨typed, first, second, _apart⟩ :=
        (Disjointness.disjointMembership_mem_findings shows).1 found
      obtain ⟨original, _typed, rfl⟩ := exists_uses typed
      obtain ⟨a, _first, one⟩ := either.exists_instanceOf_iff.1 first
      obtain ⟨b, _second, other⟩ := either.exists_instanceOf_iff.1 second
      obtain ⟨classes, rfl⟩ := exists_pair one other
      exact ⟨.disjointMembership original classes, rfl⟩
  | datatypeMismatch triple expected =>
      obtain ⟨known, ranges, _fails⟩ :=
        (DatatypeRange.datatypeMismatch_mem_findings shows).1 found
      obtain ⟨original, _known, rfl⟩ := (inData triple).1 known
      obtain ⟨type, _range, rfl⟩ :=
        inSchema.resource_from_iff.1 (View.mem_datatypeRanges.1 ranges).1
      exact ⟨.datatypeMismatch original type, rfl⟩
  | cardinalityMismatch resource property bound qualifier actual =>
      obtain ⟨target, named, binds, _counted⟩ :=
        (Cardinality.cardinalityMismatch_mem_findings shows).1 found
      have used : ∃ predicate, (relabel.graph data).Uses resource predicate := by
        rcases (Cardinality.mem_targets_of_apart keeps.apartAgain shows).1 target with
          ⟨_restricts, typed⟩ | ⟨predicate, _functional, uses⟩
        · exact ⟨_, typed⟩
        · exact ⟨predicate, uses⟩
      obtain ⟨predicate, uses⟩ := used
      obtain ⟨original, _uses, rfl⟩ := exists_uses uses
      obtain ⟨restriction, same⟩ := exists_bound keeps.determinate named binds
      cases same
      exact ⟨.cardinalityMismatch original restriction.property restriction.bound
        restriction.qualifier actual, rfl⟩

end Findings

end Relabeling

/-- The violations of relabeled graphs are the relabeled violations, each once, as long as no label
reads like a predicate where targets are chosen. -/
theorem labels_carry_no_meaning (data schema : Graph) (options : Options) (relabel : Relabeling)
    (determinate : schema.Determinate) (apart : schema.LabelsApart data)
    (apartAgain : (relabel.graph schema).LabelsApart (relabel.graph data)) :
    options.validate (relabel.graph data) (relabel.graph schema) =
        relabel.violations (options.validate data schema) ∧
      (options.validate (relabel.graph data) (relabel.graph schema)).size =
        (options.validate data schema).size := by
  have keeps : relabel.Keeps data schema := ⟨determinate, apart, apartAgain⟩
  have image : options.validate (relabel.graph data) (relabel.graph schema) =
      relabel.violations (options.validate data schema) := by
    ext violation
    have kept {original : Violation} :
        relabel.violation original ∈ options.validate (relabel.graph data) (relabel.graph schema) ↔
          original ∈ options.validate data schema := by
      rw [Options.mem_validate_iff_kind, Options.mem_validate_iff_kind,
        Relabeling.kind_violation]
      exact and_congr_right (fun _ => Relabeling.violation_mem_findings_iff keeps)
    rw [Relabeling.violations, SortedSet.mem_ofList, List.mem_map]
    constructor
    · intro reported
      obtain ⟨original, rfl⟩ :=
        Relabeling.exists_violation keeps (Options.mem_validate_iff_kind.1 reported).2
      exact ⟨original, kept.1 reported, rfl⟩
    · rintro ⟨original, reported, rfl⟩
      exact kept.2 reported
  refine ⟨image, ?_⟩
  rw [image]
  exact Relabeling.size_violations _

/-! Two labels that change places: those of two disjoint classes, which keep their order in the pair
that is reported, and that of a functional property with one that reads like a predicate. -/

namespace Relabeling

def swap (a b : String) : Relabeling where
  toFun
    | .iri text => .iri text
    | .blank label => .blank (Equiv.swap a b label)
    | .anonymous document node => .anonymous document node
  iri := fun _ => rfl
  isBlank := by
    intro resource
    cases resource <;> rfl
  injective := by
    intro one other same
    cases one with
    | iri text =>
        cases other <;> cases same
        rfl
    | anonymous document node =>
        cases other <;> cases same
        rfl
    | blank label =>
        cases other with
        | iri text => cases same
        | anonymous document node => cases same
        | blank second =>
            exact congrArg Resource.blank ((Equiv.swap a b).injective (Resource.blank.inj same))

def sampleData : List Statement := [
  ⟨.iri "rex", Rdf.type, .resource (.blank "cat")⟩,
  ⟨.iri "rex", Rdf.type, .resource (.blank "dog")⟩]

def sampleSchema : List Statement := [
  ⟨.blank "cat", Owl.disjointWith, .resource (.blank "dog")⟩]

theorem sampleSchema_named (property : Resource)
    (declares : (Graph.ofStatements sampleSchema).Declares property) : property.IsIri := by
  have only : ∀ triple ∈ sampleSchema.map Statement.triple,
      triple.predicate = .iri Owl.disjointWith := by decide
  have used {subject : Resource} {predicate : String} {object : Object}
      (member : ⟨subject, .iri predicate, object⟩ ∈ Graph.ofStatements sampleSchema) :
      predicate = Owl.disjointWith :=
    Resource.iri.inj (only _ (Graph.mem_ofStatements_iff.1 member))
  rcases declares with ⟨object, domain⟩ | ⟨object, range⟩ | ⟨type, _known, typed⟩
  · exact absurd (used domain) (by decide)
  · exact absurd (used range) (by decide)
  · exact absurd (used typed) (by decide)

end Relabeling

open Relabeling in
theorem swapped_classes_stay_disjoint :
    (Graph.ofStatements sampleSchema).Determinate ∧
      (Graph.ofStatements sampleSchema).LabelsApart (.ofStatements sampleData) ∧
      ((swap "cat" "dog").graph (.ofStatements sampleSchema)).LabelsApart
        ((swap "cat" "dog").graph (.ofStatements sampleData)) ∧
      ({} : Options).validate ((swap "cat" "dog").graph (.ofStatements sampleData))
          ((swap "cat" "dog").graph (.ofStatements sampleSchema)) =
        (swap "cat" "dog").violations
          (({} : Options).validate (.ofStatements sampleData) (.ofStatements sampleSchema)) := by
  have determinate : (Graph.ofStatements sampleSchema).Determinate :=
    Graph.determinate_ofStatements (by decide +kernel)
  have apart : (Graph.ofStatements sampleSchema).LabelsApart (.ofStatements sampleData) :=
    Graph.labelsApart_of_named sampleSchema_named
  have apartAgain : ((swap "cat" "dog").graph (.ofStatements sampleSchema)).LabelsApart
      ((swap "cat" "dog").graph (.ofStatements sampleData)) :=
    labelsApart_graph sampleSchema_named
  exact ⟨determinate, apart, apartAgain,
    (labels_carry_no_meaning (.ofStatements sampleData) (.ofStatements sampleSchema) {}
      (swap "cat" "dog") determinate apart apartAgain).1⟩

namespace Relabeling

def misreadData : List Statement := [⟨.iri "ann", "knows", .resource (.iri "bob")⟩]

def misreadSchema : List Statement := [
  ⟨.blank "z", Rdf.type, .resource (.iri Owl.functionalProperty)⟩,
  ⟨.iri "ann", Rdf.type, .resource (.iri "Agent")⟩,
  ⟨.iri "Agent", Owl.onProperty, .resource (.iri "mail")⟩,
  ⟨.iri "Agent", Owl.minCardinality, .plain "1"⟩]

theorem misreadData_predicate {subject : Resource} {predicate : String} {object : Object}
    (member : ⟨subject, .iri predicate, object⟩ ∈ Graph.ofStatements misreadData) :
    predicate = "knows" := by
  have only : ∀ triple ∈ misreadData.map Statement.triple, triple.predicate = .iri "knows" := by
    decide
  exact Resource.iri.inj (only _ (Graph.mem_ofStatements_iff.1 member))

theorem misreadSchema_determinate : (Graph.ofStatements misreadSchema).Determinate :=
  Graph.determinate_ofStatements (by decide +kernel)

/-- Nothing is typed in the data, and no property of the data is functional. -/
theorem misread_targets (resource : Resource) :
    resource ∉ Cardinality.targets (Scene.ofGraphs (.ofStatements misreadData)
      (.ofStatements misreadSchema) false) := by
  have functional : ∀ triple ∈ misreadSchema.map Statement.triple,
      triple.object = .resource (.iri Owl.functionalProperty) → triple.subject = .blank "z" := by
    decide
  intro target
  rcases (Cardinality.mem_targets (Scene.shows_ofGraphs _)).1 target with
    ⟨_restricts, _value, typed⟩ | ⟨property, typed, uses⟩
  · exact absurd (misreadData_predicate typed) (by decide)
  · have named : property = .blank "z" := functional _ (Graph.mem_ofStatements_iff.1 typed) rfl
    subst named
    obtain ⟨value, used⟩ := uses
    exact absurd (misreadData_predicate used) (by decide)

/-- Under the label `knows` the property makes a target of everyone who knows someone. -/
theorem misread_reported :
    .cardinalityMismatch (.iri "ann") (.iri "mail") (.min 1) none 0 ∈ ({} : Options).validate
      ((swap "z" "knows").graph (.ofStatements misreadData))
      ((swap "z" "knows").graph (.ofStatements misreadSchema)) := by
  have enabled : Check.cardinality ∈ ({} : Options).checks := Options.mem_checks_default _
  have relabeled : swap "z" "knows" (.blank "z") = .blank "knows" :=
    congrArg Resource.blank (Equiv.swap_apply_left "z" "knows")
  have functional : ((swap "z" "knows").graph (.ofStatements misreadSchema)).IsTyped
      (.blank "knows") Owl.functionalProperty := by
    rw [← relabeled, isTyped_iff]
    exact Graph.mem_ofStatements_iff.2 (by decide)
  have uses : ((swap "z" "knows").graph (.ofStatements misreadData)).Uses (.iri "ann") "knows" :=
    (@uses_iff (swap "z" "knows") _ (.iri "ann") _).2
      ⟨.resource (.iri "bob"), Graph.mem_ofStatements_iff.2 (by decide)⟩
  have member : InstanceOf ((Graph.ofStatements misreadData).Either (.ofStatements misreadSchema))
      (.iri "ann") (.iri "Agent") :=
    ⟨.iri "Agent", Graph.either_ofStatements.2 (by decide), .refl⟩
  have carries : (Graph.ofStatements misreadSchema).view.Carries (.iri "Agent")
      ⟨.iri "mail", .min 1, none⟩ :=
    ⟨Graph.mem_ofStatements_iff.2 (by decide), ⟨Owl.minCardinality, .min, false⟩,
      by simp [boundPredicates], .plain "1", 1, Graph.mem_ofStatements_iff.2 (by decide),
      by decide +kernel, rfl, rfl⟩
  have unused : Restriction.values ((swap "z" "knows").graph (.ofStatements misreadData))
      ((swap "z" "knows").graph (.ofStatements misreadSchema)) (.iri "ann") (.iri "mail") none =
        ∅ := by
    refine Set.eq_empty_of_forall_notMem ?_
    rintro value ⟨leads, _unqualified⟩
    obtain ⟨source, target, known, _same⟩ := (relabels_graph _ _).fact_iff.1 leads
    exact absurd (misreadData_predicate known) (by decide)
  have shows := @Options.shows_scene ((swap "z" "knows").graph (.ofStatements misreadData))
    ((swap "z" "knows").graph (.ofStatements misreadSchema)) {}
  rw [Options.mem_validate_of_enabled enabled rfl,
    Cardinality.cardinalityMismatch_mem_findings shows]
  refine ⟨(Cardinality.mem_targets shows).2 (Or.inr ⟨.blank "knows", functional, uses⟩), ⟨_, rfl⟩,
    Or.inl ⟨.iri "Agent", ?_, ?_⟩, ?_, rfl⟩
  · exact ((swap "z" "knows").relabels_either _ _).instanceOf_iff.2 member
  · exact (carries_iff misreadSchema_determinate).2 carries
  · rw [unused, Set.ncard_empty]

end Relabeling

open Relabeling in
/-- A label that reads like a predicate of the data gains a violation. -/
theorem misread_label_gains_violation :
    (Graph.ofStatements misreadData).Determinate ∧
      (Graph.ofStatements misreadSchema).Determinate ∧
      ({} : Options).validate ((swap "z" "knows").graph (.ofStatements misreadData))
          ((swap "z" "knows").graph (.ofStatements misreadSchema)) ≠
        (swap "z" "knows").violations
          (({} : Options).validate (.ofStatements misreadData) (.ofStatements misreadSchema)) := by
  refine ⟨Graph.determinate_ofStatements (by decide +kernel), misreadSchema_determinate, ?_⟩
  intro same
  have reported := misread_reported
  rw [same, violations, SortedSet.mem_ofList, List.mem_map] at reported
  obtain ⟨original, found, relabeled⟩ := reported
  have kind : original.kind = .cardinalityMismatch := by
    rw [← kind_violation original, relabeled]
    rfl
  obtain ⟨_enabled, finding⟩ := Options.mem_validate_iff_kind.1 found
  rw [kind] at finding
  obtain ⟨resource, target, _found⟩ := Cardinality.mem_findings.1 finding
  exact misread_targets resource target

end OntologyLint
