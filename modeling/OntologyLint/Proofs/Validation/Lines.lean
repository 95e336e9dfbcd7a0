import OntologyLint.Proofs.Check.Cardinality
import OntologyLint.Proofs.Check.DatatypeRange
import OntologyLint.Proofs.Check.Disjointness
import OntologyLint.Proofs.Check.DomainRange
import OntologyLint.Proofs.Violation.Display

set_option autoImplicit false

/-! Lines of a text report that read the same. A violation shows nothing but terms of the graphs, so
where these can be told apart in a line, lines tell the violations, up to the kind of a qualifier. -/

namespace OntologyLint

def Graph.resources (data schema : Graph) : Set Resource :=
  {resource | ∃ triple, data.Either schema triple ∧ resource ∈ triple.resources}

def Graph.literals (graph : Graph) : Set Literal :=
  {literal | ∃ triple ∈ graph, triple.object = .literal literal}

variable {data schema : Graph} {listing : View} {scene : Scene}

namespace Graph

variable {triple : Triple} {subject predicate resource type : Resource} {object : Object}

theorem subject_mem_resources (holds : data.Either schema ⟨subject, predicate, object⟩) :
    subject ∈ data.resources schema :=
  ⟨_, holds, List.mem_cons_self⟩

theorem object_mem_resources (holds : data.Either schema ⟨subject, predicate, .resource resource⟩) :
    resource ∈ data.resources schema :=
  ⟨_, holds, List.mem_cons_of_mem _ (List.mem_cons_of_mem _ List.mem_cons_self)⟩

theorem within_of_mem (inData : triple ∈ data) :
    triple.Within (data.resources schema) data.literals :=
  ⟨fun _resource among => ⟨triple, Or.inl inData, among⟩,
    fun _literal shown => ⟨triple, inData, shown⟩⟩

theorem tagFits_of_mem_literals : ∀ literal ∈ data.literals, literal.TagFits := by
  rintro literal ⟨triple, inData, shown⟩
  exact tagFits inData literal shown

theorem mem_resources_of_instanceOf (member : InstanceOf (data.Either schema) resource type) :
    type ∈ data.resources schema := by
  refine member.mem_of_closed (· ∈ data.resources schema) ?_ ?_
  · intro asserted typed
    exact object_mem_resources typed
  · rintro a b _known (below | same | same)
    · exact object_mem_resources below
    · exact object_mem_resources same
    · exact subject_mem_resources same

theorem mem_resources_of_uses {predicate : String} (uses : data.Uses resource predicate) :
    resource ∈ data.resources schema := by
  obtain ⟨object, used⟩ := uses
  exact subject_mem_resources (Or.inl used)

theorem mem_resources_of_qualifies {qualifier : Qualifier}
    (lists : listing.SameTriples schema.view) (qualifies : listing.Qualifies resource qualifier) :
    qualifier.resource ∈ data.resources schema := by
  cases qualifies with
  | instances type first => exact object_mem_resources (Or.inr ((lists _).1 first.mem))
  | literals datatype _classless first =>
      exact object_mem_resources (Or.inr ((lists _).1 first.mem))

end Graph

open OntologyLint.Graph

namespace Violation

variable {mentioned : Set Resource} {written : Set Literal} {violation : Violation}

theorem within_of_triple {triple : Triple} {expected : Resource}
    (shown : violation.triple? = some triple) (wanted : violation.expected? = some expected)
    (within : triple.Within mentioned written) (among : expected ∈ mentioned) :
    violation.Within mentioned written := by
  have named := List.forall_mem_cons.2 ⟨among, within.1⟩
  have literals (other : Triple) (literal : Literal) (same : violation.triple? = some other)
      (object : other.object = .literal literal) : literal ∈ written := by
    cases shown.symm.trans same
    exact within.2 literal object
  cases violation <;> cases shown <;> cases wanted <;> exact ⟨named, literals⟩

theorem within_of_no_triple (shown : violation.triple? = none)
    (named : ∀ resource ∈ violation.resources, resource ∈ mentioned) :
    violation.Within mentioned written := by
  refine ⟨named, ?_⟩
  intro triple literal same _object
  cases shown.symm.trans same

/-- All that a violation shows is named in the graphs. -/
theorem within_of_mem_findings (shows : scene.Shows data schema listing)
    (found : violation ∈ violation.kind.check.findings scene) :
    violation.Within (data.resources schema) data.literals := by
  cases violation with
  | domainMismatch triple expected =>
      obtain ⟨target, domain, _lacks⟩ := (DomainRange.domainMismatch_mem_findings shows).1 found
      exact within_of_triple rfl rfl
        (within_of_mem ((DomainRange.mem_targets shows).1 target).1)
        (object_mem_resources (Or.inr domain))
  | rangeMismatch triple expected =>
      obtain ⟨target, range, _lacks⟩ := (DomainRange.rangeMismatch_mem_findings shows).1 found
      exact within_of_triple rfl rfl
        (within_of_mem ((DomainRange.mem_targets shows).1 target).1)
        (object_mem_resources (Or.inr (View.mem_classRanges.1 range).1))
  | disjointMembership resource classes =>
      obtain ⟨typed, first, second, _apart⟩ :=
        (Disjointness.disjointMembership_mem_findings shows).1 found
      refine within_of_no_triple rfl ?_
      simp only [resources, List.forall_mem_cons]
      exact ⟨mem_resources_of_uses typed, mem_resources_of_instanceOf first,
        mem_resources_of_instanceOf second, List.forall_mem_nil _⟩
  | datatypeMismatch triple expected =>
      obtain ⟨inData, range, _fails⟩ :=
        (DatatypeRange.datatypeMismatch_mem_findings shows).1 found
      exact within_of_triple rfl rfl (within_of_mem inData)
        (object_mem_resources (Or.inr (View.mem_datatypeRanges.1 range).1))
  | cardinalityMismatch resource property bound qualifier actual =>
      obtain ⟨target, _named, binds, _counted⟩ :=
        (Cardinality.cardinalityMismatch_mem_findings shows).1 found
      have resourceIn : resource ∈ data.resources schema := by
        rcases (Cardinality.mem_targets shows).1 target with
          ⟨_carried, typed⟩ | ⟨used, _functional, uses⟩
        · exact mem_resources_of_uses typed
        · exact mem_resources_of_uses uses
      refine within_of_no_triple rfl ?_
      simp only [resources, List.forall_mem_cons]
      refine ⟨resourceIn, ?_⟩
      rcases binds with ⟨type, _member, placed, kind, _known, literal, count, _declared, _reads,
        _bound, qualifies⟩ | ⟨functional, _used, _bound, unqualified⟩
      · refine ⟨object_mem_resources (Or.inr ((shows.lists _).1 placed)), ?_⟩
        cases qualifier with
        | none => exact List.forall_mem_nil _
        | some qualifier =>
            rintro shown member
            rw [List.mem_singleton.1 member]
            exact mem_resources_of_qualifies shows.lists qualifies.2
      · refine ⟨subject_mem_resources (Or.inr functional), ?_⟩
        cases unqualified
        exact List.forall_mem_nil _

theorem within_of_mem_validate {options : Options}
    (reported : violation ∈ options.validate data schema) :
    violation.Within (data.resources schema) data.literals :=
  within_of_mem_findings options.shows_scene
    (Options.mem_validate_iff_kind.1 reported).2

end Violation

/-- Two lines of a report read the same only if they are about the same violation, or if their bounds
are the same but that one counts instances of a class and the other one literals of a datatype of the
same name. -/
theorem lines_told_apart_up_to_qualifier (data schema : Graph) (options : Options)
    (legible : Legible (data.resources schema) data.literals) (one other : Violation)
    (reported : one ∈ options.validate data schema)
    (alsoReported : other ∈ options.validate data schema) :
    one.display = other.display ↔
      one = other ∨ one.DifferInQualifier other ∨ other.DifferInQualifier one :=
  Violation.display_eq_iff legible Graph.tagFits_of_mem_literals
    (Violation.within_of_mem_validate reported)
    (Violation.within_of_mem_validate alsoReported)

/-! An owner lacks a thing that is a part, an author lacks a text in the datatype of that name, and a
machine lacks parts of any sort. -/

namespace Lines

def sampleData : List Statement := [
  ⟨.iri "ann", Rdf.type, .resource (.iri "Owner")⟩,
  ⟨.iri "ann", Rdf.type, .resource (.iri "Author")⟩,
  ⟨.iri "ann", Rdf.type, .resource (.iri "Machine")⟩]

def sampleSchema : List Statement := [
  ⟨.iri "Owner", Owl.onProperty, .resource (.iri "part")⟩,
  ⟨.iri "Owner", Owl.minQualifiedCardinality, .plain "1"⟩,
  ⟨.iri "Owner", Owl.onClass, .resource (.iri "Part")⟩,
  ⟨.iri "Author", Owl.onProperty, .resource (.iri "part")⟩,
  ⟨.iri "Author", Owl.minQualifiedCardinality, .plain "1"⟩,
  ⟨.iri "Author", Owl.onDataRange, .resource (.iri "Part")⟩,
  ⟨.iri "Machine", Owl.onProperty, .resource (.iri "part")⟩,
  ⟨.iri "Machine", Owl.minCardinality, .plain "1"⟩]

def lacksAny : Violation := .cardinalityMismatch (.iri "ann") (.iri "part") (.min 1) none 0

theorem sample_unused (qualifier : Option Qualifier) :
    Restriction.values (.ofStatements sampleData) (.ofStatements sampleSchema) (.iri "ann")
      (.iri "part") qualifier = ∅ := by
  have only : ∀ triple ∈ sampleData.map Statement.triple, triple.predicate ≠ .iri "part" := by
    decide
  refine Set.eq_empty_of_forall_notMem ?_
  rintro value ⟨leads, _counted⟩
  exact only _ (Graph.mem_ofStatements_iff.1 leads) rfl

theorem sample_reported {node : Resource} {qualifier : Option Qualifier}
    (typed : ⟨.iri "ann", .iri Rdf.type, .resource node⟩ ∈ Graph.ofStatements sampleData)
    (carried : (Graph.ofStatements sampleSchema).view.Carries node ⟨.iri "part", .min 1, qualifier⟩) :
    .cardinalityMismatch (.iri "ann") (.iri "part") (.min 1) qualifier 0 ∈
      ({} : Options).validate (.ofStatements sampleData) (.ofStatements sampleSchema) := by
  have enabled : Check.cardinality ∈ ({} : Options).checks := Options.mem_checks_default _
  have shows := @Options.shows_scene (.ofStatements sampleData) (.ofStatements sampleSchema) {}
  have target : .iri "ann" ∈ Cardinality.targets
      (({} : Options).scene (.ofStatements sampleData) (.ofStatements sampleSchema)) :=
    (Cardinality.mem_targets shows).2 (Or.inl ⟨⟨node, _, carried⟩, ⟨_, typed⟩⟩)
  rw [Options.mem_validate_of_enabled enabled rfl,
    Cardinality.cardinalityMismatch_mem_findings shows, sample_unused, Set.ncard_empty]
  exact ⟨target, ⟨_, rfl⟩, Or.inl ⟨node, ⟨node, Or.inl typed, .refl⟩, carried⟩, rfl, rfl⟩

theorem sampleSchema_determinate : (Graph.ofStatements sampleSchema).Determinate :=
  Graph.determinate_ofStatements (by decide +kernel)

theorem owner_qualifies :
    (Graph.ofStatements sampleSchema).view.Qualifies (.iri "Owner") (.instances (.iri "Part")) := by
  rw [Graph.qualifies_instances_iff sampleSchema_determinate.classQualifier]
  exact Graph.mem_ofStatements_iff.2 (by decide)

theorem author_qualifies :
    (Graph.ofStatements sampleSchema).view.Qualifies (.iri "Author") (.literals (.iri "Part")) := by
  have classless : ∀ triple ∈ sampleSchema.map Statement.triple,
      triple.subject = .iri "Author" → triple.predicate ≠ .iri Owl.onClass := by decide +kernel
  rw [Graph.qualifies_literals_iff sampleSchema_determinate.datatypeQualifier]
  refine ⟨?_, Graph.mem_ofStatements_iff.2 (by decide)⟩
  rintro ⟨type, counts⟩
  exact classless _ (Graph.mem_ofStatements_iff.1 counts) rfl rfl

theorem sample_carries {node : Resource} {qualifier : Qualifier}
    (placed : ⟨node, .iri Owl.onProperty, .resource (.iri "part")⟩ ∈
      sampleSchema.map Statement.triple)
    (declared : ⟨node, .iri Owl.minQualifiedCardinality, .literal (.plain "1")⟩ ∈
      sampleSchema.map Statement.triple)
    (qualifies : (Graph.ofStatements sampleSchema).view.Qualifies node qualifier) :
    (Graph.ofStatements sampleSchema).view.Carries node ⟨.iri "part", .min 1, some qualifier⟩ :=
  ⟨Graph.mem_ofStatements_iff.2 placed, ⟨Owl.minQualifiedCardinality, .min, true⟩,
    by simp [boundPredicates], .plain "1", 1, Graph.mem_ofStatements_iff.2 declared,
    by decide +kernel, rfl, rfl, qualifies⟩

theorem machine_carries :
    (Graph.ofStatements sampleSchema).view.Carries (.iri "Machine") ⟨.iri "part", .min 1, none⟩ :=
  ⟨Graph.mem_ofStatements_iff.2 (by decide), ⟨Owl.minCardinality, .min, false⟩,
    by simp [boundPredicates], .plain "1", 1, Graph.mem_ofStatements_iff.2 (by decide),
    by decide +kernel, rfl, rfl⟩

theorem lacksMember_reported : Violation.lacksMember ∈
    ({} : Options).validate (.ofStatements sampleData) (.ofStatements sampleSchema) :=
  sample_reported (Graph.mem_ofStatements_iff.2 (by decide))
    (sample_carries (by decide) (by decide) owner_qualifies)

theorem lacksLiteral_reported : Violation.lacksLiteral ∈
    ({} : Options).validate (.ofStatements sampleData) (.ofStatements sampleSchema) :=
  sample_reported (Graph.mem_ofStatements_iff.2 (by decide))
    (sample_carries (by decide) (by decide) author_qualifies)

theorem lacksAny_reported : lacksAny ∈
    ({} : Options).validate (.ofStatements sampleData) (.ofStatements sampleSchema) :=
  sample_reported (Graph.mem_ofStatements_iff.2 (by decide)) machine_carries

def sampleTexts : List String := [
  "ann", "Owner", "Author", "Machine", "part", "Part", Rdf.type, Owl.onProperty, Owl.onClass,
  Owl.onDataRange, Owl.minCardinality, Owl.minQualifiedCardinality, Xsd.string]

theorem sampleTexts_plain : ∀ text ∈ sampleTexts,
    text.toList.all (fun char => char != '>' && !char.isWhitespace) = true := by
  decide +kernel

theorem sample_texts : ∀ triple ∈ (sampleData ++ sampleSchema).map Statement.triple,
    ∀ resource ∈ triple.resources, resource.node? = none ∧ resource.text ∈ sampleTexts := by
  simp [sampleData, sampleSchema, sampleTexts, Statement.triple, Triple.resources,
    Object.resources, Resource.node?, Resource.text, Term.plain, Term.stored, Literal.typed]

theorem sample_plain {triple : Triple} {resource : Resource} {char : Char}
    (listed : triple ∈ (sampleData ++ sampleSchema).map Statement.triple)
    (among : resource ∈ triple.resources) (within : char ∈ resource.text.toList) :
    char ≠ '>' ∧ char.isWhitespace = false := by
  have plain := sampleTexts_plain resource.text (sample_texts triple listed resource among).2
  simpa using List.all_eq_true.1 plain char within

theorem sample_untagged : ∀ triple ∈ (sampleData ++ sampleSchema).map Statement.triple,
    ∀ literal ∈ triple.object.literal?, literal.language = none := by
  decide +kernel

theorem sample_legible : Legible
    ((Graph.ofStatements sampleData).resources (.ofStatements sampleSchema))
    (Graph.ofStatements sampleData).literals := by
  have untagged : ∀ literal ∈ (Graph.ofStatements sampleData).literals,
      literal.language = none := by
    rintro literal ⟨triple, inData, shown⟩
    exact sample_untagged triple (Graph.either_ofStatements.1 (Or.inl inData)) literal
      (Object.literal?_eq_some.2 shown)
  refine ⟨labelsUnique_of_labeled ?_, ?_, ?_⟩
  · rintro resource ⟨triple, holds, among⟩
    exact (sample_texts triple (Graph.either_ofStatements.1 holds) resource among).1
  · rintro resource ⟨triple, holds, among⟩ space
    exact absurd (sample_plain (Graph.either_ofStatements.1 holds) among space).2 (by decide)
  · intro literal shown tag tagged
    cases (untagged literal shown).symm.trans tagged

end Lines

open Lines in
theorem unqualified_bound_told_apart :
    Legible ((Graph.ofStatements sampleData).resources (.ofStatements sampleSchema))
        (Graph.ofStatements sampleData).literals ∧
      Violation.lacksMember ∈
        ({} : Options).validate (.ofStatements sampleData) (.ofStatements sampleSchema) ∧
      lacksAny ∈
        ({} : Options).validate (.ofStatements sampleData) (.ofStatements sampleSchema) ∧
      Violation.lacksMember.display ≠ lacksAny.display := by
  refine ⟨sample_legible, lacksMember_reported, lacksAny_reported, ?_⟩
  intro same
  rcases (lines_told_apart_up_to_qualifier (.ofStatements sampleData) (.ofStatements sampleSchema) {}
    sample_legible _ _ lacksMember_reported lacksAny_reported).1 same with equal | differ | differ
  · exact absurd equal (by decide)
  · cases differ
  · cases differ

open Lines in
/-- Two lines can read the same though no identifier holds a space or a bracket. -/
theorem qualifiers_read_the_same :
    (∀ triple ∈ (sampleData ++ sampleSchema).map Statement.triple,
      (∀ resource ∈ triple.resources,
        ∀ char ∈ resource.text.toList, char ≠ '>' ∧ char.isWhitespace = false) ∧
      ∀ literal ∈ triple.object.literal?, literal.language = none) ∧
    Violation.lacksMember ∈
      ({} : Options).validate (.ofStatements sampleData) (.ofStatements sampleSchema) ∧
    Violation.lacksLiteral ∈
      ({} : Options).validate (.ofStatements sampleData) (.ofStatements sampleSchema) ∧
    Violation.lacksMember ≠ Violation.lacksLiteral ∧
    Violation.lacksMember.display = Violation.lacksLiteral.display := by
  refine ⟨?_, lacksMember_reported, lacksLiteral_reported, by decide, rfl⟩
  intro triple listed
  exact ⟨fun resource among char within => sample_plain listed among within,
    sample_untagged triple listed⟩

end OntologyLint
