import OntologyLint.Proofs.Validation.Arrangement

set_option autoImplicit false

/-! Domains and class ranges are checked exactly: a validation reports a domain or a range of a
triple if and only if the graphs give the property that domain or range and do not make the subject
or the object an instance of it. -/

namespace OntologyLint

variable {data schema : Graph} {listing : View} {scene : Scene} {triple other : Triple}
  {expected : Resource}

namespace DomainRange

theorem domainMismatch_mem_found :
    .domainMismatch triple expected ∈ found scene other ↔
      triple = other ∧ ∃ declaration,
        scene.schema.declaration? triple.predicate = some declaration ∧
        expected ∈ declaration.domains ∧ expected ∉ scene.types.typesOf triple.subject := by
  rw [mem_found]
  constructor
  · rintro ⟨declaration, declared, ⟨type, lacked, same⟩ | ⟨object, _object, type, _lacked, same⟩⟩
    · cases same
      exact ⟨rfl, declaration, declared, mem_lacking.1 lacked⟩
    · cases same
  · rintro ⟨rfl, declaration, declared, lacked⟩
    exact ⟨declaration, declared, Or.inl ⟨expected, mem_lacking.2 lacked, rfl⟩⟩

theorem rangeMismatch_mem_found :
    .rangeMismatch triple expected ∈ found scene other ↔
      triple = other ∧ ∃ declaration object,
        scene.schema.declaration? triple.predicate = some declaration ∧
        triple.object = .resource object ∧
        expected ∈ declaration.classRanges ∧ expected ∉ scene.types.typesOf object := by
  rw [mem_found]
  constructor
  · rintro ⟨declaration, declared, ⟨type, _lacked, same⟩ | ⟨object, leads, type, lacked, same⟩⟩
    · cases same
    · cases same
      exact ⟨rfl, declaration, object, declared, leads, mem_lacking.1 lacked⟩
  · rintro ⟨rfl, declaration, object, declared, leads, lacked⟩
    exact ⟨declaration, declared, Or.inr ⟨object, leads, expected, mem_lacking.2 lacked, rfl⟩⟩

theorem applies_iff {property : Resource} :
    applies (schema.view.declarationOf property) = true ↔
      property ≠ .iri Rdf.type ∧
        ((∃ type, type ∈ (schema.view.declarationOf property).domains) ∨
          ∃ type, type ∈ (schema.view.declarationOf property).classRanges) := by
  rw [applies, Bool.and_eq_true, Bool.or_eq_true, SortedSet.not_isEmpty_iff,
    SortedSet.not_isEmpty_iff, bne_iff_ne]
  rfl

section Scene

variable (shows : scene.Shows data schema listing)

include shows

theorem mem_targets :
    triple ∈ targets scene ↔
      triple ∈ data ∧ ∃ property, schema.Declares property ∧
        triple.predicate = .iri property.text ∧
        applies (schema.view.declarationOf property) = true := by
  simp only [targets, List.mem_flatMap, List.mem_filter, shows.mem_withPredicate]
  constructor
  · rintro ⟨declaration, ⟨member, applied⟩, inData, predicate⟩
    obtain ⟨property, declared, rfl⟩ := shows.mem_properties.1 member
    exact ⟨inData, property, declared, predicate, applied⟩
  · rintro ⟨inData, property, declared, predicate, applied⟩
    exact ⟨_, ⟨shows.mem_properties.2 ⟨property, declared, rfl⟩, applied⟩, inData, predicate⟩

/-- When all properties are named by IRIs, the triples of a property with a domain or a class range
are looked at, except those of the type property. -/
theorem mem_targets_of_constrained
    (named : ∀ property, schema.Declares property → property.IsIri)
    (declared : schema.Declares triple.predicate)
    (constrained : (∃ type, type ∈ (schema.view.declarationOf triple.predicate).domains) ∨
      ∃ type, type ∈ (schema.view.declarationOf triple.predicate).classRanges) :
    triple ∈ targets scene ↔ triple ∈ data ∧ triple.predicate ≠ .iri Rdf.type := by
  rw [mem_targets shows]
  constructor
  · rintro ⟨inData, property, declares, predicate, applied⟩
    rw [predicate, (named property declares).iri_text]
    exact ⟨inData, (applies_iff.1 applied).1⟩
  · rintro ⟨inData, ordinary⟩
    exact ⟨inData, triple.predicate, declared, (Graph.predicate_isIri inData).iri_text.symm,
      applies_iff.2 ⟨ordinary, constrained⟩⟩

omit shows in
theorem mem_findings {violation : Violation} :
    violation ∈ Check.domainRange.findings scene ↔
      ∃ triple ∈ targets scene, violation ∈ found scene triple :=
  Check.mem_findings_of_targets .domainRange (targets scene) .triple rfl

theorem domainMismatch_mem_findings :
    .domainMismatch triple expected ∈ Check.domainRange.findings scene ↔
      triple ∈ targets scene ∧
        ⟨triple.predicate, .iri Rdfs.domain, .resource expected⟩ ∈ schema ∧
        ¬InstanceOf (data.Either schema) triple.subject expected := by
  rw [mem_findings]
  constructor
  · rintro ⟨other, target, member⟩
    obtain ⟨rfl, declaration, declared, expects, lacked⟩ := domainMismatch_mem_found.1 member
    obtain ⟨_declares, rfl⟩ := shows.declaration?_eq_some.1 declared
    exact ⟨target, View.mem_domains.1 expects,
      fun member => lacked (shows.mem_typesOf.2 member)⟩
  · rintro ⟨target, domain, lacked⟩
    exact ⟨triple, target, domainMismatch_mem_found.2 ⟨rfl, _,
      shows.declaration?_eq_some.2 ⟨Graph.declares_of_domain domain, rfl⟩,
      View.mem_domains.2 domain, fun member => lacked (shows.mem_typesOf.1 member)⟩⟩

theorem rangeMismatch_mem_findings :
    .rangeMismatch triple expected ∈ Check.domainRange.findings scene ↔
      triple ∈ targets scene ∧
        expected ∈ (schema.view.declarationOf triple.predicate).classRanges ∧
        ∃ object, triple.object = .resource object ∧
          ¬InstanceOf (data.Either schema) object expected := by
  rw [mem_findings]
  constructor
  · rintro ⟨other, target, member⟩
    obtain ⟨rfl, declaration, object, declared, leads, expects, lacked⟩ :=
      rangeMismatch_mem_found.1 member
    obtain ⟨_declares, rfl⟩ := shows.declaration?_eq_some.1 declared
    exact ⟨target, expects, object, leads, fun member => lacked (shows.mem_typesOf.2 member)⟩
  · rintro ⟨target, expects, object, leads, lacked⟩
    have declares := Graph.declares_of_range (View.mem_classRanges.1 expects).1
    exact ⟨triple, target, rangeMismatch_mem_found.2 ⟨rfl, _, object,
      shows.declaration?_eq_some.2 ⟨declares, rfl⟩, leads, expects,
      fun member => lacked (shows.mem_typesOf.1 member)⟩⟩

end Scene

end DomainRange

open DomainRange in
/-- A domain is reported for exactly the triples whose subject is no instance of it, and a class
range for exactly the triples whose object is no instance of it. -/
theorem domain_and_range_mismatches_exact (data schema : Graph) (options : Options)
    (enabled : Check.domainRange ∈ options.checks)
    (named : ∀ property, schema.Declares property → property.IsIri) (triple : Triple)
    (expected : Resource) :
    (.domainMismatch triple expected ∈ options.validate data schema ↔
      triple ∈ data ∧ triple.predicate ≠ .iri Rdf.type ∧
        ⟨triple.predicate, .iri Rdfs.domain, .resource expected⟩ ∈ schema ∧
        ¬InstanceOf (data.Either schema) triple.subject expected) ∧
    (.rangeMismatch triple expected ∈ options.validate data schema ↔
      triple ∈ data ∧ (∃ object, triple.object = .resource object ∧
          ¬InstanceOf (data.Either schema) object expected) ∧
        triple.predicate ≠ .iri Rdf.type ∧
        ⟨triple.predicate, .iri Rdfs.range, .resource expected⟩ ∈ schema ∧
        ¬schema.IsTyped triple.predicate Owl.datatypeProperty ∧
        ¬schema.NamesDatatype expected) := by
  have shows := @Options.shows_scene data schema options
  constructor
  · rw [Options.mem_validate_of_enabled enabled rfl, domainMismatch_mem_findings shows]
    have looked (domain : ⟨triple.predicate, .iri Rdfs.domain, .resource expected⟩ ∈ schema) :=
      mem_targets_of_constrained shows named (Graph.declares_of_domain domain)
        (Or.inl ⟨expected, View.mem_domains.2 domain⟩)
    constructor
    · rintro ⟨target, domain, lacked⟩
      obtain ⟨inData, ordinary⟩ := (looked domain).1 target
      exact ⟨inData, ordinary, domain, lacked⟩
    · rintro ⟨inData, ordinary, domain, lacked⟩
      exact ⟨(looked domain).2 ⟨inData, ordinary⟩, domain, lacked⟩
  · rw [Options.mem_validate_of_enabled enabled rfl, rangeMismatch_mem_findings shows]
    have looked
        (expects : expected ∈ (schema.view.declarationOf triple.predicate).classRanges) :=
      mem_targets_of_constrained shows named
        (Graph.declares_of_range (View.mem_classRanges.1 expects).1) (Or.inr ⟨expected, expects⟩)
    constructor
    · rintro ⟨target, expects, lacked⟩
      obtain ⟨inData, ordinary⟩ := (looked expects).1 target
      exact ⟨inData, lacked, ordinary, View.mem_classRanges.1 expects⟩
    · rintro ⟨inData, lacked, ordinary, range⟩
      have expects := View.mem_classRanges.2 range
      exact ⟨(looked expects).2 ⟨inData, ordinary⟩, expects, lacked⟩

/-! A student knows a dog. Students are persons, and only persons know and are known. -/

namespace DomainRange

def sampleData : List Statement := [
  ⟨.iri "ann", Rdf.type, .resource (.iri "Student")⟩,
  ⟨.iri "ann", "knows", .resource (.iri "rex")⟩,
  ⟨.iri "rex", Rdf.type, .resource (.iri "Dog")⟩]

def sampleSchema : List Statement := [
  ⟨.iri "knows", Rdfs.domain, .resource (.iri "Person")⟩,
  ⟨.iri "knows", Rdfs.range, .resource (.iri "Person")⟩,
  ⟨.iri "Student", Rdfs.subClassOf, .resource (.iri "Person")⟩]

def sampleTriple : Triple := ⟨.iri "ann", .iri "knows", .resource (.iri "rex")⟩

theorem sampleSchema_named (property : Resource)
    (declared : (Graph.ofStatements sampleSchema).Declares property) : property.IsIri := by
  have subjects : ∀ triple ∈ sampleSchema.map Statement.triple,
      triple.subject.isBlank = false := by decide
  rw [Resource.isIri_iff]
  rcases declared with ⟨object, member⟩ | ⟨object, member⟩ | ⟨type, _known, member⟩
  · exact subjects _ (Graph.mem_ofStatements_iff.1 member)
  · exact subjects _ (Graph.mem_ofStatements_iff.1 member)
  · exact subjects _ (Graph.mem_ofStatements_iff.1 member)

theorem student_is_person :
    InstanceOf ((Graph.ofStatements sampleData).Either (.ofStatements sampleSchema))
      (.iri "ann") (.iri "Person") :=
  ⟨.iri "Student", Graph.either_ofStatements.2 (by decide),
    .single (Or.inl (Graph.either_ofStatements.2 (by decide)))⟩

theorem dog_is_no_person :
    ¬InstanceOf ((Graph.ofStatements sampleData).Either (.ofStatements sampleSchema))
      (.iri "rex") (.iri "Person") := by
  intro member
  have types : ∀ triple ∈ (sampleData ++ sampleSchema).map Statement.triple,
      triple.subject = .iri "rex" → triple.object = .resource (.iri "Dog") := by decide
  have top : ∀ triple ∈ (sampleData ++ sampleSchema).map Statement.triple,
      triple.subject ≠ .iri "Dog" ∧ triple.predicate ≠ .iri Owl.equivalentClass := by decide
  have dog : Resource.iri "Person" = .iri "Dog" := by
    refine InstanceOf.mem_of_closed (fun type => type = .iri "Dog") ?_ ?_ member
    · intro asserted typed
      exact Object.resource.inj (types _ (Graph.either_ofStatements.1 typed) rfl)
    · rintro _ parent rfl (below | same | same)
      · exact absurd rfl (top _ (Graph.either_ofStatements.1 below)).1
      · exact absurd rfl (top _ (Graph.either_ofStatements.1 same)).1
      · exact absurd rfl (top _ (Graph.either_ofStatements.1 same)).2
  exact absurd dog (by decide)

end DomainRange

open DomainRange in
theorem dog_out_of_range :
    Check.domainRange ∈ ({} : Options).checks ∧
      (∀ property, (Graph.ofStatements sampleSchema).Declares property → property.IsIri) ∧
      .domainMismatch sampleTriple (.iri "Person") ∉
        ({} : Options).validate (.ofStatements sampleData) (.ofStatements sampleSchema) ∧
      .rangeMismatch sampleTriple (.iri "Person") ∈
        ({} : Options).validate (.ofStatements sampleData) (.ofStatements sampleSchema) := by
  have enabled : Check.domainRange ∈ ({} : Options).checks := Options.mem_checks_default _
  have exact := domain_and_range_mismatches_exact (.ofStatements sampleData)
    (.ofStatements sampleSchema) {} enabled sampleSchema_named sampleTriple (.iri "Person")
  refine ⟨enabled, sampleSchema_named, fun reported => (exact.1.1 reported).2.2.2 student_is_person,
    exact.2.2 ⟨Graph.mem_ofStatements_iff.2 (by decide), ⟨_, rfl, dog_is_no_person⟩, by decide,
      Graph.mem_ofStatements_iff.2 (by decide), ?_, ?_⟩⟩
  · intro typed
    exact absurd (Graph.mem_ofStatements_iff.1 typed) (by decide)
  · rw [Graph.namesDatatype_iff]
    rintro (builtin | typed)
    · exact absurd builtin (by decide)
    · exact absurd (Graph.mem_ofStatements_iff.1 typed) (by decide)

end OntologyLint
