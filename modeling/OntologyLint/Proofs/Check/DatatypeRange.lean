import OntologyLint.Proofs.Datatype.Conformance
import OntologyLint.Proofs.Validation.Arrangement

set_option autoImplicit false

/-! Datatype ranges are checked exactly: a validation reports a datatype for a triple if and only if
the schema gives the property that datatype as a range and the triple leads to a literal that is no
value of it. -/

namespace OntologyLint

variable {data schema : Graph} {listing : View} {scene : Scene} {triple : Triple}
  {expected : Resource}

namespace DatatypeRange

section Scene

variable (shows : scene.Shows data schema listing)

include shows

theorem mem_targets :
    triple ∈ targets scene ↔
      triple ∈ data ∧ (∃ literal, triple.object = .literal literal) ∧
        ∃ property, schema.Declares property ∧ triple.predicate = .iri property.text ∧
          ∃ datatype, datatype ∈ (schema.view.declarationOf property).datatypeRanges := by
  have isLiteral (object : Object) :
      object.literal?.isSome = true ↔ ∃ literal, object = .literal literal := by
    cases object <;> simp [Object.literal?]
  simp only [targets, List.mem_flatMap, List.mem_filter, shows.mem_withPredicate,
    SortedSet.not_isEmpty_iff, isLiteral]
  constructor
  · rintro ⟨declaration, ⟨member, ranged⟩, ⟨inData, predicate⟩, leads⟩
    obtain ⟨property, declared, rfl⟩ := shows.mem_properties.1 member
    exact ⟨inData, leads, property, declared, predicate, ranged⟩
  · rintro ⟨inData, leads, property, declared, predicate, ranged⟩
    exact ⟨_, ⟨shows.mem_properties.2 ⟨property, declared, rfl⟩, ranged⟩, ⟨inData, predicate⟩, leads⟩

theorem mem_targets_of_ranged {literal : Literal} (inData : triple ∈ data)
    (leads : triple.object = .literal literal)
    (expects : expected ∈ (schema.view.declarationOf triple.predicate).datatypeRanges) :
    triple ∈ targets scene :=
  (mem_targets shows).2 ⟨inData, ⟨literal, leads⟩, triple.predicate,
    Graph.declares_of_range (View.mem_datatypeRanges.1 expects).1,
    (Graph.predicate_isIri inData).iri_text.symm, expected, expects⟩

omit shows in
theorem mem_findings {violation : Violation} :
    violation ∈ Check.datatype.findings scene ↔
      ∃ triple ∈ targets scene, violation ∈ examine scene triple :=
  Check.mem_findings_of_targets .datatype (targets scene) .triple rfl

theorem datatypeMismatch_mem_findings :
    .datatypeMismatch triple expected ∈ Check.datatype.findings scene ↔
      triple ∈ data ∧ expected ∈ (schema.view.declarationOf triple.predicate).datatypeRanges ∧
        ∃ literal, triple.object = .literal literal ∧ ¬literal.Conforms expected := by
  rw [mem_findings]
  constructor
  · rintro ⟨other, target, member⟩
    obtain ⟨literal, declaration, leads, declared, datatype, expects, fails, same⟩ :=
      mem_examine.1 member
    cases same
    obtain ⟨_declares, rfl⟩ := shows.declaration?_eq_some.1 declared
    refine ⟨((mem_targets shows).1 target).1, expects, literal, leads, ?_⟩
    rw [← literalConforms_iff, fails]
    exact Bool.false_ne_true
  · rintro ⟨inData, expects, literal, leads, fails⟩
    rw [← literalConforms_iff, Bool.not_eq_true] at fails
    have declares := Graph.declares_of_range (View.mem_datatypeRanges.1 expects).1
    exact ⟨triple, mem_targets_of_ranged shows inData leads expects, mem_examine.2 ⟨literal, _, leads,
      shows.declaration?_eq_some.2 ⟨declares, rfl⟩, expected, expects, fails, rfl⟩⟩

end Scene

end DatatypeRange

/-- A datatype range is reported for exactly the literals that are no values of it. -/
theorem datatype_mismatches_exact (data schema : Graph) (options : Options)
    (enabled : Check.datatype ∈ options.checks) (triple : Triple) (expected : Resource) :
    .datatypeMismatch triple expected ∈ options.validate data schema ↔
      triple ∈ data ∧ ⟨triple.predicate, .iri Rdfs.range, .resource expected⟩ ∈ schema ∧
        (schema.IsTyped triple.predicate Owl.datatypeProperty ∨ schema.NamesDatatype expected) ∧
        ∃ literal, triple.object = .literal literal ∧ ¬literal.Conforms expected := by
  rw [Options.mem_validate_of_enabled enabled rfl,
    DatatypeRange.datatypeMismatch_mem_findings options.shows_scene, View.mem_datatypeRanges,
    and_assoc]

/-! A number that is too large for the datatype it is written with, and so no integer either. -/

namespace DatatypeRange

def sampleData : List Statement := [
  ⟨.iri "ann", "age", .typed "300" (Xsd.named "byte")⟩]

def sampleSchema : List Statement := [⟨.iri "age", Rdfs.range, .resource (.iri Xsd.integer)⟩]

end DatatypeRange

open DatatypeRange in
theorem large_byte_mismatch :
    Check.datatype ∈ ({} : Options).checks ∧
      .datatypeMismatch
          ⟨.iri "ann", .iri "age", .literal ⟨"300", .iri (Xsd.named "byte"), none⟩⟩
          (.iri Xsd.integer) ∈
        ({} : Options).validate (.ofStatements sampleData) (.ofStatements sampleSchema) := by
  have enabled : Check.datatype ∈ ({} : Options).checks := Options.mem_checks_default _
  refine ⟨enabled, (datatype_mismatches_exact (.ofStatements sampleData)
    (.ofStatements sampleSchema) {} enabled _ _).2 ⟨Graph.mem_ofStatements_iff.2 (by decide),
      Graph.mem_ofStatements_iff.2 (by decide), Or.inr ?_, _, rfl, ?_⟩⟩
  · rw [Graph.namesDatatype_iff]
    exact Or.inl (by decide)
  · rw [← literalConforms_iff]
    decide +kernel

end OntologyLint
