import OntologyLint.Datatype.Conformance
import OntologyLint.Proofs.Datatype.Derivation
import OntologyLint.Proofs.Graph.Facts

set_option autoImplicit false

/-! Conformance of literals, told without the order in which the tests are made: by derivation
chains and lexical spaces for texts, and by the special datatypes that every literal, or every
literal in a language, is a value of. A literal names its datatype by the text alone. -/

namespace OntologyLint

structure TextConforms (lexical actual expected : String) : Prop where
  related : actual = Xsd.string ∨ DerivedFrom actual expected ∨ DerivedFrom expected actual
  allowed : ∀ known : KnownDatatype, known.iri = actual → known.accepts lexical.toList = true
  accepted : ∀ known : KnownDatatype, known.iri = expected → known.accepts lexical.toList = true
  unknown : (∀ known : KnownDatatype, known.iri ≠ expected) → actual = expected

/-- The literal is a value of the datatype. -/
inductive Literal.Conforms (literal : Literal) : Resource → Prop
  | anything : Conforms literal (.iri Rdfs.literal)
  | inLanguage (tagged : literal.language.isSome) : Conforms literal (.iri Rdf.langString)
  | unnamed (datatype : Resource) (untagged : literal.language = none) (blank : ¬datatype.IsIri)
      (same : literal.datatype = datatype) : Conforms literal datatype
  | text (expected : String) (untagged : literal.language = none)
      (particular : expected ≠ Rdfs.literal) (plain : expected ≠ Rdf.langString)
      (conforms : TextConforms literal.lexical literal.datatype.text expected) :
      Conforms literal (.iri expected)

theorem inLexicalSpace?_known {lexical datatype : String} {known : KnownDatatype}
    (named : known.iri = datatype) :
    inLexicalSpace? lexical datatype = some (known.accepts lexical.toList) := by
  rw [inLexicalSpace?, KnownDatatype.ofIri?_eq_some.2 named, Option.map_some]

theorem inLexicalSpace?_unknown {lexical datatype : String}
    (unknown : ∀ known : KnownDatatype, known.iri ≠ datatype) :
    inLexicalSpace? lexical datatype = none := by
  rw [inLexicalSpace?, KnownDatatype.ofIri?_eq_none.2 unknown, Option.map_none]

theorem known_or_unknown (datatype : String) :
    (∃ known : KnownDatatype, known.iri = datatype) ∨
      ∀ known : KnownDatatype, known.iri ≠ datatype := by
  rcases Classical.em (∃ known : KnownDatatype, known.iri = datatype) with known | unknown
  · exact Or.inl known
  · exact Or.inr (fun known named => unknown ⟨known, named⟩)

theorem not_outside_lexicalSpace_iff {lexical datatype : String} :
    (inLexicalSpace? lexical datatype != some false) = true ↔
      ∀ known : KnownDatatype, known.iri = datatype → known.accepts lexical.toList = true := by
  rw [bne_iff_ne]
  rcases known_or_unknown datatype with ⟨known, named⟩ | unknown
  · rw [inLexicalSpace?_known named]
    constructor
    · intro inside other otherNamed
      cases KnownDatatype.iri_injective (named.trans otherNamed.symm)
      exact Bool.not_eq_false _ |>.mp (fun outside => inside (congrArg some outside))
    · intro accepts outside
      rw [accepts known named] at outside
      cases outside
  · rw [inLexicalSpace?_unknown unknown]
    constructor
    · intro _inside known named
      exact absurd named (unknown known)
    · intro _accepts outside
      cases outside

theorem textConforms_iff {lexical actual expected : String} :
    textConforms lexical actual expected = true ↔ TextConforms lexical actual expected := by
  rw [textConforms, Bool.and_eq_true, Bool.and_eq_true, Bool.or_eq_true, Bool.or_eq_true,
    beq_iff_eq, isDerivedFrom_iff, isDerivedFrom_iff, not_outside_lexicalSpace_iff, or_assoc]
  rcases known_or_unknown expected with ⟨known, named⟩ | unknown
  · rw [inLexicalSpace?_known named]
    constructor
    · rintro ⟨⟨related, allowed⟩, accepted⟩
      refine ⟨related, allowed, ?_, fun unknown => absurd named (unknown known)⟩
      intro other otherNamed
      cases KnownDatatype.iri_injective (named.trans otherNamed.symm)
      exact accepted
    · intro conforms
      exact ⟨⟨conforms.related, conforms.allowed⟩, conforms.accepted known named⟩
  · rw [inLexicalSpace?_unknown unknown, beq_iff_eq]
    constructor
    · rintro ⟨⟨related, allowed⟩, same⟩
      exact ⟨related, allowed, fun known named => absurd named (unknown known), fun _ => same⟩
    · intro conforms
      exact ⟨⟨conforms.related, conforms.allowed⟩, conforms.unknown unknown⟩

theorem Literal.not_conforms_of_tagged {literal : Literal} {datatype : Resource}
    (tagged : literal.language.isSome = true) (particular : datatype ≠ .iri Rdfs.literal)
    (plain : datatype ≠ .iri Rdf.langString) : ¬literal.Conforms datatype := by
  intro conforms
  cases conforms with
  | anything => exact particular rfl
  | inLanguage _tagged => exact plain rfl
  | unnamed _ untagged _blank _same => rw [untagged] at tagged; cases tagged
  | text expected untagged _particular _plain _conforms => rw [untagged] at tagged; cases tagged

theorem Literal.conforms_unnamed_iff {literal : Literal} {datatype : Resource}
    (untagged : literal.language = none) (blank : ¬datatype.IsIri) :
    literal.Conforms datatype ↔ literal.datatype = datatype := by
  constructor
  · intro conforms
    cases conforms with
    | anything => exact absurd ⟨_, rfl⟩ blank
    | inLanguage _tagged => exact absurd ⟨_, rfl⟩ blank
    | unnamed _ _untagged _blank same => exact same
    | text expected _untagged _particular _plain _conforms => exact absurd ⟨expected, rfl⟩ blank
  · exact .unnamed datatype untagged blank

theorem Literal.conforms_langString_iff {literal : Literal} :
    literal.Conforms (.iri Rdf.langString) ↔ literal.language.isSome = true := by
  constructor
  · intro conforms
    generalize same : Resource.iri Rdf.langString = datatype at conforms
    cases conforms with
    | anything => exact absurd same (by decide)
    | inLanguage tagged => exact tagged
    | unnamed _ _untagged blank _same => exact absurd ⟨_, same.symm⟩ blank
    | text _ _untagged _particular plain _conforms =>
        exact absurd (Resource.iri.inj same).symm plain
  · exact .inLanguage

/-- The tests of conformance, in the order in which they are made, decide it. -/
theorem literalConforms_iff {literal : Literal} {datatype : Resource} :
    literalConforms literal datatype = true ↔ literal.Conforms datatype := by
  unfold literalConforms
  split
  · rename_i same
    rw [same]
    exact iff_of_true rfl .anything
  · rename_i particular
    split
    · rename_i same
      rw [same, Literal.conforms_langString_iff]
    · rename_i plain
      split
      · rename_i tagged
        exact iff_of_false Bool.false_ne_true
          (Literal.not_conforms_of_tagged tagged particular plain)
      · rename_i language
        have untagged : literal.language = none := Option.not_isSome_iff_eq_none.1 language
        cases datatype with
        | iri expected =>
            rw [textConforms_iff]
            constructor
            · exact .text expected untagged (fun same => particular (congrArg _ same))
                (fun same => plain (congrArg _ same))
            · intro conforms
              cases conforms with
              | anything => exact absurd rfl particular
              | inLanguage _tagged => exact absurd rfl plain
              | unnamed _ _untagged blank _same => exact absurd ⟨_, rfl⟩ blank
              | text _ _untagged _particular _plain conforms => exact conforms
        | blank label =>
            rw [beq_iff_eq, Literal.conforms_unnamed_iff untagged (fun ⟨_, same⟩ => by cases same)]
        | anonymous document node =>
            rw [beq_iff_eq, Literal.conforms_unnamed_iff untagged (fun ⟨_, same⟩ => by cases same)]

end OntologyLint
