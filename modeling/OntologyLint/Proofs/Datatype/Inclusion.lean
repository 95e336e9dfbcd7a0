import Mathlib.Data.List.TakeDrop
import Mathlib.Data.List.TakeWhile
import OntologyLint.Proofs.Datatype.Integer
import OntologyLint.Proofs.Text.Fields

set_option autoImplicit false

/-! Lexical spaces shrink along derivation: what a datatype accepts, its base accepts. Values follow,
for the bases above a datatype form one line, on which everything below it lies as well. -/

namespace OntologyLint

open Relation (ReflTransGen)

section Notations

variable {text : List Char}

theorem isDecimal_of_denotes {value : Int} (denotes : Denotes text value) :
    Notation.isDecimal text = true := by
  obtain ⟨numeral, _same⟩ := denotes_iff.1 denotes
  have digits := isNumeral_iff.2 numeral
  rw [Text.isNumeral, Bool.and_eq_true, List.all_eq_true] at digits
  obtain ⟨nonempty, decimal⟩ := digits
  have spanned : Text.spanDigits (Text.afterSign text) = (Text.afterSign text, []) := by
    rw [Text.spanDigits, List.span_eq_takeWhile_dropWhile, List.takeWhile_eq_self_iff.2 decimal,
      List.dropWhile_eq_nil_iff.2 decimal]
  rw [Notation.isDecimal, Notation.isUnsignedDecimal, spanned]
  exact nonempty

theorem alphanum_of_isLanguage (language : Notation.isLanguage text = true) :
    ∀ char ∈ text, char = '-' ∨ char.isAlphanum = true := by
  intro char member
  obtain ⟨primary, others, cut⟩ := Text.exists_fields '-' text
  rw [Notation.isLanguage, cut, Bool.and_eq_true, List.all_eq_true] at language
  obtain ⟨letters, groups⟩ := language
  rw [← Text.joinFields_fields '-' text, cut] at member
  refine (Text.mem_joinFields member).imp_right ?_
  intro found
  obtain ⟨field, among, within⟩ := found
  cases List.mem_cons.1 among with
  | inl first =>
      rw [Notation.isSubtag, Bool.and_eq_true, List.all_eq_true, ← first] at letters
      rw [Char.isAlphanum, letters.2 char within, Bool.true_or]
  | inr later =>
      have group := groups field later
      rw [Notation.isSubtag, Bool.and_eq_true, List.all_eq_true] at group
      exact group.2 char within

theorem not_hasDoubleSpace (spaceless : ' ' ∉ text) : hasDoubleSpace text = false := by
  fun_induction hasDoubleSpace text with
  | case1 rest => exact absurd List.mem_cons_self spaceless
  | case2 first rest _ ih => exact ih (fun later => spaceless (List.mem_cons_of_mem _ later))
  | case3 => rfl

theorem isToken_of_isLanguage (language : Notation.isLanguage text = true) :
    isToken text = true := by
  have visible {char : Char} (other : char ≠ '-') (blank : char.isAlphanum = false) :
      char ∉ text := by
    intro member
    have alphanum := (alphanum_of_isLanguage language char member).resolve_left other
    rw [blank] at alphanum
    cases alphanum
  have spaceless : ' ' ∉ text := visible (by decide) (by decide)
  have first : text.head? ≠ some ' ' := fun same => spaceless (List.mem_of_head? same)
  have last : text.getLast? ≠ some ' ' := fun same => spaceless (List.mem_of_getLast? same)
  have normalized : isNormalized text = true := by
    rw [isNormalized, Bool.not_eq_true', List.any_eq_false]
    intro char member control
    simp only [Bool.or_eq_true, beq_iff_eq] at control
    obtain (line | carriage) | tabulator := control
    · rw [line] at member
      exact visible (by decide) (by decide) member
    · rw [carriage] at member
      exact visible (by decide) (by decide) member
    · rw [tabulator] at member
      exact visible (by decide) (by decide) member
  simp [isToken, normalized, first, last, not_hasDoubleSpace spaceless]

end Notations

namespace KnownDatatype

variable {datatype base : KnownDatatype}

theorem integers?_subset (restricts : datatype.Restricts base) {inner outer : Set Int}
    (integers : datatype.integers? = some inner) (wider : base.integers? = some outer) :
    inner ⊆ outer := by
  cases datatype <;> cases restricts <;> cases integers <;> cases wider <;>
    first
    | exact Set.subset_univ _
    | intro value; simp only [Set.mem_Ici, Set.mem_Iic, Set.mem_Icc]; omega

theorem base_of_integers (restricts : datatype.Restricts base) {inner : Set Int}
    (integers : datatype.integers? = some inner) (other : base.integers? = none) :
    base = .decimal := by
  cases datatype <;> cases integers <;> cases restricts <;> first | rfl | cases other

theorem accepts_of_restricts (restricts : datatype.Restricts base) {text : List Char}
    (accepted : datatype.accepts text = true) : base.accepts text = true := by
  -- Above integers there are wider ranges and at last the decimals; the other bases are of texts.
  cases integers : datatype.integers? with
  | some inner =>
      obtain ⟨value, inside, denotes⟩ := (accepts_integer_iff integers).1 accepted
      cases wider : base.integers? with
      | some outer =>
          exact (accepts_integer_iff wider).2
            ⟨value, integers?_subset restricts integers wider inside, denotes⟩
      | none =>
          rw [base_of_integers restricts integers wider]
          exact isDecimal_of_denotes denotes
  | none =>
      cases datatype with
      | normalizedString => cases restricts; rfl
      | token =>
          cases restricts
          simp only [accepts, isToken, Bool.and_eq_true] at accepted
          exact accepted.1.1.1
      | language => cases restricts; exact isToken_of_isLanguage accepted
      | _ => cases restricts <;> cases integers

theorem accepts_of_path (path : ReflTransGen Restricts datatype base) {text : List Char}
    (accepted : datatype.accepts text = true) : base.accepts text = true := by
  induction path with
  | refl => exact accepted
  | tail _path restricts ih => exact accepts_of_restricts restricts ih

end KnownDatatype

theorem directlyDerived_rightUnique : Relator.RightUnique DirectlyDerived := by
  intro datatype base other first second
  obtain ⟨known, parent, named, parentNamed, restricts⟩ := first
  obtain ⟨same, otherParent, otherNamed, otherParentNamed, otherRestricts⟩ := second
  cases KnownDatatype.iri_injective (named.trans otherNamed.symm)
  cases Option.some.inj (restricts.symm.trans otherRestricts)
  exact parentNamed.symm.trans otherParentNamed

section Values

variable {lexical datatype base actual : String}

theorem TextConforms.of_derived (conforms : TextConforms lexical actual datatype)
    (derived : DerivedFrom datatype base) : TextConforms lexical actual base := by
  cases known_of_derivedFrom derived with
  | inl same => rw [← same]; exact conforms
  | inr chain =>
      obtain ⟨known, parent, named, parentNamed, path⟩ := chain
      constructor
      case related =>
        obtain plain | above | below := conforms.related
        · exact Or.inl plain
        · exact Or.inr (Or.inl (above.trans derived))
        · -- Both are above the datatype asked for, and what is above it is one line.
          exact Or.inr
            (ReflTransGen.total_of_right_unique directlyDerived_rightUnique derived below).symm
      case allowed => exact conforms.allowed
      case accepted =>
        intro other otherNamed
        cases KnownDatatype.iri_injective (otherNamed.trans parentNamed.symm)
        exact KnownDatatype.accepts_of_path path (conforms.accepted known named)
      case unknown => exact fun unknown => absurd parentNamed (unknown parent)

theorem KnownDatatype.iri_particular (known : KnownDatatype) :
    known.iri ≠ Rdfs.literal ∧ known.iri ≠ Rdf.langString := by
  have particular : ∀ known ∈ all, known.iri ≠ Rdfs.literal ∧ known.iri ≠ Rdf.langString := by
    decide +kernel
  exact particular known (mem_all known)

theorem Literal.Conforms.of_derived {literal : Literal}
    (conforms : literal.Conforms (.iri datatype)) (derived : DerivedFrom datatype base) :
    literal.Conforms (.iri base) := by
  cases known_of_derivedFrom derived with
  | inl same => rw [← same]; exact conforms
  | inr chain =>
      obtain ⟨known, parent, named, parentNamed, _path⟩ := chain
      cases conforms with
      | anything => exact absurd named known.iri_particular.1
      | inLanguage _tagged => exact absurd named known.iri_particular.2
      | unnamed _ _untagged blank _same => exact absurd ⟨_, rfl⟩ blank
      | text _ untagged _particular _plain conforms =>
          obtain ⟨particular, plain⟩ := parent.iri_particular
          rw [parentNamed] at particular plain
          exact .text base untagged particular plain (conforms.of_derived derived)

end Values

/-- A value of a datatype is a value of every base of it, and so is a lexical form. -/
theorem conformance_respects_derivation {datatype base : String}
    (derived : isDerivedFrom datatype base = true) :
    (∀ literal : Literal, literalConforms literal (.iri datatype) = true →
      literalConforms literal (.iri base) = true) ∧
    ∀ lexical : String, inLexicalSpace? lexical datatype = some true →
      inLexicalSpace? lexical base = some true := by
  rw [isDerivedFrom_iff] at derived
  constructor
  · intro literal conforms
    rw [literalConforms_iff] at conforms ⊢
    exact conforms.of_derived derived
  · intro lexical inside
    cases known_of_derivedFrom derived with
    | inl same => rw [← same]; exact inside
    | inr chain =>
        obtain ⟨known, parent, named, parentNamed, path⟩ := chain
        rw [inLexicalSpace?_known named, Option.some_inj] at inside
        rw [inLexicalSpace?_known parentNamed, KnownDatatype.accepts_of_path path inside]

theorem padded_byte_is_decimal :
    isDerivedFrom KnownDatatype.byte.iri KnownDatatype.decimal.iri = true ∧
      literalConforms ⟨"-0128", .iri KnownDatatype.int.iri, none⟩
        (.iri KnownDatatype.decimal.iri) = true ∧
      inLexicalSpace? "-0128" KnownDatatype.decimal.iri = some true := by
  have derived : isDerivedFrom KnownDatatype.byte.iri KnownDatatype.decimal.iri = true := by
    decide +kernel
  have respected := conformance_respects_derivation derived
  refine ⟨derived, respected.1 _ ?_, respected.2 _ ?_⟩
  · decide +kernel
  · decide +kernel

end OntologyLint
