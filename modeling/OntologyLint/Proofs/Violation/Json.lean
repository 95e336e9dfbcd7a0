import Mathlib.Data.List.Forall2
import OntologyLint.Proofs.Violation.Display
import OntologyLint.Proofs.Violation.Order
import OntologyLint.Violation.Json

set_option autoImplicit false

/-! The JSON form of a violation tells the violation. The order of the fields of an object is not read:
a field is looked up by its name, and fields that are left out are told by that. -/

namespace OntologyLint

/-- The same value, in whatever order the fields of objects stand. -/
inductive Json.Alike : Json → Json → Prop
  | null : Alike .null .null
  | boolean (value : Bool) : Alike (.boolean value) (.boolean value)
  | number (digits : String) : Alike (.number digits) (.number digits)
  | string (text : String) : Alike (.string text) (.string text)
  | list {items others : List Json} (same : List.Forall₂ Alike items others) :
      Alike (.list items) (.list others)
  | object {fields others : List (String × Json)}
      (names : ∀ name, (fields.lookup name).isSome = (others.lookup name).isSome)
      (values : ∀ name value other, fields.lookup name = some value →
        others.lookup name = some other → Alike value other) :
      Alike (.object fields) (.object others)

namespace Json

variable {fields others : List (String × Json)} {name : String} {item more : Json}

theorem sizeOf_lt_of_lookup (found : fields.lookup name = some item) :
    sizeOf item < sizeOf (Json.object fields) := by
  obtain ⟨earlier, later, rfl, _first⟩ := List.lookup_eq_some_iff.1 found
  have member : (name, item) ∈ earlier ++ (name, item) :: later := by simp
  have smaller := List.sizeOf_lt_of_mem member
  simp only [Prod.mk.sizeOf_spec] at smaller
  simp only [object.sizeOf_spec]
  omega

namespace Alike

theorem refl (json : Json) : Alike json json := by
  cases json with
  | null => exact .null
  | boolean value => exact .boolean value
  | number digits => exact .number digits
  | string text => exact .string text
  | list items => exact .list (List.forall₂_same.2 (fun item _member => refl item))
  | object fields =>
      refine .object (fun _ => rfl) ?_
      intro name item more first second
      cases first.symm.trans second
      exact refl item
termination_by sizeOf json
decreasing_by
  · have smaller := List.sizeOf_lt_of_mem _member
    simp only [list.sizeOf_spec]
    omega
  · exact sizeOf_lt_of_lookup first

theorem field (alike : Alike (.object fields) (.object others)) (name : String)
    (first : fields.lookup name = some item) (second : others.lookup name = some more) :
    Alike item more := by
  cases alike with
  | object _names values => exact values name item more first second

theorem isSome_lookup (alike : Alike (.object fields) (.object others)) (name : String) :
    (fields.lookup name).isSome = (others.lookup name).isSome := by
  cases alike with
  | object names _values => exact names name

/-- An object with one field tells its name. -/
theorem single_inj {another : String}
    (alike : Alike (.object [(name, item)]) (.object [(another, more)])) :
    name = another ∧ Alike item more := by
  have names : name = another := by
    have found := alike.isSome_lookup name
    by_contra other
    simp [List.lookup_cons, beq_eq_false_iff_ne.2 other] at found
  subst names
  exact ⟨rfl, alike.field name List.lookup_cons_self List.lookup_cons_self⟩

theorem string_inj {text shown : String} (alike : Alike (.string text) (.string shown)) :
    text = shown := by
  cases alike
  rfl

theorem number_inj {digits shown : String} (alike : Alike (.number digits) (.number shown)) :
    digits = shown := by
  cases alike
  rfl

theorem natural_inj {number count : Nat} (alike : Alike (natural number) (natural count)) :
    number = count :=
  Text.toList_toString_inj (congrArg String.toList alike.number_inj)

end Alike

end Json

section Terms

variable {mentioned : Set Resource} (unique : LabelsUnique mentioned)

include unique

theorem Resource.json_inj {one other : Resource} (among : one ∈ mentioned)
    (alsoAmong : other ∈ mentioned) (alike : one.json.Alike other.json) : one = other :=
  unique.injOn_display among alsoAmong alike.string_inj

theorem Literal.json_inj {one other : Literal} (among : one.datatype ∈ mentioned)
    (alsoAmong : other.datatype ∈ mentioned) (alike : one.json.Alike other.json) : one = other := by
  have lexicals := (alike.field "lexical" rfl rfl).string_inj
  have datatypes := Resource.json_inj unique among alsoAmong (alike.field "datatype" rfl rfl)
  have left := alike.isSome_lookup "language"
  refine Literal.ext lexicals datatypes ?_
  obtain ⟨lexical, datatype, language⟩ := one
  obtain ⟨otherLexical, otherDatatype, otherLanguage⟩ := other
  cases language with
  | none =>
      cases otherLanguage with
      | none => rfl
      | some tag => exact absurd left Bool.false_ne_true
  | some tag =>
      cases otherLanguage with
      | none => exact absurd left.symm Bool.false_ne_true
      | some otherTag => exact congrArg some (alike.field "language" rfl rfl).string_inj

theorem Object.json_inj {one other : Object} (named : ∀ resource ∈ one.resources, resource ∈ mentioned)
    (alsoNamed : ∀ resource ∈ other.resources, resource ∈ mentioned)
    (alike : one.json.Alike other.json) : one = other := by
  cases one with
  | resource value =>
      cases other with
      | resource otherValue =>
          exact congrArg Object.resource (Resource.json_inj unique (named _ List.mem_cons_self)
            (alsoNamed _ List.mem_cons_self) alike)
      | literal otherValue => cases alike
  | literal value =>
      cases other with
      | resource otherValue => cases alike
      | literal otherValue =>
          exact congrArg Object.literal (Literal.json_inj unique (named _ List.mem_cons_self)
            (alsoNamed _ List.mem_cons_self) alike)

theorem Triple.json_inj {one other : Triple} (named : ∀ resource ∈ one.resources, resource ∈ mentioned)
    (alsoNamed : ∀ resource ∈ other.resources, resource ∈ mentioned)
    (alike : one.json.Alike other.json) : one = other := by
  simp only [resources, List.forall_mem_cons] at named alsoNamed
  obtain ⟨subjectIn, predicateIn, objectIn⟩ := named
  obtain ⟨otherSubjectIn, otherPredicateIn, otherObjectIn⟩ := alsoNamed
  exact Triple.ext
    (Resource.json_inj unique subjectIn otherSubjectIn (alike.field "subject" rfl rfl))
    (Resource.json_inj unique predicateIn otherPredicateIn (alike.field "predicate" rfl rfl))
    (Object.json_inj unique objectIn otherObjectIn (alike.field "object" rfl rfl))

theorem Qualifier.json_inj {one other : Qualifier} (among : one.resource ∈ mentioned)
    (alsoAmong : other.resource ∈ mentioned) (alike : one.json.Alike other.json) : one = other := by
  cases one with
  | instances type =>
      cases other with
      | instances otherType =>
          have types := Resource.json_inj unique among alsoAmong alike.single_inj.2
          exact congrArg Qualifier.instances types
      | literals datatype => exact absurd alike.single_inj.1 (by decide)
  | literals datatype =>
      cases other with
      | instances type => exact absurd alike.single_inj.1 (by decide)
      | literals otherDatatype =>
          have datatypes := Resource.json_inj unique among alsoAmong alike.single_inj.2
          exact congrArg Qualifier.literals datatypes

end Terms

theorem Bound.json_inj {one other : Bound} (alike : one.json.Alike other.json) : one = other := by
  cases one <;> cases other <;> obtain ⟨names, counts⟩ := alike.single_inj
  case min.min => exact congrArg Bound.min counts.natural_inj
  case max.max => exact congrArg Bound.max counts.natural_inj
  case exact.exact => exact congrArg Bound.exact counts.natural_inj
  all_goals exact absurd names (by decide)

namespace Violation

variable {one other : Violation}

theorem kind_eq_of_json (alike : one.json.Alike other.json) : one.kind = other.kind :=
  ViolationKind.name_injective (alike.field "kind" rfl rfl).string_inj

variable {mentioned : Set Resource} (unique : LabelsUnique mentioned)

include unique

theorem expected_json_inj {triple more : Triple} {expected wanted : Resource}
    (named : ∀ resource ∈ expected :: triple.resources, resource ∈ mentioned)
    (alsoNamed : ∀ resource ∈ wanted :: more.resources, resource ∈ mentioned)
    (triples : triple.json.Alike more.json) (expecteds : expected.json.Alike wanted.json) :
    triple = more ∧ expected = wanted := by
  obtain ⟨expectedIn, tripleIn⟩ := List.forall_mem_cons.1 named
  obtain ⟨wantedIn, moreIn⟩ := List.forall_mem_cons.1 alsoNamed
  exact ⟨Triple.json_inj unique tripleIn moreIn triples,
    Resource.json_inj unique expectedIn wantedIn expecteds⟩

theorem qualifier_json_inj {resource property another named : Resource} {bound limit : Bound}
    {actual number : Nat} {qualifier wanted : Option Qualifier}
    (among : ∀ resource ∈ qualifier.toList.map Qualifier.resource, resource ∈ mentioned)
    (alsoAmong : ∀ resource ∈ wanted.toList.map Qualifier.resource, resource ∈ mentioned)
    (alike : (cardinalityMismatch resource property bound qualifier actual).json.Alike
      (cardinalityMismatch another named limit wanted number).json) :
    qualifier = wanted ∧ actual = number := by
  have left := alike.isSome_lookup "qualifier"
  cases qualifier with
  | none =>
      cases wanted with
      | none => exact ⟨rfl, (alike.field "actual" rfl rfl).natural_inj⟩
      | some wanted => exact absurd left Bool.false_ne_true
  | some qualifier =>
      cases wanted with
      | none => exact absurd left.symm Bool.false_ne_true
      | some wanted =>
          have qualifiers := Qualifier.json_inj unique (among _ List.mem_cons_self)
            (alsoAmong _ List.mem_cons_self) (alike.field "qualifier" rfl rfl)
          exact ⟨congrArg some qualifiers, (alike.field "actual" rfl rfl).natural_inj⟩

theorem json_inj (named : ∀ resource ∈ one.resources, resource ∈ mentioned)
    (alsoNamed : ∀ resource ∈ other.resources, resource ∈ mentioned)
    (alike : one.json.Alike other.json) : one = other := by
  have kinds := kind_eq_of_json alike
  cases one with
  | domainMismatch triple expected =>
      cases other with
      | domainMismatch more wanted =>
          obtain ⟨rfl, rfl⟩ := expected_json_inj unique named alsoNamed
            (alike.field "triple" rfl rfl) (alike.field "expected" rfl rfl)
          rfl
      | _ => cases kinds
  | rangeMismatch triple expected =>
      cases other with
      | rangeMismatch more wanted =>
          obtain ⟨rfl, rfl⟩ := expected_json_inj unique named alsoNamed
            (alike.field "triple" rfl rfl) (alike.field "expected" rfl rfl)
          rfl
      | _ => cases kinds
  | datatypeMismatch triple expected =>
      cases other with
      | datatypeMismatch more wanted =>
          obtain ⟨rfl, rfl⟩ := expected_json_inj unique named alsoNamed
            (alike.field "triple" rfl rfl) (alike.field "expected" rfl rfl)
          rfl
      | _ => cases kinds
  | disjointMembership resource classes =>
      cases other with
      | disjointMembership another others =>
          simp only [resources, List.forall_mem_cons] at named alsoNamed
          obtain ⟨resourceIn, firstIn, secondIn, _⟩ := named
          obtain ⟨anotherIn, otherFirstIn, otherSecondIn, _⟩ := alsoNamed
          have pairs := alike.field "classes" rfl rfl
          have subjects :=
            Resource.json_inj unique resourceIn anotherIn (alike.field "resource" rfl rfl)
          have firsts := Resource.json_inj unique firstIn otherFirstIn (pairs.field "first" rfl rfl)
          have seconds :=
            Resource.json_inj unique secondIn otherSecondIn (pairs.field "second" rfl rfl)
          rw [subjects, DisjointPair.ext firsts seconds]
      | _ => cases kinds
  | cardinalityMismatch resource property bound qualifier actual =>
      cases other with
      | cardinalityMismatch another shown limit wanted number =>
          simp only [resources, List.forall_mem_cons] at named alsoNamed
          obtain ⟨resourceIn, propertyIn, qualifierIn⟩ := named
          obtain ⟨anotherIn, shownIn, wantedIn⟩ := alsoNamed
          obtain ⟨qualifiers, actuals⟩ := qualifier_json_inj unique qualifierIn wantedIn alike
          rw [Resource.json_inj unique resourceIn anotherIn (alike.field "resource" rfl rfl),
            Resource.json_inj unique propertyIn shownIn (alike.field "property" rfl rfl),
            Bound.json_inj (alike.field "bound" rfl rfl), qualifiers, actuals]
      | _ => cases kinds

end Violation

/-- Violations with one JSON form are one violation, in whatever order the fields stand, where every
node has a label of its own or no two nodes without one share the label that is made up for them. -/
theorem json_tells_violations (one other : Violation)
    (told : (∀ resource ∈ one.resources ++ other.resources, resource.node? = none) ∨
      LabelsUnique {resource | resource ∈ one.resources ++ other.resources}) :
    one.json.Alike other.json ↔ one = other := by
  have unique := told.elim labelsUnique_of_labeled id
  constructor
  · exact Violation.json_inj unique (fun _ => List.mem_append_left _)
      (fun _ => List.mem_append_right _)
  · rintro rfl
    exact Json.Alike.refl _

open Violation in
theorem json_tells_qualifiers :
    (∀ resource ∈ lacksMember.resources ++ lacksLiteral.resources, resource.node? = none) ∧
      ¬lacksMember.json.Alike lacksLiteral.json := by
  have labeled : ∀ resource ∈ lacksMember.resources ++ lacksLiteral.resources,
      resource.node? = none := by decide
  exact ⟨labeled, (json_tells_violations lacksMember lacksLiteral (Or.inl labeled)).not.2
    (by decide)⟩

end OntologyLint
