import OntologyLint.Proofs.Term.Display
import OntologyLint.Violation.Basic

set_option autoImplicit false

/-! Messages can be read back, as long as no space stands inside an identifier or a language tag. The
first words of a message tell the kind of its violation, and every term in it ends at the first space
after its beginning, or after its closing quote. Only the kind of a qualifier is not shown. -/

namespace OntologyLint

variable {mentioned : Set Resource} {written : Set Literal} {rest tail : List Char}

/-- The terms can be told apart in a line of text: labels are not shared, and no space stands inside an
identifier or a language tag. -/
structure Legible (mentioned : Set Resource) (written : Set Literal) : Prop where
  unique : LabelsUnique mentioned
  unspaced : ∀ resource ∈ mentioned, ' ' ∉ resource.text.toList
  tagged : ∀ literal ∈ written, ∀ tag, literal.language = some tag → ' ' ∉ tag.toList

def Object.Within (mentioned : Set Resource) (written : Set Literal) (object : Object) : Prop :=
  (∀ resource ∈ object.resources, resource ∈ mentioned) ∧
    ∀ literal, object = .literal literal → literal ∈ written

def Triple.Within (mentioned : Set Resource) (written : Set Literal) (triple : Triple) : Prop :=
  (∀ resource ∈ triple.resources, resource ∈ mentioned) ∧
    ∀ literal, triple.object = .literal literal → literal ∈ written

theorem Triple.Within.object {triple : Triple} (within : triple.Within mentioned written) :
    triple.object.Within mentioned written :=
  ⟨fun resource member =>
    within.1 resource (List.mem_cons_of_mem _ (List.mem_cons_of_mem _ member)), within.2⟩

theorem Triple.Within.subject {triple : Triple} (within : triple.Within mentioned written) :
    (Object.resource triple.subject).Within mentioned written := by
  refine ⟨fun resource member => ?_, fun literal same => nomatch same⟩
  rw [List.mem_singleton.1 member]
  exact within.1 triple.subject List.mem_cons_self

theorem Resource.space_not_mem_display {resource : Resource}
    (unspaced : ' ' ∉ resource.text.toList) : ' ' ∉ resource.display.toList := by
  cases resource <;> simpa [display, text] using unspaced

theorem Literal.space_not_mem_displaySuffix {literal : Literal}
    (datatype : ' ' ∉ literal.datatype.text.toList)
    (tagged : ∀ tag, literal.language = some tag → ' ' ∉ tag.toList) :
    ' ' ∉ literal.displaySuffix.toList := by
  have shown := Resource.space_not_mem_display datatype
  unfold displaySuffix
  split
  · rename_i tag language
    simpa using tagged tag language
  · split
    · simp
    · simpa using shown

namespace Legible

variable (legible : Legible mentioned written)

include legible

theorem resource_eq {one other : Resource} (among : one ∈ mentioned) (alsoAmong : other ∈ mentioned)
    (same : one.display.toList = other.display.toList) : one = other :=
  legible.unique.injOn_display among alsoAmong (String.toList_inj.1 same)

theorem cut_resource {one other : Resource} (among : one ∈ mentioned)
    (alsoAmong : other ∈ mentioned)
    (same : one.display.toList ++ ' ' :: rest = other.display.toList ++ ' ' :: tail) :
    one = other ∧ rest = tail := by
  obtain ⟨shown, rests⟩ := (Text.append_separator_inj
    (Resource.space_not_mem_display (legible.unspaced one among))
    (Resource.space_not_mem_display (legible.unspaced other alsoAmong))).1 same
  exact ⟨legible.resource_eq among alsoAmong shown, rests⟩

theorem cut_object {one other : Object} (fits : ∀ literal ∈ written, literal.TagFits)
    (within : one.Within mentioned written)
    (alsoWithin : other.Within mentioned written)
    (same : one.display.toList ++ ' ' :: rest = other.display.toList ++ ' ' :: tail) :
    one = other ∧ rest = tail := by
  rw [Object.display_eq_displayBy, Object.display_eq_displayBy] at same
  cases one with
  | resource value =>
      cases other with
      | resource otherValue =>
          obtain ⟨values, rests⟩ := legible.cut_resource
            (within.1 value List.mem_cons_self) (alsoWithin.1 otherValue List.mem_cons_self) same
          exact ⟨congrArg Object.resource values, rests⟩
      | literal otherValue => exact absurd same Literal.display_resource_ne_displayBy
  | literal value =>
      cases other with
      | resource otherValue => exact absurd same.symm Literal.display_resource_ne_displayBy
      | literal otherValue =>
          have named := within.1 value.datatype List.mem_cons_self
          have alsoNamed := alsoWithin.1 otherValue.datatype List.mem_cons_self
          obtain ⟨lexicals, ends⟩ := Literal.displayBy_append_inj same
          obtain ⟨suffixes, rests⟩ := (Text.append_separator_inj
            (Literal.space_not_mem_displaySuffix (legible.unspaced _ named)
              (legible.tagged value (within.2 value rfl)))
            (Literal.space_not_mem_displaySuffix (legible.unspaced _ alsoNamed)
              (legible.tagged otherValue (alsoWithin.2 otherValue rfl)))).1 ends
          obtain ⟨datatypes, languages⟩ := Literal.displaySuffix_inj
            (fits value (within.2 value rfl)) (fits otherValue (alsoWithin.2 otherValue rfl))
            (legible.unique.injOn_display named alsoNamed) (String.toList_inj.1 suffixes)
          exact ⟨congrArg Object.literal (Literal.ext lexicals datatypes languages), rests⟩

theorem cut_triple {one other : Triple} (fits : ∀ literal ∈ written, literal.TagFits)
    (within : one.Within mentioned written)
    (alsoWithin : other.Within mentioned written)
    (same : one.display.toList ++ rest = other.display.toList ++ tail) :
    one = other ∧ rest = tail := by
  simp only [Triple.display, String.toList_append, String.reduceToList, List.append_assoc,
    List.cons_append, List.nil_append] at same
  obtain ⟨subjects, afterSubject⟩ := legible.cut_resource (within.1 _ List.mem_cons_self)
    (alsoWithin.1 _ List.mem_cons_self) same
  obtain ⟨predicates, afterPredicate⟩ := legible.cut_resource
    (within.1 _ (List.mem_cons_of_mem _ List.mem_cons_self))
    (alsoWithin.1 _ (List.mem_cons_of_mem _ List.mem_cons_self)) afterSubject
  obtain ⟨objects, afterObject⟩ := legible.cut_object fits within.object alsoWithin.object afterPredicate
  exact ⟨Triple.ext subjects predicates objects, (List.cons.inj afterObject).2⟩

end Legible

theorem DisjointPair.ext {one other : DisjointPair} (firsts : one.first = other.first)
    (seconds : one.second = other.second) : one = other := by
  cases one; cases other; simp_all

theorem Bound.display_injective : Function.Injective Bound.display := by
  intro one other same
  have shown := congrArg String.toList same
  cases one <;> cases other <;>
    simp only [display, String.toList_append, String.reduceToList, List.cons_append,
      List.nil_append, List.cons.injEq, true_and, Char.reduceEq, false_and] at shown
  case min.min => exact congrArg Bound.min (Text.toList_toString_inj shown)
  case max.max => exact congrArg Bound.max (Text.toList_toString_inj shown)
  case exact.exact => exact congrArg Bound.exact (Text.toList_toString_inj shown)

namespace Violation

def resources : Violation → List Resource
  | .domainMismatch triple expected => expected :: triple.resources
  | .rangeMismatch triple expected => expected :: triple.resources
  | .disjointMembership resource classes => [resource, classes.first, classes.second]
  | .datatypeMismatch triple expected => expected :: triple.resources
  | .cardinalityMismatch resource property _bound qualifier _actual =>
      resource :: property :: qualifier.toList.map Qualifier.resource

def Within (mentioned : Set Resource) (written : Set Literal) (violation : Violation) : Prop :=
  (∀ resource ∈ violation.resources, resource ∈ mentioned) ∧
    ∀ triple literal, violation.triple? = some triple → triple.object = .literal literal →
      literal ∈ written

/-- The first words of a message. -/
def opening : Violation → List (List Char)
  | .domainMismatch .. => ["subject".toList]
  | .rangeMismatch .. => ["object".toList]
  | .disjointMembership resource _ => [resource.display.toList, "is".toList]
  | .datatypeMismatch .. => ["literal".toList]
  | .cardinalityMismatch resource .. => [resource.display.toList, "has".toList]

/-- The kind that the words of a message tell. -/
def kindOfWords (words : List (List Char)) : ViolationKind :=
  if words[0]? = some "subject".toList then .domainMismatch
  else if words[0]? = some "object".toList then .rangeMismatch
  else if words[0]? = some "literal".toList then .datatypeMismatch
  else if words[1]? = some "is".toList then .disjointMembership
  else .cardinalityMismatch

theorem fields_word (word : String) (absent : ' ' ∉ word.toList) :
    Text.fields ' ' (word.toList ++ ' ' :: rest) = [word.toList] ++ Text.fields ' ' rest :=
  Text.fields_append absent rest

theorem exists_fields_display {violation : Violation}
    (unspaced : ∀ resource ∈ violation.resources, ' ' ∉ resource.text.toList) :
    ∃ others, Text.fields ' ' violation.display.toList = violation.opening ++ others := by
  cases violation <;>
    simp only [display, String.toList_append, String.reduceToList, List.append_assoc,
      List.cons_append, List.nil_append]
  case domainMismatch => exact ⟨_, fields_word "subject" (by decide)⟩
  case rangeMismatch => exact ⟨_, fields_word "object" (by decide)⟩
  case datatypeMismatch => exact ⟨_, fields_word "literal" (by decide)⟩
  case disjointMembership resource classes =>
      have absent := Resource.space_not_mem_display (unspaced resource List.mem_cons_self)
      rw [Text.fields_append absent]
      exact ⟨_, congrArg _ (fields_word "is" (by decide))⟩
  case cardinalityMismatch resource property bound qualifier actual =>
      have absent := Resource.space_not_mem_display (unspaced resource List.mem_cons_self)
      rw [Text.fields_append absent]
      exact ⟨_, congrArg _ (fields_word "has" (by decide))⟩

theorem kindOfWords_opening (violation : Violation) (others : List (List Char)) :
    kindOfWords (violation.opening ++ others) = violation.kind := by
  cases violation with
  | domainMismatch => rfl
  | rangeMismatch => rfl
  | datatypeMismatch => rfl
  | disjointMembership resource classes =>
      cases resource <;> simp [kindOfWords, opening, Resource.display, kind]
  | cardinalityMismatch resource property bound qualifier actual =>
      cases resource <;> simp [kindOfWords, opening, Resource.display, kind]

theorem kind_eq_of_display {one other : Violation}
    (unspaced : ∀ resource ∈ one.resources, ' ' ∉ resource.text.toList)
    (alsoUnspaced : ∀ resource ∈ other.resources, ' ' ∉ resource.text.toList)
    (same : one.display = other.display) : one.kind = other.kind := by
  obtain ⟨others, words⟩ := exists_fields_display unspaced
  obtain ⟨more, otherWords⟩ := exists_fields_display alsoUnspaced
  rw [← kindOfWords_opening one others, ← words, same, otherWords, kindOfWords_opening]

/-- One violation counts instances of a class, and the other one the literals of a datatype of the same
name. -/
inductive DifferInQualifier : Violation → Violation → Prop
  | intro (resource property shared : Resource) (bound : Bound) (actual : Nat) :
      DifferInQualifier
        (.cardinalityMismatch resource property bound (some (.instances shared)) actual)
        (.cardinalityMismatch resource property bound (some (.literals shared)) actual)

/-- Lacks what `lacksLiteral` lacks, up to the kind of the qualifier. -/
def lacksMember : Violation :=
  .cardinalityMismatch (.iri "ann") (.iri "part") (.min 1) (some (.instances (.iri "Part"))) 0

def lacksLiteral : Violation :=
  .cardinalityMismatch (.iri "ann") (.iri "part") (.min 1) (some (.literals (.iri "Part"))) 0

theorem DifferInQualifier.display_eq {one other : Violation} (differ : one.DifferInQualifier other) :
    one.display = other.display := by
  cases differ
  rfl

theorem same_or_differInQualifier {resource property : Resource} {bound : Bound} {actual : Nat}
    {one other : Option Qualifier}
    (same : one.map Qualifier.resource = other.map Qualifier.resource) :
    cardinalityMismatch resource property bound one actual =
        cardinalityMismatch resource property bound other actual ∨
      DifferInQualifier (cardinalityMismatch resource property bound one actual)
        (cardinalityMismatch resource property bound other actual) ∨
      DifferInQualifier (cardinalityMismatch resource property bound other actual)
        (cardinalityMismatch resource property bound one actual) := by
  rcases one with _ | (shared | shared)
  · rw [Option.map_eq_none_iff.1 same.symm]
    exact Or.inl rfl
  · rcases other with _ | (other | other)
    · cases same
    · cases same
      exact Or.inl rfl
    · cases same
      exact Or.inr (Or.inl (.intro resource property shared bound actual))
  · rcases other with _ | (other | other)
    · cases same
    · cases same
      exact Or.inr (Or.inr (.intro resource property shared bound actual))
    · cases same
      exact Or.inl rfl

end Violation

/-- The text before a bound, cut at the space before the last word. -/
theorem expected_append (shown later : List Char) :
    shown ++ (", expected ".toList ++ later) =
      (shown ++ [',']) ++ ' ' :: ("expected ".toList ++ later) := by
  have mark : ", expected ".toList = ',' :: ' ' :: "expected ".toList := rfl
  rw [mark, List.append_assoc]
  rfl

theorem qualified_append (property : Resource) (qualifier : Qualifier) (later : List Char) :
    (Restriction.subjectText property (some qualifier)).toList ++ later =
      property.display.toList ++ ' ' ::
        ("in ".toList ++ (qualifier.resource.display.toList ++ later)) := by
  have link : " in ".toList = ' ' :: "in ".toList := rfl
  simp only [Restriction.subjectText, Qualifier.display, String.toList_append, link,
    List.append_assoc, List.cons_append]

namespace Legible

variable (legible : Legible mentioned written)

include legible

/-- A message about a triple shows one of its terms, the whole triple and then what it lacks. -/
theorem cut_message {word middle : String} {term another : Object} {triple more : Triple}
    {expected wanted : Resource} (fits : ∀ literal ∈ written, literal.TagFits)
    (named : term.Within mentioned written) (alsoNamed : another.Within mentioned written)
    (within : triple.Within mentioned written) (alsoWithin : more.Within mentioned written)
    (among : expected ∈ mentioned) (alsoAmong : wanted ∈ mentioned)
    (same : word ++ term.display ++ " of `" ++ triple.display ++ middle ++ expected.display =
      word ++ another.display ++ " of `" ++ more.display ++ middle ++ wanted.display) :
    triple = more ∧ expected = wanted := by
  have mark : " of `".toList = ' ' :: "of `".toList := rfl
  have shown := congrArg String.toList same
  simp only [String.toList_append, List.append_assoc, List.append_cancel_left_eq, mark,
    List.cons_append] at shown
  obtain ⟨_terms, afterTerm⟩ := legible.cut_object fits named alsoNamed shown
  obtain ⟨triples, afterTriple⟩ :=
    legible.cut_triple fits within alsoWithin (List.append_cancel_left afterTerm)
  exact ⟨triples, legible.resource_eq among alsoAmong (List.append_cancel_left afterTriple)⟩

theorem space_not_mem {resource : Resource} (member : resource ∈ mentioned) :
    ' ' ∉ resource.display.toList :=
  Resource.space_not_mem_display (legible.unspaced resource member)

theorem space_not_mem_comma {resource : Resource} (member : resource ∈ mentioned) :
    ' ' ∉ resource.display.toList ++ [','] := by
  simpa using legible.space_not_mem member

/-- A resource ends at the comma before the bound. -/
theorem cut_before_bound {one other : Resource} (among : one ∈ mentioned)
    (alsoAmong : other ∈ mentioned)
    (same : one.display.toList ++ (", expected ".toList ++ rest) =
      other.display.toList ++ (", expected ".toList ++ tail)) : one = other ∧ rest = tail := by
  rw [expected_append, expected_append] at same
  obtain ⟨shown, ends⟩ := (Text.append_separator_inj (legible.space_not_mem_comma among)
    (legible.space_not_mem_comma alsoAmong)).1 same
  exact ⟨legible.resource_eq among alsoAmong (List.append_cancel_right shown),
    List.append_cancel_left ends⟩

/-- Only where there is a qualifier, a space follows the property at once. -/
theorem unqualified_ne_qualified {property more : Resource} {qualifier : Qualifier}
    (among : property ∈ mentioned) (alsoAmong : more ∈ mentioned) :
    (Restriction.subjectText property none).toList ++ (", expected ".toList ++ rest) ≠
      (Restriction.subjectText more (some qualifier)).toList ++ (", expected ".toList ++ tail) := by
  intro same
  rw [expected_append, qualified_append] at same
  obtain ⟨_names, ends⟩ := (Text.append_separator_inj (legible.space_not_mem_comma among)
    (legible.space_not_mem alsoAmong)).1 same
  simp at ends

/-- What is counted is told up to the kind of the qualifier. -/
theorem cut_subjectText {property more : Resource} {one other : Option Qualifier}
    (among : property ∈ mentioned) (alsoAmong : more ∈ mentioned)
    (named : ∀ qualifier, one = some qualifier → qualifier.resource ∈ mentioned)
    (alsoNamed : ∀ qualifier, other = some qualifier → qualifier.resource ∈ mentioned)
    (same : (Restriction.subjectText property one).toList ++ (", expected ".toList ++ rest) =
      (Restriction.subjectText more other).toList ++ (", expected ".toList ++ tail)) :
    property = more ∧ one.map Qualifier.resource = other.map Qualifier.resource ∧ rest = tail := by
  cases one with
  | none =>
      cases other with
      | none =>
          obtain ⟨properties, ends⟩ := legible.cut_before_bound among alsoAmong same
          exact ⟨properties, rfl, ends⟩
      | some other => exact absurd same (legible.unqualified_ne_qualified among alsoAmong)
  | some one =>
      cases other with
      | none => exact absurd same.symm (legible.unqualified_ne_qualified alsoAmong among)
      | some other =>
          rw [qualified_append, qualified_append] at same
          obtain ⟨properties, afterProperty⟩ := legible.cut_resource among alsoAmong same
          obtain ⟨qualifiers, ends⟩ := legible.cut_before_bound (named one rfl) (alsoNamed other rfl)
            (List.append_cancel_left afterProperty)
          exact ⟨properties, congrArg some qualifiers, ends⟩

end Legible

namespace Violation

variable {statement more : Triple} {expected wanted resource another property named : Resource}
  {bound limit : Bound} {actual number : Nat} {one other : Option Qualifier}

theorem Within.triple {violation : Violation} (within : violation.Within mentioned written)
    (shown : violation.triple? = some statement) : statement.Within mentioned written := by
  refine ⟨fun resource member => within.1 resource ?_,
    fun literal => within.2 statement literal shown⟩
  cases violation <;> cases shown <;> exact List.mem_cons_of_mem _ member

section Messages

variable (legible : Legible mentioned written)

include legible

theorem disjointMembership_inj {classes others : DisjointPair}
    (within : (disjointMembership resource classes).Within mentioned written)
    (alsoWithin : (disjointMembership another others).Within mentioned written)
    (same : (disjointMembership resource classes).display =
      (disjointMembership another others).display) :
    disjointMembership resource classes = disjointMembership another others := by
  have verb : " is an instance of disjoint classes ".toList =
      ' ' :: "is an instance of disjoint classes ".toList := rfl
  have link : " and ".toList = ' ' :: "and ".toList := rfl
  simp only [Within, resources, List.forall_mem_cons] at within alsoWithin
  obtain ⟨⟨resourceIn, firstIn, secondIn, _⟩, _⟩ := within
  obtain ⟨⟨anotherIn, otherFirstIn, otherSecondIn, _⟩, _⟩ := alsoWithin
  have shown := congrArg String.toList same
  simp only [display, String.toList_append, List.append_assoc, verb, link, List.cons_append] at shown
  obtain ⟨subjects, afterSubject⟩ := legible.cut_resource resourceIn anotherIn shown
  obtain ⟨firsts, afterFirst⟩ :=
    legible.cut_resource firstIn otherFirstIn (List.append_cancel_left afterSubject)
  have seconds :=
    legible.resource_eq secondIn otherSecondIn (List.append_cancel_left afterFirst)
  rw [subjects, DisjointPair.ext firsts seconds]

theorem cardinalityMismatch_inj
    (within : (cardinalityMismatch resource property bound one actual).Within mentioned written)
    (alsoWithin : (cardinalityMismatch another named limit other number).Within mentioned written)
    (same : (cardinalityMismatch resource property bound one actual).display =
      (cardinalityMismatch another named limit other number).display) :
    resource = another ∧ property = named ∧ bound = limit ∧ actual = number ∧
      one.map Qualifier.resource = other.map Qualifier.resource := by
  have verb : " has ".toList = ' ' :: "has ".toList := rfl
  have noun : " value(s) for ".toList = ' ' :: "value(s) for ".toList := rfl
  simp only [Within, resources, List.forall_mem_cons] at within alsoWithin
  obtain ⟨⟨resourceIn, propertyIn, qualifierIn⟩, _⟩ := within
  obtain ⟨⟨anotherIn, namedIn, otherQualifierIn⟩, _⟩ := alsoWithin
  have shown := congrArg String.toList same
  simp only [display, String.toList_append, List.append_assoc, verb, noun, List.cons_append] at shown
  obtain ⟨subjects, afterSubject⟩ := legible.cut_resource resourceIn anotherIn shown
  obtain ⟨numerals, afterNumber⟩ := (Text.append_separator_inj Text.space_not_mem_toString
    Text.space_not_mem_toString).1 (List.append_cancel_left afterSubject)
  obtain ⟨properties, qualifiers, bounds⟩ := legible.cut_subjectText propertyIn namedIn
    (fun qualifier given => qualifierIn _ (by simp [given]))
    (fun qualifier given => otherQualifierIn _ (by simp [given]))
    (List.append_cancel_left afterNumber)
  exact ⟨subjects, properties, Bound.display_injective (String.toList_inj.1 bounds),
    Text.toList_toString_inj numerals, qualifiers⟩

end Messages

/-- Two messages read the same only if the violations are the same up to the kind of a qualifier. -/
theorem display_eq_iff {violation others : Violation} (legible : Legible mentioned written)
    (fits : ∀ literal ∈ written, literal.TagFits) (within : violation.Within mentioned written)
    (alsoWithin : others.Within mentioned written) :
    violation.display = others.display ↔
      violation = others ∨ violation.DifferInQualifier others ∨
        others.DifferInQualifier violation := by
  constructor
  · intro same
    have kinds : violation.kind = others.kind :=
      kind_eq_of_display (fun resource member => legible.unspaced resource (within.1 resource member))
        (fun resource member => legible.unspaced resource (alsoWithin.1 resource member)) same
    cases violation with
    | domainMismatch triple expected =>
        cases others with
        | domainMismatch more wanted =>
            obtain ⟨rfl, rfl⟩ := legible.cut_message fits (within.triple rfl).subject
              (alsoWithin.triple rfl).subject (within.triple rfl) (alsoWithin.triple rfl)
              (within.1 expected List.mem_cons_self) (alsoWithin.1 wanted List.mem_cons_self) same
            exact Or.inl rfl
        | _ => cases kinds
    | rangeMismatch triple expected =>
        cases others with
        | rangeMismatch more wanted =>
            obtain ⟨rfl, rfl⟩ := legible.cut_message fits (within.triple rfl).object
              (alsoWithin.triple rfl).object (within.triple rfl) (alsoWithin.triple rfl)
              (within.1 expected List.mem_cons_self) (alsoWithin.1 wanted List.mem_cons_self) same
            exact Or.inl rfl
        | _ => cases kinds
    | disjointMembership resource classes =>
        cases others with
        | disjointMembership another pair =>
            exact Or.inl (disjointMembership_inj legible within alsoWithin same)
        | _ => cases kinds
    | datatypeMismatch triple expected =>
        cases others with
        | datatypeMismatch more wanted =>
            obtain ⟨rfl, rfl⟩ := legible.cut_message fits (within.triple rfl).object
              (alsoWithin.triple rfl).object (within.triple rfl) (alsoWithin.triple rfl)
              (within.1 expected List.mem_cons_self) (alsoWithin.1 wanted List.mem_cons_self) same
            exact Or.inl rfl
        | _ => cases kinds
    | cardinalityMismatch resource property bound qualifier actual =>
        cases others with
        | cardinalityMismatch another named limit wanted number =>
            obtain ⟨rfl, rfl, rfl, rfl, qualifiers⟩ :=
              cardinalityMismatch_inj legible within alsoWithin same
            exact same_or_differInQualifier qualifiers
        | _ => cases kinds
  · rintro (rfl | differ | differ)
    · rfl
    · exact differ.display_eq
    · exact differ.display_eq.symm

end Violation

end OntologyLint
