import Mathlib.Data.Set.Function
import OntologyLint.Proofs.Graph.Facts
import OntologyLint.Proofs.Text.Quoted
import OntologyLint.Term.Display

set_option autoImplicit false

/-! Terms are told apart by how they are shown. IRIs, blank nodes and literals begin with different
marks, and the language or the datatype of a literal follows its closing quote. Nodes without a name are
shown by labels that are made up for them, so they are told apart as long as no two nodes share a
label. -/

namespace OntologyLint

variable {mentioned : Set Resource} {visible : Char → Bool} {rest tail : List Char}

/-- No two nodes are shown by one label. Nodes with labels of their own never are. -/
def LabelsUnique (mentioned : Set Resource) : Prop :=
  Set.InjOn Resource.text {resource ∈ mentioned | resource.isBlank = true}

theorem labelsUnique_of_labeled (labeled : ∀ resource ∈ mentioned, resource.node? = none) :
    LabelsUnique mentioned := by
  rintro one ⟨oneMentioned, oneBlank⟩ other ⟨otherMentioned, otherBlank⟩ same
  have oneLabeled := labeled one oneMentioned
  have otherLabeled := labeled other otherMentioned
  cases one <;> cases other <;> simp_all [Resource.isBlank, Resource.text, Resource.node?]

namespace Resource

variable {one other : Resource}

theorem display_of_isBlank (blank : one.isBlank = true) : one.display = "_:" ++ one.text := by
  cases one with
  | iri text => cases blank
  | blank label => rfl
  | anonymous document node => rfl

theorem display_iri_ne {text : String} (blank : one.isBlank = true) :
    (iri text).display ≠ one.display := by
  intro same
  have marks := congrArg (fun shown => shown.toList.head?) same
  rw [display_of_isBlank blank] at marks
  simp [display] at marks

theorem display_ne_quote : one.display.toList ++ rest ≠ '"' :: tail := by
  intro same
  have marks := congrArg List.head? same
  cases one <;> simp [display] at marks

end Resource

/-- Resources are told apart by how they are shown. -/
theorem LabelsUnique.injOn_display (unique : LabelsUnique mentioned) :
    Set.InjOn Resource.display mentioned := by
  intro one oneMentioned other otherMentioned same
  cases oneBlank : one.isBlank with
  | false =>
      obtain ⟨text, rfl⟩ := (Resource.isIri_iff one).2 oneBlank
      cases otherBlank : other.isBlank with
      | false =>
          obtain ⟨more, rfl⟩ := (Resource.isIri_iff other).2 otherBlank
          have texts : text = more := by simpa [Resource.display] using same
          rw [texts]
      | true => exact absurd same (Resource.display_iri_ne otherBlank)
  | true =>
      cases otherBlank : other.isBlank with
      | false =>
          obtain ⟨more, rfl⟩ := (Resource.isIri_iff other).2 otherBlank
          exact absurd same.symm (Resource.display_iri_ne oneBlank)
      | true =>
          rw [Resource.display_of_isBlank oneBlank, Resource.display_of_isBlank otherBlank] at same
          have texts : one.text = other.text := by simpa using same
          exact unique ⟨oneMentioned, oneBlank⟩ ⟨otherMentioned, otherBlank⟩ texts

def Object.resources : Object → List Resource
  | .resource value => [value]
  | .literal value => [value.datatype]

namespace Triple

def resources (triple : Triple) : List Resource :=
  triple.subject :: triple.predicate :: triple.object.resources

theorem ext {one other : Triple} (subjects : one.subject = other.subject)
    (predicates : one.predicate = other.predicate) (objects : one.object = other.object) :
    one = other := by
  cases one; cases other; simp_all

end Triple

namespace Literal

variable {one other : Literal}

def displayBy (visible : Char → Bool) (literal : Literal) : String :=
  Text.quotedBy visible literal.lexical ++ literal.displaySuffix

/-- Texts in a language have the datatype that is for them alone. -/
def TagFits (literal : Literal) : Prop :=
  literal.language.isSome = true → literal.datatype = .iri Rdf.langString

theorem ext (lexicals : one.lexical = other.lexical) (datatypes : one.datatype = other.datatype)
    (languages : one.language = other.language) : one = other := by
  cases one; cases other; simp_all

theorem displayBy_append_inj
    (same : (one.displayBy visible).toList ++ rest = (other.displayBy visible).toList ++ tail) :
    one.lexical = other.lexical ∧
      one.displaySuffix.toList ++ rest = other.displaySuffix.toList ++ tail := by
  simp only [displayBy, String.toList_append, List.append_assoc] at same
  exact Text.quotedBy_append_inj same

theorem display_resource_ne_displayBy {resource : Resource} :
    resource.display.toList ++ rest ≠ (one.displayBy visible).toList ++ tail := by
  simp only [displayBy, Text.quotedBy, String.toList_append, String.toList_ofList,
    List.cons_append]
  exact Resource.display_ne_quote

/-- What follows the closing quote tells the language and the datatype. -/
theorem displaySuffix_inj (fits : one.TagFits) (otherFits : other.TagFits)
    (told : one.datatype.display = other.datatype.display → one.datatype = other.datatype)
    (same : one.displaySuffix = other.displaySuffix) :
    one.datatype = other.datatype ∧ one.language = other.language := by
  obtain ⟨lexical, datatype, language⟩ := one
  obtain ⟨otherLexical, otherDatatype, otherLanguage⟩ := other
  cases language with
  | some tag =>
      cases otherLanguage with
      | some otherTag =>
          have tags : tag = otherTag := by simpa [displaySuffix] using same
          rw [tags]
          exact ⟨(fits rfl).trans (otherFits rfl).symm, rfl⟩
      | none =>
          have marks := congrArg (fun shown => shown.toList.head?) same
          by_cases plain : otherDatatype = .iri Xsd.string <;> simp [displaySuffix, plain] at marks
  | none =>
      cases otherLanguage with
      | some otherTag =>
          have marks := congrArg (fun shown => shown.toList.head?) same
          by_cases plain : datatype = .iri Xsd.string <;> simp [displaySuffix, plain] at marks
      | none =>
          refine ⟨?_, rfl⟩
          by_cases plain : datatype = .iri Xsd.string
          · by_cases otherPlain : otherDatatype = .iri Xsd.string
            · exact plain.trans otherPlain.symm
            · simp [displaySuffix, plain, otherPlain] at same
          · by_cases otherPlain : otherDatatype = .iri Xsd.string
            · simp [displaySuffix, plain, otherPlain] at same
            · exact told (by simpa [displaySuffix, plain, otherPlain] using same)

end Literal

namespace Object

variable {one other : Object}

def displayBy (visible : Char → Bool) : Object → String
  | .resource value => value.display
  | .literal value => value.displayBy visible

theorem display_eq_displayBy (object : Object) :
    object.display = object.displayBy Text.isVisible := by
  cases object with
  | resource value => rfl
  | literal value =>
      simp only [display, displayBy, Literal.display, Literal.displayBy, Text.quoted_eq_quotedBy]

def TagFits (object : Object) : Prop := ∀ literal, object = .literal literal → literal.TagFits

theorem tagFits_stored (term : Term) : term.stored.TagFits := by
  rintro literal shown tagged
  cases term with
  | resource value => cases shown
  | typed lexical datatype => cases shown; cases tagged
  | tagged lexical language => cases shown; rfl

/-- What is shown of an object tells it, whichever characters are written by their codes. -/
theorem displayBy_inj (fits : one.TagFits) (otherFits : other.TagFits)
    (unique : LabelsUnique {resource | resource ∈ one.resources ++ other.resources})
    (same : one.displayBy visible = other.displayBy visible) : one = other := by
  have shown := congrArg (fun text => text.toList ++ []) same
  cases one with
  | resource value =>
      cases other with
      | resource otherValue =>
          have values : value = otherValue :=
            unique.injOn_display (List.mem_append_left _ List.mem_cons_self)
              (List.mem_append_right _ List.mem_cons_self) same
          rw [values]
      | literal otherValue => exact absurd shown Literal.display_resource_ne_displayBy
  | literal value =>
      cases other with
      | resource otherValue => exact absurd shown.symm Literal.display_resource_ne_displayBy
      | literal otherValue =>
          obtain ⟨lexicals, suffixes⟩ := Literal.displayBy_append_inj shown
          simp only [List.append_nil, String.toList_inj] at suffixes
          have told : value.datatype.display = otherValue.datatype.display →
              value.datatype = otherValue.datatype := fun datatypes =>
            unique.injOn_display (List.mem_append_left _ List.mem_cons_self)
              (List.mem_append_right _ List.mem_cons_self) datatypes
          obtain ⟨datatypes, languages⟩ :=
            Literal.displaySuffix_inj (fits value rfl) (otherFits otherValue rfl) told suffixes
          exact congrArg Object.literal (Literal.ext lexicals datatypes languages)

end Object

theorem Graph.tagFits {graph : Graph} {triple : Triple} (member : triple ∈ graph) :
    triple.object.TagFits := by
  obtain ⟨statement, rfl⟩ := graph.written triple member
  exact Object.tagFits_stored statement.object

/-- Objects are told apart by how they are shown, whatever their texts are, and also where other
characters are written by their codes than the ones without a visible form. Every node has a label of
its own here, or no two nodes without one share the label that is made up for them. -/
theorem objects_told_apart_by_display (one other : Object) (fits : one.TagFits)
    (otherFits : other.TagFits)
    (told : (∀ resource ∈ one.resources ++ other.resources, resource.node? = none) ∨
      LabelsUnique {resource | resource ∈ one.resources ++ other.resources}) :
    (one.display = other.display ↔ one = other) ∧
      ∀ visible, (one.displayBy visible = other.displayBy visible ↔ one = other) := by
  have unique := told.elim labelsUnique_of_labeled id
  have apart (visible : Char → Bool) :
      one.displayBy visible = other.displayBy visible ↔ one = other :=
    ⟨Object.displayBy_inj fits otherFits unique, congrArg (Object.displayBy visible)⟩
  rw [Object.display_eq_displayBy, Object.display_eq_displayBy]
  exact ⟨apart Text.isVisible, apart⟩

/-! A plain text that looks like a tagged one, up to the quote that closes it. -/

theorem quoted_tag_told_apart :
    (Object.literal (.plain "chat\"@fr")).TagFits ∧ (Object.literal (.tagged "chat" "fr")).TagFits ∧
      (∀ resource ∈ (Object.literal (.plain "chat\"@fr")).resources ++
        (Object.literal (.tagged "chat" "fr")).resources, resource.node? = none) ∧
      (Object.literal (.plain "chat\"@fr")).display ≠
        (Object.literal (.tagged "chat" "fr")).display := by
  have fits : (Object.literal (.plain "chat\"@fr")).TagFits :=
    Object.tagFits_stored (.plain "chat\"@fr")
  have otherFits : (Object.literal (.tagged "chat" "fr")).TagFits :=
    Object.tagFits_stored (.tagged "chat" "fr")
  have labeled : ∀ resource ∈ (Object.literal (.plain "chat\"@fr")).resources ++
      (Object.literal (.tagged "chat" "fr")).resources, resource.node? = none := by decide
  exact ⟨fits, otherFits, labeled,
    (objects_told_apart_by_display _ _ fits otherFits (Or.inl labeled)).1.not.2 (by decide)⟩

end OntologyLint
