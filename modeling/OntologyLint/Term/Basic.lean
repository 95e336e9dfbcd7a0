import OntologyLint.SortedSet.Basic
import OntologyLint.Term.Label
import OntologyLint.Vocabulary

set_option autoImplicit false

/-! The terms of a graph and their order. Terms are compared by kind first and then field by field,
and texts by code point; each order is total and equal only on equal terms, so terms can be the
members of sorted sets. -/

namespace OntologyLint

open Std (TransOrd LawfulEqOrd TransCmp)

/-- Names an individual, a class or a property: by an IRI, by a label, or by the place of a node
without a name among those of its document. -/
inductive Resource
  | iri (text : String)
  | blank (label : String)
  | anonymous (document node : Nat)
  deriving DecidableEq, Inhabited

namespace Resource

def text : Resource → String
  | .iri text => text
  | .blank label => label
  | .anonymous document node => anonymousLabel document node

def isBlank : Resource → Bool
  | .iri _ => false
  | .blank _ => true
  | .anonymous _ _ => true

def inNamespace (start : String) : Resource → Bool
  | .iri text => start.toList.isPrefixOf text.toList
  | _ => false

/-- The text that a resource is put in order by. Nodes without a name stand together, before the
labels that start with a letter. -/
def sortText : Resource → String
  | .iri text => text
  | .blank label => label
  | .anonymous _ _ => "1"

def document? : Resource → Option Nat
  | .anonymous document _ => some document
  | _ => none

def node? : Resource → Option Nat
  | .anonymous _ node => some node
  | _ => none

instance : Ord Resource :=
  ⟨compareLex (compareOn isBlank)
    (compareLex (compareOn sortText) (compareLex (compareOn document?) (compareOn node?)))⟩

instance : TransOrd Resource :=
  inferInstanceAs (TransCmp (compareLex (compareOn isBlank)
    (compareLex (compareOn sortText) (compareLex (compareOn document?) (compareOn node?)))))

instance : LawfulEqOrd Resource where
  eq_of_compare := by
    intro a b same
    obtain ⟨kinds, rest⟩ := Ordering.then_eq_eq.1 same
    obtain ⟨texts, rest⟩ := Ordering.then_eq_eq.1 rest
    obtain ⟨documents, nodes⟩ := Ordering.then_eq_eq.1 rest
    have kinds := LawfulEqOrd.eq_of_compare kinds
    have texts := LawfulEqOrd.eq_of_compare texts
    have documents := LawfulEqOrd.eq_of_compare documents
    have nodes := LawfulEqOrd.eq_of_compare nodes
    cases a <;> cases b <;> simp_all [isBlank, sortText, document?, node?]

end Resource

/-- A value written out: a lexical form with its datatype and perhaps a language. -/
structure Literal where
  lexical : String
  datatype : Resource
  language : Option String := none
  deriving DecidableEq, Inhabited

namespace Literal

def typed (lexical datatype : String) : Literal := ⟨lexical, .iri datatype, none⟩

def plain (lexical : String) : Literal := .typed lexical Xsd.string

def tagged (lexical language : String) : Literal := ⟨lexical, .iri Rdf.langString, some language⟩

instance : Ord Literal :=
  ⟨compareLex (compareOn lexical) (compareLex (compareOn datatype) (compareOn language))⟩

instance : TransOrd Literal :=
  inferInstanceAs (TransCmp
    (compareLex (compareOn lexical) (compareLex (compareOn datatype) (compareOn language))))

instance : LawfulEqOrd Literal where
  eq_of_compare := by
    intro a b same
    obtain ⟨lexicals, rest⟩ := Ordering.then_eq_eq.1 same
    obtain ⟨datatypes, languages⟩ := Ordering.then_eq_eq.1 rest
    have lexicals := LawfulEqOrd.eq_of_compare lexicals
    have datatypes := LawfulEqOrd.eq_of_compare datatypes
    have languages := LawfulEqOrd.eq_of_compare languages
    cases a; cases b; simp_all

end Literal

inductive Object
  | resource (value : Resource)
  | literal (value : Literal)
  deriving DecidableEq, Inhabited

namespace Object

def resource? : Object → Option Resource
  | .resource value => some value
  | .literal _ => none

def literal? : Object → Option Literal
  | .resource _ => none
  | .literal value => some value

/-- Resources stand before literals. -/
instance : Ord Object := ⟨compareLex (compareOn literal?) (compareOn resource?)⟩

instance : TransOrd Object :=
  inferInstanceAs (TransCmp (compareLex (compareOn literal?) (compareOn resource?)))

instance : LawfulEqOrd Object where
  eq_of_compare := by
    intro a b same
    obtain ⟨literals, resources⟩ := Ordering.then_eq_eq.1 same
    have literals := LawfulEqOrd.eq_of_compare literals
    have resources := LawfulEqOrd.eq_of_compare resources
    cases a <;> cases b <;> simp_all [literal?, resource?]

end Object

/-- An object as a document writes it. A text in a language has no datatype of its own choice, and
any other text has one with an IRI. -/
inductive Term
  | resource (value : Resource)
  | typed (lexical datatype : String)
  | tagged (lexical language : String)
  deriving DecidableEq, Inhabited

namespace Term

def plain (lexical : String) : Term := .typed lexical Xsd.string

/-- A text with a datatype. The datatype of texts in a language is for them alone. -/
def typed? (lexical datatype : String) : Option Term :=
  if datatype = Rdf.langString then none else some (.typed lexical datatype)

def resource? : Term → Option Resource
  | .resource value => some value
  | _ => none

def stored : Term → Object
  | .resource value => .resource value
  | .typed lexical datatype => .literal (.typed lexical datatype)
  | .tagged lexical language => .literal (.tagged lexical language)

end Term

/-- One statement of a graph. In a graph the predicate is always an IRI. -/
structure Triple where
  subject : Resource
  predicate : Resource
  object : Object
  deriving DecidableEq, Inhabited

namespace Triple

instance : Ord Triple :=
  ⟨compareLex (compareOn subject) (compareLex (compareOn predicate) (compareOn object))⟩

instance : TransOrd Triple :=
  inferInstanceAs (TransCmp
    (compareLex (compareOn subject) (compareLex (compareOn predicate) (compareOn object))))

instance : LawfulEqOrd Triple where
  eq_of_compare := by
    intro a b same
    obtain ⟨subjects, rest⟩ := Ordering.then_eq_eq.1 same
    obtain ⟨predicates, objects⟩ := Ordering.then_eq_eq.1 rest
    have subjects := LawfulEqOrd.eq_of_compare subjects
    have predicates := LawfulEqOrd.eq_of_compare predicates
    have objects := LawfulEqOrd.eq_of_compare objects
    cases a; cases b; simp_all

end Triple

end OntologyLint
