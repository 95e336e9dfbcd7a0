import OntologyLint.Document.Name
import OntologyLint.Iri.Reference
import OntologyLint.Language.Tag
import OntologyLint.Vocabulary
import OntologyLint.Xml.Namespace

set_option autoImplicit false

/-! The attributes of the elements of an RDF/XML document: what identifies a node, how the content
of a property is to be read, and properties written as attributes. -/

namespace OntologyLint.Document.RdfXml

open Xml

def rdf (name : String) : String := Rdf.namespaceText ++ name

def reservedElements : List String :=
  ["about", "aboutEach", "aboutEachPrefix", "bagID", "datatype", "ID", "li", "nodeID", "parseType",
    "RDF", "resource"].map rdf

def reservedAttributes : List String :=
  ["aboutEach", "aboutEachPrefix", "li", "RDF", "resource"].map rdf

def isSimpleName (text : String) : Bool :=
  match text.toList with
  | [] => false
  | first :: rest =>
      (isLetter first || first == '_') && rest.all isInnerChar

/-- How the content of a property is to be read. -/
inductive ContentKind
  | ordinary
  | collection
  | markup
  | properties
  | ignored
  deriving DecidableEq

def ContentKind.ofText (text : String) : ContentKind :=
  if text = "Collection" then .collection
  else if text = "Literal" then .markup
  else if text = "Resource" then .properties
  else .ignored

/-- What holds inside an element: the namespaces, the base of references, and the language. -/
structure Scope where
  namespaces : Namespaces := []
  base : Option String := none
  language : Option String := none

structure Marks where
  id : Option String := none
  nodeLabel : Option String := none
  about : Option String := none
  resource : Option String := none
  datatype : Option String := none
  type : Option String := none
  kind : ContentKind := .ordinary
  properties : List (String × String) := []

/-- Takes the language and the base from the attributes of an element. -/
def Scope.enter? (scope : Scope) (tag : Tag) : Option Scope :=
  tag.attributes.foldlM
    (fun scope entry =>
      if entry.name = "xml:lang" then do
        let language ← LanguageTag.read? (← expand? tag.entities entry.value)
        pure { scope with language := some language }
      else if entry.name = "xml:base" then do
        let base ← Iri.absolute? (← expand? tag.entities entry.value)
        pure { scope with base := some base }
      else some scope)
    { scope with namespaces := declareNamespaces scope.namespaces tag.attributes }

def simpleName? (text : String) : Option String := if isSimpleName text then some text else none

/-- Notes one attribute. References are resolved inside the element. -/
def Marks.note? (entities : Entities) (scope : Scope) (marks : Marks) (entry : Attribute) :
    Option Marks := do
  -- The attributes of XML itself are a matter of the scope.
  if "xml".toList.isPrefixOf entry.name.toList then return marks
  let name ← attributeName? entities scope.namespaces entry.name
  let value ← expand? entities entry.value
  if name = rdf "parseType" then return { marks with kind := .ofText value }
  else if name = rdf "ID" then
    let reference := "#" ++ (← simpleName? value)
    return { marks with id := some (← Iri.resolve? scope.base reference) }
  else if name = rdf "bagID" then
    -- It has to be a name, although nothing is done with it.
    let _ ← simpleName? value
    return marks
  else if name = rdf "nodeID" then return { marks with nodeLabel := some (← simpleName? value) }
  else if name = rdf "about" then
    return { marks with about := some (← Iri.resolve? scope.base value) }
  else if name = rdf "resource" then
    return { marks with resource := some (← Iri.resolve? scope.base value) }
  else if name = rdf "datatype" then
    return { marks with datatype := some (← Iri.resolve? scope.base value) }
  else if name = Rdf.type then
    return { marks with type := some (← Iri.resolve? scope.base value) }
  else if reservedAttributes.contains name then none
  else return { marks with properties := marks.properties ++ [(← Iri.absolute? name, value)] }

def Marks.read? (scope : Scope) (tag : Tag) : Option Marks :=
  tag.attributes.foldlM (Marks.note? tag.entities scope) {}

end OntologyLint.Document.RdfXml
