import OntologyLint.Text.Fields
import OntologyLint.Xml.Entity

set_option autoImplicit false

/-! Names with namespaces. The part of a name before its colon stands for a namespace that an
element around it declares. -/

namespace OntologyLint.Xml

/-- The declared namespaces by their prefixes, the innermost first. The empty prefix is that of
names without a colon; a name that starts with a colon has none. -/
abbrev Namespaces : Type := List (String × String)

def xmlNamespace : String := "http://www.w3.org/XML/1998/namespace"

def declarationNamespace : String := "http://www.w3.org/2000/xmlns/"

def splitName (name : String) : Option String × String :=
  let (start, rest) := name.toList.span (· != ':')
  match rest with
  | [] => (none, name)
  | _ :: ending => (some (String.ofList start), String.ofList ending)

def declaredPrefix? (name : String) : Option String :=
  if name = "xmlns" then some ""
  else
    match splitName name with
    | (some "xmlns", ending) => some ending
    | _ => none

/-- A declaration leaves the two reserved prefixes and their namespaces alone. Names without a colon
can be put into any namespace. -/
def isProperDeclaration (entry : Attribute) : Bool :=
  match declaredPrefix? entry.name with
  | none => true
  | some start =>
      if entry.name = "xmlns" then true
      else if start = "xml" then entry.value == xmlNamespace
      else start != "xmlns" && entry.value != xmlNamespace && entry.value != declarationNamespace

def declareNamespaces (namespaces : Namespaces) (attributes : List Attribute) : Namespaces :=
  (attributes.filterMap (fun entry =>
    match declaredPrefix? entry.name with
    | some "xml" => none
    | some start => some (start, entry.value)
    | none => none)).reverse ++ namespaces

def namespaceOf? (namespaces : Namespaces) (start : String) : Option String :=
  if start = "xml" then some xmlNamespace
  else if start = "xmlns" then some declarationNamespace
  else
    match namespaces.find? (fun entry => entry.1 = start) with
    -- An empty declaration takes the namespace away again.
    | some (_, text) => if text.isEmpty then none else some text
    | none => none

def redeclared (namespaces : Namespaces) : List Attribute :=
  -- Of several declarations of a prefix the innermost one is in force.
  ((namespaces.eraseDupsBy (fun one other => one.1 == other.1)).reverse.filter
    (fun entry => !entry.2.isEmpty)).map
      (fun (start, text) => ⟨if start.isEmpty then "xmlns" else "xmlns:" ++ start, text⟩)

def attributeName? (entities : Entities) (namespaces : Namespaces) (name : String) :
    Option String :=
  match splitName name with
  | (none, _) => none
  | (some "", _) => none
  | (some start, ending) => do expand? entities ((← namespaceOf? namespaces start) ++ ending)

def elementName? (entities : Entities) (namespaces : Namespaces) (name : String) : Option String :=
  match splitName name with
  | (none, ending) => do expand? entities ((← namespaceOf? namespaces "") ++ ending)
  | _ => attributeName? entities namespaces name

end OntologyLint.Xml
