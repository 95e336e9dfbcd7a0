import OntologyLint.Document.RdfXml.Attributes
import OntologyLint.Graph.Basic
import OntologyLint.Xml.Parser

set_option autoImplicit false

/-! The statements that an RDF/XML document makes. Elements are nodes and properties by turns: the
elements inside a node are its properties, and those inside a property are nodes. A property makes
its statement where its element ends, so one that the document breaks off in makes none. -/

namespace OntologyLint.Document.RdfXml

open Xml

/-- The number of labels given out, and the identifiers that have been used. -/
structure Memory where
  document : Nat
  labels : Nat := 0
  identifiers : List String := []

/-- A computation that reads a document, or fails on one that breaks the rules. -/
abbrev Telling (α : Type) : Type := StateT Memory Option α

def freshNode : Telling Resource := do
  let memory ← get
  set { memory with labels := memory.labels + 1 }
  pure (.anonymous memory.document memory.labels)

def required {α : Type} : Option α → Telling α
  | some value => pure value
  | none => failure

/-- An identifier can be used once only. -/
def reserve : Option String → Telling Unit
  | none => pure ()
  | some identifier => do
      let memory ← get
      if memory.identifiers.contains identifier then failure
      set { memory with identifiers := identifier :: memory.identifiers }

def enter (scope : Scope) (tag : Tag) : Telling (String × Scope × Marks) := do
  let scope ← required (scope.enter? tag)
  let full ← required (elementName? tag.entities scope.namespaces tag.name)
  let marks ← required (Marks.read? scope tag)
  reserve marks.id
  pure (full, scope, marks)

def literalIn (scope : Scope) (text : String) : Term :=
  match scope.language with
  | some language => .tagged text language
  | none => .plain text

def propertyLiteral (scope : Scope) (marks : Marks) (text : String) : Term :=
  match marks.datatype with
  | some datatype => .typed text datatype
  | none => literalIn scope text

def attributeStatements (scope : Scope) (marks : Marks) (subject : Resource) : List Statement :=
  marks.properties.map
      (fun (property, text) => ⟨subject, property, literalIn scope text⟩) ++
    marks.type.toList.map (fun type => ⟨subject, Rdf.type, .resource (.iri type)⟩)

/-- A statement, and the four that describe it if it has an identifier. -/
def withDescription (id : Option String) (made : Statement) : List Statement :=
  made :: match id with
    | none => []
    | some id => [
        ⟨.iri id, Rdf.type, .resource (.iri (rdf "Statement"))⟩,
        ⟨.iri id, rdf "subject", .resource made.subject⟩,
        ⟨.iri id, rdf "predicate", .resource (.iri made.predicate)⟩,
        ⟨.iri id, rdf "object", made.object⟩]

/-- What identifies a node: one attribute at most, and a label of its own otherwise. -/
def nodeSubject (marks : Marks) : Telling Resource :=
  match marks.id, marks.nodeLabel, marks.about with
  | some id, none, none => pure (.iri id)
  | none, some label, none => pure (.blank label)
  | none, none, some about => pure (.iri about)
  | none, none, none => freshNode
  | _, _, _ => failure

def attributeObject (marks : Marks) : Telling (Option Resource) :=
  match marks.resource, marks.nodeLabel with
  | some resource, none => pure (some (.iri resource))
  | none, some label => pure (some (.blank label))
  | none, none => if marks.properties.isEmpty then pure none else some <$> freshNode
  | some _, some _ => failure

def propertyIri (full : String) (members : Nat) : Telling (String × Nat) :=
  if full = rdf "li" then pure (rdf ("_" ++ toString (members + 1)), members + 1)
  else if reservedElements.contains full || full == rdf "Description" then failure
  else do
    return (← required (Iri.absolute? full), members)

inductive Value
  | unknown
  | text (text : String)
  | node (node : Resource)

namespace Value

def isSettled : Value → Bool
  | .unknown => false
  | .text shown => !Text.isAllBlank shown
  | .node _ => true

/-- A piece of text after what has been shown. It takes the place of white space, and can only be
white space after anything else. -/
def addText (text : String) (value : Value) : Option Value :=
  if !value.isSettled then some (.text text)
  else if Text.isAllBlank text then some value
  else none

def addNode (found : Resource) (value : Value) : Option Value :=
  if value.isSettled then none else some (.node found)

/-- The object that the content amounts to. Without a node it is a text. -/
def object (scope : Scope) (marks : Marks) : Value → Term
  | .unknown => propertyLiteral scope marks ""
  | .text shown => propertyLiteral scope marks shown
  | .node found => .resource found

end Value

mutual

/-- The markup of content, with no element written as empty, and without comments. The outermost
elements, for which the namespaces around them are given, declare all of them again. -/
def markup (around : Option Namespaces) : List Content → String
  | [] => ""
  | item :: rest => markupItem around item ++ markup around rest

def markupItem (around : Option Namespaces) : Content → String
  | .text text => escape text
  | .element tag children _ =>
      let again := match around with
        | some namespaces => redeclared (declareNamespaces namespaces tag.attributes)
        | none => []
      let written := (tag.attributes ++ again).map
        (fun entry => " " ++ entry.name ++ "=\"" ++ entry.value ++ "\"")
      "<" ++ tag.name ++ String.join written ++ ">" ++ markup none children ++
        "</" ++ tag.name ++ ">"

end

def skipText (text : String) : Telling Unit :=
  if Text.isAllBlank text then pure () else failure

def collect : List Resource → Telling (Resource × List Statement)
  | [] => pure (.iri Rdf.nil, [])
  | member :: rest => do
      let (next, made) ← collect rest
      let cell ← freshNode
      pure (cell, ⟨cell, Rdf.first, .resource member⟩ :: ⟨cell, Rdf.rest, .resource next⟩ :: made)

mutual

/-- The node of an element, unless the document breaks off in it, and the statements made. -/
def tellNode (scope : Scope) : Content → Telling (Option Resource × List Statement)
  | .element tag children closed => do
      let (full, scope, marks) ← enter scope tag
      if reservedElements.contains full then failure
      let type ← required (Iri.absolute? full)
      let subject ← nodeSubject marks
      let typed := if type = rdf "Description" then []
        else [⟨subject, Rdf.type, .resource (.iri type)⟩]
      let made ← tellProperties scope subject 0 children
      pure (if closed then some subject else none,
        attributeStatements scope marks subject ++ typed ++ made)
  | .text text => do
      skipText text
      pure (none, [])

def tellNodes (scope : Scope) : List Content → Telling (List Resource × List Statement)
  | [] => pure ([], [])
  | item :: rest => do
      let (node, made) ← tellNode scope item
      let (others, more) ← tellNodes scope rest
      pure (node.toList ++ others, made ++ more)

def tellProperties (scope : Scope) (subject : Resource) (members : Nat) :
    List Content → Telling (List Statement)
  | [] => pure []
  | item :: rest => do
      let (members, made) ← tellProperty scope subject members item
      return made ++ (← tellProperties scope subject members rest)

def tellProperty (scope : Scope) (subject : Resource) (members : Nat) :
    Content → Telling (Nat × List Statement)
  | .element tag children closed => do
      let (full, scope, marks) ← enter scope tag
      let (property, members) ← propertyIri full members
      let ended (object : Term) : List Statement :=
        if closed then withDescription marks.id ⟨subject, property, object⟩ else []
      match marks.kind with
      | .ordinary => do
          let given ← attributeObject marks
          let start := match given with
            | some node => Value.node node
            | none => .unknown
          let described := match given with
            | some node => attributeStatements scope marks node
            | none => []
          let (value, made) ← tellValue scope start children
          pure (members, described ++ made ++ ended (value.object scope marks))
      | .collection => do
          let (nodes, made) ← tellNodes scope children
          let (head, links) ← collect nodes
          pure (members, made ++ if closed then links ++ ended (.resource head) else [])
      | .properties => do
          let node ← freshNode
          let made ← tellProperties scope node 0 children
          pure (members,
            withDescription marks.id ⟨subject, property, .resource node⟩ ++ made)
      | .markup => do
          let text := markup (some scope.namespaces) children
          if closed && text.isEmpty then failure
          pure (members, ended (.typed text Rdf.xmlLiteral))
      | .ignored => pure (members, [])
  | .text text => do
      skipText text
      pure (members, [])

/-- What the content of a property amounts to, and the statements that its nodes make. -/
def tellValue (scope : Scope) (value : Value) : List Content → Telling (Value × List Statement)
  | [] => pure (value, [])
  | .text text :: rest => do
      tellValue scope (← required (value.addText text)) rest
  | item :: rest => do
      let (node, made) ← tellNode scope item
      let value ← match node with
        | some node => required (value.addNode node)
        | none => pure value
      let (value, more) ← tellValue scope value rest
      pure (value, made ++ more)

end

def rootName (tag : Tag) : Telling String := do
  let scope ← required (({} : Scope).enter? tag)
  required (elementName? tag.entities scope.namespaces tag.name)

def tellRoot : Content → Telling (List Statement)
  | .element tag children closed => do
      if (← rootName tag) = rdf "RDF" then
        let (_, scope, _) ← enter {} tag
        return (← tellNodes scope children).2
      else return (← tellNode {} (.element tag children closed)).2
  | other => do return (← tellNode {} other).2

def read? (number : Nat) (text : String) : Option (List Quad) := do
  let content ← parse? text
  let (statements, _) ← (content.mapM tellRoot).run { document := number }
  pure (statements.flatten.map (fun statement => ⟨statement, none⟩))

end OntologyLint.Document.RdfXml
