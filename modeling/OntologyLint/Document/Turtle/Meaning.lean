import OntologyLint.Document.Turtle.Grammar
import OntologyLint.Graph.Basic
import OntologyLint.Iri.Reference
import OntologyLint.Language.Tag

set_option autoImplicit false

/-! The statements that a Turtle or TriG document makes. Names are looked up among the declarations
so far, and every nameless node and list cell gets a label of its own. -/

namespace OntologyLint.Document.Turtle

/-- The declarations so far, the latest first, and the number of labels given out. -/
structure Context where
  document : Nat
  base : Option String := none
  starts : List (String × String) := []
  labels : Nat := 0

abbrev Telling (α : Type) : Type := StateT Context Option α

def freshNode : Telling Resource := do
  let context ← get
  set { context with labels := context.labels + 1 }
  pure (.anonymous context.document context.labels)

def required {α : Type} : Option α → Telling α
  | some value => pure value
  | none => failure

def resolve (reference : String) : Telling String := do
  required (Iri.resolve? (← get).base reference)

def Name.tell : Name → Telling String
  | .reference text => resolve text
  | .shortened start ending isDoubtful => do
      let (_, start) ← required ((← get).starts.find? (fun entry => entry.1 = start))
      if isDoubtful || !Iri.hasPath start then required (Iri.absolute? (start ++ ending))
      else pure (start ++ ending)

def Verb.tell : Verb → Telling String
  | .isA => pure Rdf.type
  | .property name => name.tell

def Value.tell : Value → Telling Term
  | .plain text => pure (.plain text)
  | .tagged text language => do
      return .tagged text (← required (LanguageTag.read? language))
  | .typed text datatype => do
      required (Term.typed? text (← datatype.tell))
  | .bare text datatype => pure (.typed text datatype)

mutual

/-- The term that a node stands for, and the statements that it makes. -/
def Node.tell : Node → Telling (Term × List Statement)
  | .named name => do
      return (.resource (.iri (← name.tell)), [])
  | .blank label => pure (.resource (.blank label), [])
  | .value value => do
      return (← value.tell, [])
  | .list items => do
      let (head, statements) ← tellItems items
      pure (.resource head, statements)
  | .nameless properties => do
      let subject ← freshNode
      return (.resource subject, ← tellProperties subject properties)

def tellItems : List Node → Telling (Resource × List Statement)
  | [] => pure (.iri Rdf.nil, [])
  | item :: rest => do
      let cell ← freshNode
      let (member, made) ← item.tell
      let (next, others) ← tellItems rest
      pure (cell, ⟨cell, Rdf.first, member⟩ :: ⟨cell, Rdf.rest, .resource next⟩ :: made ++ others)

def tellProperties (subject : Resource) : List (Verb × List Node) → Telling (List Statement)
  | [] => pure []
  | (verb, objects) :: rest => do
      let predicate ← verb.tell
      let made ← tellObjects subject predicate objects
      return made ++ (← tellProperties subject rest)

def tellObjects (subject : Resource) (predicate : String) : List Node → Telling (List Statement)
  | [] => pure []
  | object :: rest => do
      let (value, made) ← object.tell
      return ⟨subject, predicate, value⟩ :: made ++ (← tellObjects subject predicate rest)

end

def Node.tellResource (node : Node) : Telling (Resource × List Statement) := do
  let (term, made) ← node.tell
  return (← required term.resource?, made)

def Sentence.tell (sentence : Sentence) : Telling (List Statement) := do
  let (subject, made) ← sentence.subject.tellResource
  return made ++ (← tellProperties subject sentence.properties)

def filed (name : Option Resource) (statements : List Statement) : List Quad :=
  statements.map (fun statement => ⟨statement, name⟩)

def Clause.tell : Clause → Telling (List Quad)
  | .start name reference => do
      let meaning ← resolve reference
      modify (fun context => { context with starts := (name, meaning) :: context.starts })
      pure []
  | .base reference => do
      let meaning ← resolve reference
      modify (fun context => { context with base := some meaning })
      pure []
  | .sentence only => do
      return filed none (← only.tell)
  | .block none sentences => do
      return filed none (← sentences.mapM Sentence.tell).flatten
  | .block (some name) sentences => do
      let (name, _) ← name.tellResource
      return filed (some name) (← sentences.mapM Sentence.tell).flatten

def read? (blocks : Bool) (number : Nat) (text : String) : Option (List Quad) := do
  let clauses ← Text.Reading.whole? (Grammar.document blocks) text.toList
  let (quads, _) ← (clauses.mapM Clause.tell).run { document := number }
  pure quads.flatten

end OntologyLint.Document.Turtle
