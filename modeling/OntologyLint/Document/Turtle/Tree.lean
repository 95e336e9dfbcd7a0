set_option autoImplicit false

/-! What a Turtle or TriG document says before its names are looked up. -/

namespace OntologyLint.Document.Turtle

/-- An IRI as it is written: a reference, or a prefix and a local name. A doubtful local name may
make the IRI wrong. -/
inductive Name
  | reference (text : String)
  | shortened (start ending : String) (isDoubtful : Bool)
  deriving DecidableEq, Inhabited

inductive Verb
  | isA
  | property (name : Name)
  deriving DecidableEq, Inhabited

inductive Value
  | plain (text : String)
  | tagged (text language : String)
  | typed (text : String) (datatype : Name)
  | bare (text datatype : String)
  deriving DecidableEq, Inhabited

/-- A term of a statement. Lists and nameless nodes make statements of their own. -/
inductive Node
  | named (name : Name)
  | blank (label : String)
  | value (value : Value)
  | list (items : List Node)
  | nameless (properties : List (Verb × List Node))
  deriving Inhabited

structure Sentence where
  subject : Node
  properties : List (Verb × List Node)
  deriving Inhabited

/-- A part of a document. Declarations hold for what follows them. -/
inductive Clause
  | start (name : String) (reference : String)
  | base (reference : String)
  | sentence (sentence : Sentence)
  | block (graph : Option Node) (sentences : List Sentence)
  deriving Inhabited

end OntologyLint.Document.Turtle
