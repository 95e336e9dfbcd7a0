set_option autoImplicit false

/-! The tokens of YAML texts. Indentation is told by tokens too: the start of a list or a mapping
that is written by lines, and its end. -/

namespace OntologyLint.Yaml

inductive ScalarStyle
  | plain
  | quoted
  | literal
  | folded
  deriving DecidableEq, Inhabited

/-- A tag as it is written: a handle, which stands for the start of the tag, and the bytes after
it. -/
structure TagMark where
  handle : String
  ending : List UInt8
  deriving DecidableEq, Inhabited

/-- What a document declares ahead: its version, or what a handle stands for. -/
inductive Directive
  | version (major minor : Nat)
  | handle (tag : TagMark)
  deriving DecidableEq, Inhabited

inductive Token
  | directive (content : Directive)
  | documentStart
  | documentEnd
  | listStart
  | mappingStart
  | blockEnd
  | item
  | key
  | value
  | openList
  | closeList
  | openMapping
  | closeMapping
  | comma
  | alias (name : String)
  | anchor (name : String)
  | tag (mark : TagMark)
  | scalar (style : ScalarStyle) (text : String)
  deriving DecidableEq, Inhabited

end OntologyLint.Yaml
