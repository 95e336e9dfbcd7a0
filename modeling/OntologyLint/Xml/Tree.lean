set_option autoImplicit false

/-! XML content. Texts have their meaning; names are as they are written, with their prefixes, and
so are the values of attributes, with their entity references. -/

namespace OntologyLint.Xml

structure Attribute where
  name : String
  value : String
  deriving DecidableEq, Inhabited

/-- The texts of the entities that a document declares, the latest first. -/
abbrev Entities : Type := List (String × String)

structure Tag where
  name : String
  attributes : List Attribute
  entities : Entities
  deriving DecidableEq, Inhabited

/-- A piece of content. An element that the document breaks off in is not closed. -/
inductive Content
  | element (tag : Tag) (children : List Content) (closed : Bool)
  | text (text : String)
  deriving Inhabited

end OntologyLint.Xml
