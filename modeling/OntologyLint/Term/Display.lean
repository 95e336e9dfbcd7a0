import OntologyLint.Term.Basic
import OntologyLint.Text.Quoted

set_option autoImplicit false

/-! How terms are shown in messages. An IRI stands in angle brackets, a blank node after `_:`, and a
literal in quotes with its language or, unless it is a plain text, its datatype. -/

namespace OntologyLint

namespace Resource

def display : Resource → String
  | .iri text => "<" ++ text ++ ">"
  | other => "_:" ++ other.text

end Resource

namespace Literal

def displaySuffix (literal : Literal) : String :=
  match literal.language with
  | some language => "@" ++ language
  | none =>
      if literal.datatype = .iri Xsd.string then "" else "^^" ++ literal.datatype.display

def display (literal : Literal) : String :=
  Text.quoted literal.lexical ++ literal.displaySuffix

end Literal

namespace Object

def display : Object → String
  | .resource value => value.display
  | .literal value => value.display

end Object

namespace Triple

def display (triple : Triple) : String :=
  triple.subject.display ++ " " ++ triple.predicate.display ++ " " ++ triple.object.display ++ " ."

end Triple

end OntologyLint
