import OntologyLint.Json.Basic
import OntologyLint.Term.Display

set_option autoImplicit false

/-! The JSON form of terms. A resource is the text that displays it, so that IRIs and blank nodes
stay apart, and a literal is an object with its parts. -/

namespace OntologyLint

def Resource.json (resource : Resource) : Json := .string resource.display

def Literal.json (literal : Literal) : Json :=
  .object ([("lexical", .string literal.lexical), ("datatype", literal.datatype.json)] ++
    match literal.language with
    | some language => [("language", .string language)]
    | none => [])

def Object.json : Object → Json
  | .resource value => value.json
  | .literal value => value.json

def Triple.json (triple : Triple) : Json :=
  .object [
    ("subject", triple.subject.json),
    ("predicate", triple.predicate.json),
    ("object", triple.object.json)]

end OntologyLint
