import OntologyLint.Datatype.LexicalSpace
import OntologyLint.Term.Basic

set_option autoImplicit false

/-! Which literals are values of a datatype. A plain text is judged by its form alone. A literal
with a datatype of its own must be on one line of derivation with the datatype asked for. -/

namespace OntologyLint

def textConforms (lexical actual expected : String) : Bool :=
  (actual == Xsd.string || isDerivedFrom actual expected || isDerivedFrom expected actual) &&
    inLexicalSpace? lexical actual != some false &&
    match inLexicalSpace? lexical expected with
    | some valid => valid
    | none => actual == expected

def literalConforms (literal : Literal) (datatype : Resource) : Bool :=
  if datatype = .iri Rdfs.literal then true
  else if datatype = .iri Rdf.langString then literal.language.isSome
  else if literal.language.isSome then false
  else
    match datatype with
    | .iri expected => textConforms literal.lexical literal.datatype.text expected
    | _ => literal.datatype == datatype

end OntologyLint
