import OntologyLint.Document.Name
import OntologyLint.Document.Quotation
import OntologyLint.Graph.Basic
import OntologyLint.Iri.Reference
import OntologyLint.Language.Tag

set_option autoImplicit false

/-! Documents with one statement on a line, all terms written out: three terms and a dot, or, where
graphs have names, an optional fourth term. -/

namespace OntologyLint.Document.Lines

open Text (Reading)
open Text.Reading

def isSpace (char : Char) : Bool := char == ' ' || char == '\t'

def isLineEnd (char : Char) : Bool := char == '\n' || char == '\r'

def skipSpace : Reading Unit := skipWhile isSpace

def token {α : Type} (rule : Reading α) : Reading α := do
  skipSpace
  rule

def accepted {α : Type} : Option α → Reading α
  | some value => pure value
  | none => failure

def absoluteIri : Reading String := do
  accepted (Iri.absolute? (← bracketed))

def resource : Reading Resource := (.iri <$> absoluteIri) <|> (.blank <$> blankLabel)

def language : Reading String := do
  accepted (LanguageTag.read? (← tagText))

def literal : Reading Term := do
  let text ← shortQuoted '"'
  match (← token peek?) with
  | some '@' => return .tagged text (← token language)
  | some '^' => do
      token (word "^^")
      accepted (Term.typed? text (← token absoluteIri))
  | _ => pure (.plain text)

def object : Reading Term := (.resource <$> resource) <|> literal

def graphName (named : Bool) : Reading (Option Resource) :=
  if named then (some <$> token resource) <|> pure none else pure none

def quad (named : Bool) : Reading Quad := do
  let subject ← token resource
  let predicate ← token absoluteIri
  let object ← token object
  let name ← graphName named
  token (char '.')
  pure ⟨⟨subject, predicate, object⟩, name⟩

/-- Space, and a comment up to the end of the line. -/
def lineRest : Reading Unit := do
  skipSpace
  (do char '#'; skipWhile (fun char => !isLineEnd char)) <|> pure ()

def line (named : Bool) : Reading (List Quad) := do
  let quads ← (do return [← quad named]) <|> pure []
  lineRest
  pure quads

def document (named : Bool) : Reading (List Quad) := do
  let lines ← separated (do let _ ← satisfying isLineEnd) (line named)
  pure lines.flatten

def read? (named : Bool) (text : String) : Option (List Quad) :=
  whole? (document named) text.toList

end OntologyLint.Document.Lines
