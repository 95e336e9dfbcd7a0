import OntologyLint.Document.Quotation
import OntologyLint.Document.Turtle.LocalName
import OntologyLint.Document.Turtle.Tree
import OntologyLint.Vocabulary

set_option autoImplicit false

/-! The grammar of Turtle and, with blocks for graphs, of TriG. -/

namespace OntologyLint.Document.Turtle.Grammar

open Text (Reading)
open Text.Reading

def isSpace (char : Char) : Bool := char == ' ' || char == '\t' || char == '\n' || char == '\r'

def comment : Reading Unit := do
  char '#'
  skipWhile (fun char => char != '\n' && char != '\r')

def skipSpace : Reading Unit := do
  skipWhile isSpace
  let _ ← many (do comment; skipWhile isSpace)

def token {α : Type} (rule : Reading α) : Reading α := do
  skipSpace
  rule

def mark (expected : Char) : Reading Unit := token (char expected)

def wordWhere (accepts : String → Bool) : Reading Unit := do
  if accepts (← plainWord) then pure () else failure

def keyword (expected : String) : Reading Unit := wordWhere (fun found => found.toLower == expected)

def name : Reading Name :=
  (.reference <$> bracketed) <|> (do
    let start ← prefixPart
    let (ending, isDoubtful) ← localName
    pure (.shortened start ending isDoubtful))

def verb : Reading Verb :=
  (.property <$> name) <|> (do wordWhere (· == "a"); pure .isA)

/-! ### Values -/

/-- A text between quotes. Three quotes always start a text that may run over lines. -/
def quotedText : Reading String := do
  let quote ← fun text => text.head?.map (·, text)
  if [quote, quote, quote].isPrefixOf (← remaining) then longQuoted quote else shortQuoted quote

def textValue : Reading Value := do
  let text ← quotedText
  match (← token peek?) with
  | some '@' => return .tagged text (← token tagText)
  | some '^' => do
      token (word "^^")
      return .typed text (← token name)
  | _ => pure (.plain text)

def optionally (part : Reading (List Char)) : Reading (List Char) := part <|> pure []

def sign : Reading (List Char) := do return [← satisfying Text.isSign]

def exponent : Reading (List Char) := do
  let first ← satisfying (fun char => char == 'e' || char == 'E')
  let direction ← optionally sign
  return first :: direction ++ (← takeSome Char.isDigit)

/-- The digits of a number before its exponent, and whether there is a point among them. A point
without digits after it belongs to the number only if an exponent follows. -/
def mantissa : Reading (List Char × Bool) := do
  let direction ← optionally sign
  let whole ← takeWhile Char.isDigit
  (do
    char '.'
    let fraction ← takeSome Char.isDigit
    pure (direction ++ whole ++ '.' :: fraction, true)) <|>
  (do
    char '.'
    if whole.isEmpty then failure
    let text ← remaining
    match text with
    | 'e' :: _ => pure (direction ++ whole ++ ['.'], true)
    | 'E' :: _ => pure (direction ++ whole ++ ['.'], true)
    | _ => failure) <|>
  (if whole.isEmpty then failure else pure (direction ++ whole, false))

def numberValue : Reading Value := do
  let (digits, pointed) ← mantissa
  match (← peek?) with
  | some 'e' => return .bare (String.ofList (digits ++ (← exponent))) Xsd.double
  | some 'E' => return .bare (String.ofList (digits ++ (← exponent))) Xsd.double
  | _ => pure (.bare (String.ofList digits) (if pointed then Xsd.decimal else Xsd.integer))

def truthValue : Reading Value :=
  (do wordWhere (· == "true"); pure (.bare "true" Xsd.boolean)) <|>
  (do wordWhere (· == "false"); pure (.bare "false" Xsd.boolean))

/-! ### Statements -/

def namedNode : Reading Node := (.named <$> name) <|> (.blank <$> blankLabel)

def objectList (object : Reading Node) : Reading (List Node) := separated (mark ',') (token object)

def property (object : Reading Node) : Reading (Verb × List Node) := do
  let verb ← token verb
  return (verb, ← objectList object)

def laterProperty (object : Reading Node) : Reading (List (Verb × List Node)) := do
  let _ ← mark ';'
  (do return [← property object]) <|> pure []

def propertyList (object : Reading Node) : Reading (List (Verb × List Node)) := do
  let first ← property object
  let others ← many (laterProperty object)
  pure (first :: others.flatten)

def collection (object : Reading Node) : Reading Node := do
  char '('
  let items ← many (token object)
  mark ')'
  pure (.list items)

def nameless (object : Reading Node) : Reading Node := do
  char '['
  let properties ← propertyList object <|> pure []
  mark ']'
  pure (.nameless properties)

def object : Nat → Reading Node
  | 0 => namedNode
  | depth + 1 => do
      match ← peek? with
      | some '(' => collection (object depth)
      | some '[' => nameless (object depth)
      | some '"' => .value <$> textValue
      | some '\'' => .value <$> textValue
      | _ => namedNode <|> (.value <$> (truthValue <|> numberValue))

/-- A subject with its properties. Only a nameless node with properties of its own may do without
more of them. -/
def sentence (depth : Nat) : Reading Sentence := do
  skipSpace
  match ← peek? with
  | some '(' => do
      let subject ← collection (object depth)
      return ⟨subject, ← propertyList (object depth)⟩
  | some '[' => do
      let subject ← nameless (object depth)
      match subject with
      | .nameless (_ :: _) => return ⟨subject, ← propertyList (object depth) <|> pure []⟩
      | _ => return ⟨subject, ← propertyList (object depth)⟩
  | _ => do
      let subject ← namedNode
      return ⟨subject, ← propertyList (object depth)⟩

def startDeclaration : Reading Clause := do
  let name ← token prefixPart
  let (ending, _) ← localName
  if ending.isEmpty then return .start name (← token bracketed) else failure

def baseDeclaration : Reading Clause := do
  return .base (← token bracketed)

def markedDeclaration : Reading Clause := do
  let tag ← tagText
  let clause ←
    if tag == "prefix" then startDeclaration
    else if tag == "base" then baseDeclaration
    else failure
  mark '.'
  pure clause

def declaration : Reading Clause :=
  markedDeclaration <|> (do keyword "prefix"; startDeclaration) <|>
    (do keyword "base"; baseDeclaration)

def blockSentences (depth : Nat) : Reading (List Sentence) := do
  mark '\x7b'
  let first ← (do return [← sentence depth]) <|> pure []
  let others ←
    if first.isEmpty then pure []
    else many (do mark '.'; sentence depth)
  if !first.isEmpty then (mark '.' <|> pure ())
  mark '\x7d'
  pure (first ++ others)

def graphName : Reading Node :=
  namedNode <|> (do char '['; mark ']'; pure (.nameless []))

def block (depth : Nat) : Reading Clause :=
  (do
    keyword "graph"
    let name ← token graphName
    return .block (some name) (← blockSentences depth)) <|>
  (do let name ← graphName; return .block (some name) (← blockSentences depth)) <|>
  (do return .block none (← blockSentences depth))

def clause (blocks : Bool) (depth : Nat) : Reading Clause := do
  skipSpace
  declaration <|> (if blocks then block depth else failure) <|> (do
    let sentence ← sentence depth
    mark '.'
    pure (.sentence sentence))

/-- A whole document. No bracket can be nested deeper than there are characters. -/
def document (blocks : Bool) : Reading (List Clause) := do
  let depth := (← remaining).length + 1
  let clauses ← many (clause blocks depth)
  skipSpace
  pure clauses

end OntologyLint.Document.Turtle.Grammar
