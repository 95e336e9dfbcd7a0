import OntologyLint.Text.Fields
import OntologyLint.Xml.Namespace

set_option autoImplicit false

/-! The content of XML texts. Tags must match, attributes must be quoted and differ in name, and
reserved namespaces must be left alone; comments and processing instructions are left out. -/

namespace OntologyLint.Xml

open Text (Reading)
open Text.Reading

inductive Piece
  | opening (name : String) (attributes : List Attribute) (isEmpty : Bool)
  | closing (name : String)
  | text (written : String)
  | verbatim (text : String)
  | documentType (parts : List (List Char))
  | aside

def quotedValue : Reading (List Char) :=
  (do char '"'; takeUntil "\"") <|> (do char '\''; takeUntil "'")

/-- A name with its value. Only the first character of the name can be an equals sign. -/
def assignment : Reading Attribute := do
  skipWhile isSpace
  let first ← satisfying (fun char => !isSpace char)
  let others ← takeWhile (fun char => !isSpace char && char != '=')
  skipWhile isSpace
  char '='
  skipWhile isSpace
  let value ← quotedValue
  pure ⟨String.ofList (first :: others), String.ofList value⟩

def haveDistinctNames (attributes : List Attribute) : Bool :=
  decide (attributes.map Attribute.name).Nodup

def tagInside : Reading (String × List Attribute) := do
  let name ← takeWhile (fun char => !isSpace char)
  let attributes ← many assignment
  skipWhile isSpace
  if haveDistinctNames attributes && attributes.all isProperDeclaration then
    pure (String.ofList name, attributes)
  else failure

def spanTag : Option Char → List Char → Option (List Char × List Char)
  | _, [] => none
  | none, '>' :: rest => some ([], rest)
  | none, char :: rest =>
      let quote := if char = '"' ∨ char = '\'' then some char else none
      (spanTag quote rest).map (fun (inside, after) => (char :: inside, after))
  | some quote, char :: rest =>
      let still := if char = quote then none else some quote
      (spanTag still rest).map (fun (inside, after) => (char :: inside, after))

def cutSlash (inside : List Char) : List Char × Bool :=
  if inside.getLast? = some '/' then (inside.dropLast, true) else (inside, false)

def openingTag : Reading Piece := do
  char '<'
  let inside ← fun text => spanTag none text
  let (inside, isEmpty) := cutSlash inside
  match whole? tagInside inside with
  | some (name, attributes) => pure (.opening name attributes isEmpty)
  | none => failure

def closingTag : Reading Piece := do
  word "</"
  let inside ← takeUntil ">"
  pure (.closing (String.ofList (inside.reverse.dropWhile isSpace).reverse))

def comment : Reading Piece := do
  word "<!--"
  let _ ← takeUntil "-->"
  pure .aside

def verbatim : Reading Piece := do
  word "<![CDATA["
  return .verbatim (String.ofList (← takeUntil "]]>"))

def spanBalanced : Nat → List Char → Option (List Char × List Char)
  | _, [] => none
  | depth, char :: rest =>
      if char = '>' ∧ depth = 0 then some ([], rest)
      else
        let depth := if char = '<' then depth + 1 else if char = '>' then depth - 1 else depth
        (spanBalanced depth rest).map (fun (inside, after) => (char :: inside, after))

def takeCount : Nat → Reading (List Char)
  | 0 => pure []
  | count + 1 => do return (← next) :: (← takeCount count)

def documentType : Reading Piece := do
  word "<!"
  let keyword ← takeCount "doctype".length
  if (String.ofList keyword).toLower ≠ "doctype" then failure
  let inside ← fun text => spanBalanced 0 text
  if inside.all isSpace then failure
  pure (.documentType ((Text.fields '<' inside).drop 1))

def encodingNames : List String :=
  ["utf-8", "utf8", "unicode-1-1-utf-8", "unicode11utf8", "unicode20utf8", "x-unicode20utf8"]

/-- The encoding that a declaration names, if it names one. What stands after it is not read. -/
def declaredEncoding : Nat → Reading (Option String)
  | 0 => failure
  | limit + 1 => fun text =>
      if text.all isSpace then some (none, [])
      else do
        let (entry, rest) ← assignment text
        if entry.name = "encoding" then pure (some entry.value, [])
        else declaredEncoding limit rest

def isProperHeader (inside : List Char) : Bool :=
  match declaredEncoding (inside.length + 1) inside with
  | some (encoding, _) => encoding.all (fun name => encodingNames.contains name.toLower)
  | none => false

/-- A processing instruction. The one with the name `xml` is the declaration of the document. -/
def instruction : Reading Piece := do
  char '<'
  let marked ← takeUntil "?>"
  match marked with
  | '?' :: inside =>
      let (name, rest) := inside.span (fun char => !isSpace char)
      -- Under this name it is the declaration of the document.
      if name = "xml".toList && !isProperHeader rest then failure else pure .aside
  | _ => failure

def writtenText : Reading Piece := do
  return .text (String.ofList (← takeSome (· != '<')))

def piece : Reading Piece :=
  writtenText <|> comment <|> verbatim <|> documentType <|> instruction <|> closingTag <|> (do
    let mark ← remaining
    if ['<', '!'].isPrefixOf mark || ['<', '?'].isPrefixOf mark || ['<', '/'].isPrefixOf mark then
      failure
    else openingTag)

structure OpenElement where
  tag : Tag
  content : List Content := []

/-- What has been read: the content of the outermost level, the open elements from the inside out,
and the entities. -/
structure Progress where
  outermost : List Content := []
  opened : List OpenElement := []
  entities : Entities := []

namespace Progress

def add (content : Content) (progress : Progress) : Progress :=
  match progress.opened with
  | [] => { progress with outermost := content :: progress.outermost }
  | inner :: outer =>
      { progress with opened := { inner with content := content :: inner.content } :: outer }

def close (closed : Bool) (progress : Progress) : Progress :=
  match progress.opened with
  | [] => progress
  | inner :: outer =>
      { progress with opened := outer }.add
        (.element inner.tag inner.content.reverse closed)

/-- Takes one piece. References can only be to entities that are declared before them. -/
def step (progress : Progress) : Piece → Option Progress
  | .opening name attributes isEmpty =>
      let tag := ⟨name, attributes, progress.entities⟩
      if isEmpty then some (progress.add (.element tag [] true))
      else some { progress with opened := ⟨tag, []⟩ :: progress.opened }
  | .closing name =>
      match progress.opened with
      | inner :: _ => if inner.tag.name = name then some (progress.close true) else none
      | [] => none
  | .text written => do
      return progress.add (.text (← expand? progress.entities written))
  | .verbatim text => some (progress.add (.text text))
  | .documentType parts => do
      return { progress with entities := ← parts.foldlM declare progress.entities }
  | .aside => some progress

def finish (progress : Progress) : List Content :=
  (progress.opened.foldl (fun progress _ => progress.close false) progress).outermost.reverse

end Progress

def withoutByteOrder : List Char → List Char
  | '\ufeff' :: rest => rest
  | text => text

def parse? (text : String) : Option (List Content) := do
  let pieces ← whole? (many piece) (withoutByteOrder text.toList)
  let progress ← pieces.foldlM Progress.step {}
  pure progress.finish

end OntologyLint.Xml
