import OntologyLint.Text.Blank
import OntologyLint.Text.Digits
import OntologyLint.Text.Reading
import OntologyLint.Xml.Tree

set_option autoImplicit false

/-! Entity references. A reference stands for a character by its number or for a text by its name;
five names are always known and a document can declare others. -/

namespace OntologyLint.Xml

def isSpace (char : Char) : Bool := char == ' ' || char == '\t' || char == '\n' || char == '\r'

def predefined : Entities :=
  [("lt", "<"), ("gt", ">"), ("amp", "&"), ("apos", "'"), ("quot", "\"")]

def ofHexDigits? (digits : List Char) : Option Nat :=
  if digits.isEmpty then none
  else digits.foldlM (fun value digit => (Text.hexDigitValue? digit).map (16 * value + ·)) 0

def ofDecimalDigits? (digits : List Char) : Option Nat :=
  if Text.isNumeral digits then some (Text.ofDigits digits) else none

/-- The character with a number. The null character cannot be referred to. -/
def charOfNumber? (number : Nat) : Option Char :=
  if number ≠ 0 ∧ number.isValidChar then some (Char.ofNat number) else none

def meaning? (entities : Entities) : List Char → Option (List Char)
  | '#' :: 'x' :: digits => do return [← charOfNumber? (← ofHexDigits? digits)]
  | '#' :: digits => do return [← charOfNumber? (← ofDecimalDigits? digits)]
  | name =>
      ((predefined ++ entities).find? (fun entity => entity.1.toList = name)).map
        (fun entity => entity.2.toList)

/-- Replaces references by what they stand for. `open?` is the part of a reference that has been
read, the last character first. -/
def expandFrom (entities : Entities) : Option (List Char) → List Char → Option (List Char)
  | none, [] => some []
  | some _, [] => none
  | none, char :: rest =>
      if char = '&' then expandFrom entities (some []) rest
      else (expandFrom entities none rest).map (char :: ·)
  | some name, char :: rest =>
      if char = '&' then none
      else if char = ';' then do
        let text ← meaning? entities name.reverse
        let others ← expandFrom entities none rest
        pure (text ++ others)
      else expandFrom entities (some (char :: name)) rest

def expand? (entities : Entities) (text : String) : Option String :=
  (expandFrom entities none text.toList).map String.ofList

def escapeChar (char : Char) : List Char :=
  if char = '<' then "&lt;".toList
  else if char = '>' then "&gt;".toList
  else if char = '&' then "&amp;".toList
  else if char = '\'' then "&apos;".toList
  else if char = '"' then "&quot;".toList
  else [char]

def escape (text : String) : String := String.ofList (text.toList.flatMap escapeChar)

def isNameEnd (char : Char) : Bool := isSpace char || char == '\x0c'

open Text (Reading)
open Text.Reading in
/-- The name and the text of one declaration, after its keyword. Blanks of all kinds can stand
between the parts, but only those of ASCII end the name. -/
def declaration : Reading (String × String) := do
  skipWhile Text.isBlank
  (do char '%'; skipWhile Text.isBlank) <|> pure ()
  let name ← takeSome (fun char => !isNameEnd char)
  let _ ← satisfying isNameEnd
  skipWhile Text.isBlank
  char '"'
  let text ← takeUntil "\""
  skipWhile Text.isBlank
  char '>'
  pure (String.ofList name, String.ofList text)

/-- Adds the entity that one part of a document type declares, if it declares one. Texts of entities
may refer to earlier entities. -/
def declare (entities : Entities) (part : List Char) : Option Entities :=
  if "!ENTITY".toList.isPrefixOf part then do
    let ((name, text), _) ← declaration (part.drop "!ENTITY".length)
    let text ← expand? entities text
    pure ((name, text) :: entities)
  else some entities

end OntologyLint.Xml
