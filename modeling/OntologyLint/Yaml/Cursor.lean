import OntologyLint.Yaml.Character

set_option autoImplicit false

/-! Places in a YAML text, and the rules that move along it. Where a piece of the text belongs
depends on its line and column, so a place knows them. -/

namespace OntologyLint.Yaml

/-- A place in a text: what follows it, and how far it is from the start. -/
structure Cursor where
  rest : List Char
  index : Nat := 0
  line : Nat := 0
  column : Nat := 0
  deriving Inhabited

/-- A rule that takes something from a text, or refuses the text. -/
abbrev Scan (α : Type) : Type := StateT Cursor Option α

namespace Cursor

def advance (cursor : Cursor) (count : Nat) : Cursor :=
  { cursor with
    rest := cursor.rest.drop count
    index := cursor.index + count
    column := cursor.column + count }

def nextLine (cursor : Cursor) (count : Nat) : Cursor :=
  { rest := cursor.rest.drop count, index := cursor.index + count, line := cursor.line + 1 }

end Cursor

namespace Scan

def peek? : Scan (Option Char) := do
  return (← get).rest.head?

def peekSecond? : Scan (Option Char) := do
  return (← get).rest[1]?

def column : Scan Nat := do
  return (← get).column

def limit : Scan Nat := do
  return (← get).rest.length + 1

def next : Scan Char := do
  let cursor ← get
  match cursor.rest with
  | [] => failure
  | char :: _ =>
      set (cursor.advance 1)
      pure char

def char (expected : Char) : Scan Unit := do
  if (← next) = expected then pure () else failure

def takeWhile (accepts : Char → Bool) : Scan (List Char) := do
  let cursor ← get
  let taken := cursor.rest.takeWhile accepts
  set (cursor.advance taken.length)
  pure taken

def skipWhile (accepts : Char → Bool) : Scan Unit := do
  let _ ← takeWhile accepts

/-- Takes the end of a line, if there is one here. All ends of lines are the same, except that the
separators of lines and of paragraphs stand for themselves. -/
def takeBreak : Scan (List Char) := do
  let cursor ← get
  match cursor.rest with
  | '\r' :: '\n' :: _ =>
      set (cursor.nextLine 2)
      pure ['\n']
  | char :: _ =>
      if !isBreak char then pure []
      else
        set (cursor.nextLine 1)
        pure [if char = '\u2028' ∨ char = '\u2029' then char else '\n']
  | [] => pure []

def skipComment : Scan Unit := do
  if (← peek?) = some '#' then skipWhile (fun char => !isBreak char)

def lineRest : Scan Unit := do
  skipWhile isBlank
  skipComment
  if endsLine (← peek?) then
    let _ ← takeBreak
  else failure

def isLineMark (mark : Char) : Scan Bool := do
  let cursor ← get
  pure (cursor.column == 0 && cursor.rest.take 3 == [mark, mark, mark] && endsWord cursor.rest[3]?)

def isDocumentMark : Scan Bool := do
  return (← isLineMark '-') || (← isLineMark '.')

end Scan

end OntologyLint.Yaml
