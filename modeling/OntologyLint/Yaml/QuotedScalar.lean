import OntologyLint.Text.Digits
import OntologyLint.Yaml.Gap

set_option autoImplicit false

/-! Scalars between quotes, which can go on over several lines. Between double quotes a backslash
gives characters another meaning; between single quotes a quote is written twice. -/

namespace OntologyLint.Yaml

def escapes : List (Char × Char) := [
  ('"', '"'), ('\\', '\\'), ('/', '/'), (' ', ' '), ('\t', '\t'), ('0', '\x00'), ('a', '\x07'),
  ('b', '\x08'), ('t', '\t'), ('n', '\n'), ('v', '\x0b'), ('f', '\x0c'), ('r', '\r'),
  ('e', '\x1b'), ('N', '\u0085'), ('_', '\u00a0'), ('L', '\u2028'), ('P', '\u2029')]

def codeWidth? : Char → Option Nat
  | 'x' => some 2
  | 'u' => some 4
  | 'U' => some 8
  | _ => none

def hexDigits : Nat → Scan Nat
  | 0 => pure 0
  | width + 1 => do
      match Text.hexDigitValue? (← Scan.next) with
      | none => failure
      | some value => return value * 16 ^ width + (← hexDigits width)

def escapedChar : Scan Char := do
  let mark ← Scan.next
  match escapes.find? (fun entry => entry.1 = mark), codeWidth? mark with
  | some (_, char), _ => pure char
  | none, some width =>
      let code ← hexDigits width
      if code.isValidChar then pure (Char.ofNat code) else failure
  | none, none => failure

def singleWord : Nat → Scan (List Char)
  | 0 => failure
  | limit + 1 => do
      match (← get).rest with
      | '\'' :: '\'' :: _ =>
          modify (Cursor.advance · 2)
          return '\'' :: (← singleWord limit)
      | char :: _ =>
          if char = '\'' ∨ endsWord (some char) then pure []
          else return (← Scan.next) :: (← singleWord limit)
      | [] => pure []

/-- A word between double quotes, as far as it goes, and whether a backslash at the end of its line
ends it. -/
def doubleWord : Nat → Scan (List Char × Bool)
  | 0 => failure
  | limit + 1 => do
      match (← get).rest with
      | '\\' :: second =>
          let _ ← Scan.next
          if second.head?.any isBreak then
            let _ ← Scan.takeBreak
            pure ([], true)
          else
            let char ← escapedChar
            let (word, isJoined) ← doubleWord limit
            pure (char :: word, isJoined)
      | char :: _ =>
          if char = '"' ∨ endsWord (some char) then pure ([], false)
          else
            let _ ← Scan.next
            let (word, isJoined) ← doubleWord limit
            pure (char :: word, isJoined)
      | [] => pure ([], false)

def quotedWord (quote : Char) : Scan (List Char × Bool) := do
  let limit ← Scan.limit
  if quote = '\'' then return (← singleWord limit, false) else doubleWord limit

/-- The words and gaps up to the closing quote. No line can be the mark of a document. -/
def quotedFrom (quote : Char) : Nat → Scan (List Char)
  | 0 => failure
  | limit + 1 => do
      if ← Scan.isDocumentMark then failure
      let (word, isJoined) ← quotedWord quote
      match ← Scan.peek? with
      | none => failure
      | some char =>
          if char = quote then
            let _ ← Scan.next
            pure word
          else
            let gap ← Gap.read 0 (if isJoined then .lines [] [] else .blanks [])
            return word ++ gap.text ++ (← quotedFrom quote limit)

def quotedScalar : Scan String := do
  let quote ← Scan.next
  return String.ofList (← quotedFrom quote (← Scan.limit))

end OntologyLint.Yaml
