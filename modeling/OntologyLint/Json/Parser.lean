import OntologyLint.Json.Basic
import OntologyLint.Text.Digits
import OntologyLint.Text.Reading

set_option autoImplicit false

/-! JSON values of JSON texts. Nothing is read leniently: a control character in a string, half of a
surrogate pair, a leading zero or a trailing comma makes the text no JSON text. -/

namespace OntologyLint.Json

open Text (Reading)
open Text.Reading

def isSpace (char : Char) : Bool := char == ' ' || char == '\n' || char == '\t' || char == '\r'

def skipSpace : Reading Unit := skipWhile isSpace

def hexDigit : Reading Nat := do
  let digit ← next
  match Text.hexDigitValue? digit with
  | some value => pure value
  | none => failure

def codeUnit : Reading Nat := do
  let a ← hexDigit
  let b ← hexDigit
  let c ← hexDigit
  let d ← hexDigit
  pure (((a * 16 + b) * 16 + c) * 16 + d)

/-- The character that one code, or a pair of surrogate codes, stands for. -/
def codedChar : Reading Char := do
  let high ← codeUnit
  if 0xd800 ≤ high ∧ high < 0xdc00 then
    word "\\u"
    let low ← codeUnit
    if 0xdc00 ≤ low ∧ low < 0xe000 then
      pure (Char.ofNat (0x10000 + (high - 0xd800) * 0x400 + (low - 0xdc00)))
    else failure
  else if 0xdc00 ≤ high ∧ high < 0xe000 then failure
  else pure (Char.ofNat high)

def escapedChar : Reading Char := do
  let mark ← next
  match mark with
  | '"' => pure '"'
  | '\\' => pure '\\'
  | '/' => pure '/'
  | 'b' => pure '\x08'
  | 'f' => pure '\x0c'
  | 'n' => pure '\n'
  | 'r' => pure '\r'
  | 't' => pure '\t'
  | 'u' => codedChar
  | _ => failure

def stringChar : Reading Char := do
  let char ← satisfying (fun char => char ≠ '"' && 32 ≤ char.toNat)
  if char = '\\' then escapedChar else pure char

def quoted : Reading String := do
  char '"'
  let chars ← many stringChar
  char '"'
  pure (String.ofList chars)

def wholeDigits : Reading (List Char) := do
  let first ← satisfying Char.isDigit
  if first = '0' then pure ['0'] else return first :: (← takeWhile Char.isDigit)

def orNothing (part : Reading (List Char)) : Reading (List Char) := part <|> pure []

def fractionDigits : Reading (List Char) := do
  char '.'
  return '.' :: (← takeSome Char.isDigit)

def exponentDigits : Reading (List Char) := do
  let mark ← satisfying (fun char => char == 'e' || char == 'E')
  let sign ← orNothing (do return [← satisfying (fun char => char == '+' || char == '-')])
  return mark :: sign ++ (← takeSome Char.isDigit)

def ifStarted (starts : Char → Bool) (part : Reading (List Char)) : Reading (List Char) := do
  match ← peek? with
  | some char => if starts char then part else pure []
  | none => pure []

def numeral : Reading Json := do
  let sign ← orNothing (do char '-'; pure ['-'])
  let digits ← wholeDigits
  let fraction ← ifStarted (· == '.') fractionDigits
  let exponent ← ifStarted (fun char => char == 'e' || char == 'E') exponentDigits
  pure (.number (String.ofList (sign ++ digits ++ fraction ++ exponent)))

def scalar : Reading Json :=
  (do word "null"; pure .null) <|> (do word "true"; pure (.boolean true)) <|>
    (do word "false"; pure (.boolean false)) <|> (Json.string <$> quoted) <|> numeral

def itemsUntil {α : Type} (closing : Char) (item : Reading α) : Reading (List α) := do
  skipSpace
  (do char closing; pure []) <|> (do
    let items ← separated (do skipSpace; char ','; skipSpace) item
    skipSpace
    char closing
    pure items)

def listOf (item : Reading Json) : Reading Json := do
  char '['
  return .list (← itemsUntil ']' item)

def field (value : Reading Json) : Reading (String × Json) := do
  let key ← quoted
  skipSpace
  char ':'
  skipSpace
  return (key, ← value)

def objectOf (value : Reading Json) : Reading Json := do
  char '\x7b'
  return .object (← itemsUntil '\x7d' (field value))

/-- A value in which lists and objects are nested at most `depth` deep. -/
def value : Nat → Reading Json
  | 0 => scalar
  | depth + 1 => do
      match ← peek? with
      | some '[' => listOf (value depth)
      | some '\x7b' => objectOf (value depth)
      | _ => scalar

/-- The nesting that a text may have. -/
def nestingLimit : Nat := 127

def parse? (text : String) : Option Json :=
  whole? (do skipSpace; let value ← value nestingLimit; skipSpace; pure value) text.toList

end OntologyLint.Json
