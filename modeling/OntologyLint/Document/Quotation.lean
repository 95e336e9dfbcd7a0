import OntologyLint.Text.Digits
import OntologyLint.Text.Reading

set_option autoImplicit false

/-! Texts between quotes and references between angle brackets, as graph documents write them. -/

namespace OntologyLint.Document

open Text (Reading)
open Text.Reading

def hexNumber : Nat → Reading Nat
  | 0 => pure 0
  | width + 1 => do
      let digit ← next
      match Text.hexDigitValue? digit with
      | none => failure
      | some value => return value * 16 ^ width + (← hexNumber width)

def charOfCode? (code : Nat) : Option Char :=
  if code.isValidChar then some (Char.ofNat code) else none

def codedChar : Reading Char := do
  let mark ← satisfying (fun char => char == 'u' || char == 'U')
  let code ← hexNumber (if mark = 'u' then 4 else 8)
  match charOfCode? code with
  | some char => pure char
  | none => failure

def namedEscape? : Char → Option Char
  | 't' => some '\t'
  | 'b' => some '\x08'
  | 'n' => some '\n'
  | 'r' => some '\r'
  | 'f' => some '\x0c'
  | '"' => some '"'
  | '\'' => some '\''
  | '\\' => some '\\'
  | _ => none

def namedChar : Reading Char := do
  let mark ← next
  match namedEscape? mark with
  | some char => pure char
  | none => failure

def quotedChar (allowed : Char → Bool) : Reading Char := do
  let char ← satisfying (fun char => char == '\\' || allowed char)
  if char = '\\' then namedChar <|> codedChar else pure char

def shortQuoted (quote : Char) : Reading String := do
  char quote
  let chars ← many (quotedChar (fun char => char != quote && char != '\n' && char != '\r'))
  char quote
  pure (String.ofList chars)

def longMark (quote : Char) : Reading Unit := exactly [quote, quote, quote]

def longQuotedChar (quote : Char) : Reading Char := do
  let text ← remaining
  if [quote, quote, quote].isPrefixOf text then failure
  else quotedChar (fun _ => true)

def longQuoted (quote : Char) : Reading String := do
  longMark quote
  let chars ← many (longQuotedChar quote)
  longMark quote
  pure (String.ofList chars)

def bracketedChar : Reading Char := do
  let char ← satisfying (· != '>')
  if char = '\\' then codedChar else pure char

/-- A reference between angle brackets, not yet looked into. -/
def bracketed : Reading String := do
  char '<'
  let chars ← many bracketedChar
  char '>'
  pure (String.ofList chars)

def tagText : Reading String := do
  char '@'
  let first ← takeSome Char.isAlpha
  let others ← many (do
    char '-'
    return '-' :: (← takeSome Char.isAlphanum))
  pure (String.ofList (first ++ others.flatten))

end OntologyLint.Document
