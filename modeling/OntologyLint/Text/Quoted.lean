import OntologyLint.Text.Visible

set_option autoImplicit false

/-! Texts in double quotes. Inside, a few characters have a two-character escape, other characters
without a visible form are written by their code, and the rest stands for itself. -/

namespace OntologyLint.Text

def hexCode (char : Char) : List Char := Nat.toDigits 16 char.toNat

/-- A character between quotes. A single quote needs no escape there. -/
def quotedChar (char : Char) : List Char :=
  if char = '\x00' then ['\\', '0']
  else if char = '\t' then ['\\', 't']
  else if char = '\r' then ['\\', 'r']
  else if char = '\n' then ['\\', 'n']
  else if char = '\\' then ['\\', '\\']
  else if char = '"' then ['\\', '"']
  else if isVisible char then [char]
  else ['\\', 'u', '\x7b'] ++ hexCode char ++ ['\x7d']

def quoted (text : String) : String :=
  String.ofList ('"' :: text.toList.flatMap quotedChar ++ ['"'])

end OntologyLint.Text
