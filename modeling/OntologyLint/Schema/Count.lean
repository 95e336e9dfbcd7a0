import OntologyLint.Text.Blank
import OntologyLint.Text.Digits

set_option autoImplicit false

/-! Counts as restrictions write them: an optional plus sign and decimal digits, with blanks allowed
around them, for a number below 2^64. -/

namespace OntologyLint.Count

def limit : Nat := 0x10000000000000000

def afterPlus : List Char → List Char
  | '+' :: digits => digits
  | digits => digits

def read? (text : String) : Option Nat :=
  let digits := afterPlus (Text.trim text.toList)
  if Text.isNumeral digits ∧ Text.ofDigits digits < limit then some (Text.ofDigits digits) else none

end OntologyLint.Count
