set_option autoImplicit false

/-! Digits and the numbers that they denote. Decimal digits are the ten of ASCII. -/

namespace OntologyLint.Text

def digitValue (digit : Char) : Nat := digit.toNat - '0'.toNat

def hexDigitValue? (digit : Char) : Option Nat :=
  if digit.isDigit then some (digitValue digit)
  else if 'a' ≤ digit ∧ digit ≤ 'f' then some (digit.toNat - 'a'.toNat + 10)
  else if 'A' ≤ digit ∧ digit ≤ 'F' then some (digit.toNat - 'A'.toNat + 10)
  else none

def ofDigits (digits : List Char) : Nat :=
  digits.foldl (fun value digit => 10 * value + digitValue digit) 0

def isNumeral (text : List Char) : Bool := !text.isEmpty && text.all Char.isDigit

def spanDigits (text : List Char) : List Char × List Char := text.span Char.isDigit

def isSign (char : Char) : Bool := char == '+' || char == '-'

def afterSign : List Char → List Char
  | [] => []
  | char :: rest => if isSign char then rest else char :: rest

end OntologyLint.Text
