import OntologyLint.Datatype.Known
import OntologyLint.Text.Digits

set_option autoImplicit false

/-! Integers in decimal notation, and the range of each integer datatype. Numerals are read into 128
bits. A numeral that does not fit is judged by its sign: a range that ends where the 128 bits end is
open on that side. -/

namespace OntologyLint

namespace WideInteger

def least : Int := -0x80000000000000000000000000000000

def greatest : Int := 0x7FFFFFFFFFFFFFFFFFFFFFFFFFFFFFFF

def fit? (value : Int) : Option Int :=
  if least ≤ value ∧ value ≤ greatest then some value else none

def append? (negative : Bool) (value : Int) (digit : Char) : Option Int := do
  let shifted ← fit? (10 * value)
  fit? (if negative then shifted - Text.digitValue digit else shifted + Text.digitValue digit)

/-- Reads an optional sign and one or more digits, as long as the value fits. -/
def read? (text : List Char) : Option Int :=
  let digits := Text.afterSign text
  if Text.isNumeral digits then digits.foldlM (append? (text.head? == some '-')) 0 else none

end WideInteger

structure IntegerRange where
  least : Int := WideInteger.least
  greatest : Int := WideInteger.greatest
  fits : WideInteger.least ≤ least ∧ least ≤ greatest ∧ greatest ≤ WideInteger.greatest := by decide

namespace KnownDatatype

def integerRange? : KnownDatatype → Option IntegerRange
  | .integer => some {}
  | .nonNegativeInteger => some { least := 0 }
  | .positiveInteger => some { least := 1 }
  | .nonPositiveInteger => some { greatest := 0 }
  | .negativeInteger => some { greatest := -1 }
  | .long => some { least := -0x8000000000000000, greatest := 0x7FFFFFFFFFFFFFFF }
  | .int => some { least := -0x80000000, greatest := 0x7FFFFFFF }
  | .short => some { least := -0x8000, greatest := 0x7FFF }
  | .byte => some { least := -0x80, greatest := 0x7F }
  | .unsignedLong => some { least := 0, greatest := 0xFFFFFFFFFFFFFFFF }
  | .unsignedInt => some { least := 0, greatest := 0xFFFFFFFF }
  | .unsignedShort => some { least := 0, greatest := 0xFFFF }
  | .unsignedByte => some { least := 0, greatest := 0xFF }
  | _ => none

end KnownDatatype

def isIntegerOf (range : IntegerRange) (text : List Char) : Bool :=
  Text.isNumeral (Text.afterSign text) &&
    match WideInteger.read? text with
    | some value => range.least ≤ value && value ≤ range.greatest
    | none =>
        if text.head? == some '-' then range.least == WideInteger.least
        else range.greatest == WideInteger.greatest

end OntologyLint
