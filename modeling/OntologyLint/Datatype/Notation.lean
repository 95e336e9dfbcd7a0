import OntologyLint.Text.Digits
import OntologyLint.Text.Fields

set_option autoImplicit false

/-! Notations that need no arithmetic: decimals, floating point numbers, time zones, years and
language names. -/

namespace OntologyLint.Notation

def isUnsignedDecimal (text : List Char) : Bool :=
  match Text.spanDigits text with
  | (whole, []) => !whole.isEmpty
  | (whole, '.' :: fraction) => fraction.all Char.isDigit && !(whole.isEmpty && fraction.isEmpty)
  | _ => false

def isDecimal (text : List Char) : Bool := isUnsignedDecimal (Text.afterSign text)

def isExponentMark (char : Char) : Bool := char == 'e' || char == 'E'

def isScientific (text : List Char) : Bool :=
  match text.span (fun char => !isExponentMark char) with
  | (mantissa, []) => isDecimal mantissa
  | (mantissa, _ :: exponent) => isDecimal mantissa && Text.isNumeral (Text.afterSign exponent)

def isFloating (text : List Char) : Bool :=
  isScientific text || Text.afterSign text == ['I', 'N', 'F'] || text == ['N', 'a', 'N']

def isZoneOffset : List Char → Bool
  | [sign, h1, h2, ':', m1, m2] => Text.isSign sign && [h1, h2, m1, m2].all Char.isDigit
  | _ => false

def isZone (text : List Char) : Bool := text == ['Z'] || isZoneOffset text

/-- Four digits, or more that do not start with zero. -/
def isYearNumber (digits : List Char) : Bool :=
  4 ≤ digits.length && (digits.head? != some '0' || digits.length == 4)

def isYear (text : List Char) : Bool :=
  let unsigned := if text.head? = some '-' then text.drop 1 else text
  match Text.spanDigits unsigned with
  | (digits, zone) => isYearNumber digits && (zone.isEmpty || isZone zone)

def isSubtag (allowed : Char → Bool) (subtag : List Char) : Bool :=
  1 ≤ subtag.length && subtag.length ≤ 8 && subtag.all allowed

def isLanguage (text : List Char) : Bool :=
  match Text.fields '-' text with
  | [] => false
  | primary :: others => isSubtag Char.isAlpha primary && others.all (isSubtag Char.isAlphanum)

end OntologyLint.Notation
