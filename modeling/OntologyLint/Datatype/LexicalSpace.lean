import OntologyLint.Datatype.Calendar
import OntologyLint.Datatype.Integer

set_option autoImplicit false

/-! The lexical space of each known datatype. -/

namespace OntologyLint

def isNormalized (text : List Char) : Bool :=
  !text.any (fun char => char == '\n' || char == '\r' || char == '\t')

def hasDoubleSpace : List Char → Bool
  | ' ' :: ' ' :: _ => true
  | _ :: rest => hasDoubleSpace rest
  | [] => false

/-- Normalized, with single spaces between words and none outside them. -/
def isToken (text : List Char) : Bool :=
  isNormalized text && text.head? != some ' ' && text.getLast? != some ' ' && !hasDoubleSpace text

def isBoolean (text : List Char) : Bool :=
  text == "true".toList || text == "false".toList || text == ['1'] || text == ['0']

def KnownDatatype.accepts (datatype : KnownDatatype) (text : List Char) : Bool :=
  match datatype with
  | .string => true
  | .normalizedString => isNormalized text
  | .token => isToken text
  | .language => Notation.isLanguage text
  | .boolean => isBoolean text
  | .decimal => Notation.isDecimal text
  | .double | .float => Notation.isFloating text
  | .date => Calendar.isDate text
  | .dateTime => Calendar.isDateTime text
  | .time => Calendar.isTime text
  | .gYear => Notation.isYear text
  | .anyURI => !text.any Text.isBlank
  | .integer | .nonNegativeInteger | .positiveInteger | .nonPositiveInteger | .negativeInteger
  | .long | .int | .short | .byte
  | .unsignedLong | .unsignedInt | .unsignedShort | .unsignedByte =>
      datatype.integerRange?.any (fun range => isIntegerOf range text)

/-- Whether a text is a lexical form of a datatype, if the datatype is known. -/
def inLexicalSpace? (lexical datatype : String) : Option Bool :=
  (KnownDatatype.ofIri? datatype).map (fun known => known.accepts lexical.toList)

end OntologyLint
