import OntologyLint.Vocabulary

set_option autoImplicit false

/-! The datatypes whose lexical spaces are known, and which of them restrict which. -/

namespace OntologyLint

inductive KnownDatatype
  | integer | nonNegativeInteger | positiveInteger | nonPositiveInteger | negativeInteger
  | long | int | short | byte
  | unsignedLong | unsignedInt | unsignedShort | unsignedByte
  | string | normalizedString | token | language
  | boolean | decimal | double | float
  | date | dateTime | time | gYear
  | anyURI
  deriving DecidableEq, Inhabited

namespace KnownDatatype

def all : List KnownDatatype := [
  .integer, .nonNegativeInteger, .positiveInteger, .nonPositiveInteger, .negativeInteger,
  .long, .int, .short, .byte,
  .unsignedLong, .unsignedInt, .unsignedShort, .unsignedByte,
  .string, .normalizedString, .token, .language,
  .boolean, .decimal, .double, .float,
  .date, .dateTime, .time, .gYear,
  .anyURI]

def name : KnownDatatype → String
  | .integer => "integer"
  | .nonNegativeInteger => "nonNegativeInteger"
  | .positiveInteger => "positiveInteger"
  | .nonPositiveInteger => "nonPositiveInteger"
  | .negativeInteger => "negativeInteger"
  | .long => "long"
  | .int => "int"
  | .short => "short"
  | .byte => "byte"
  | .unsignedLong => "unsignedLong"
  | .unsignedInt => "unsignedInt"
  | .unsignedShort => "unsignedShort"
  | .unsignedByte => "unsignedByte"
  | .string => "string"
  | .normalizedString => "normalizedString"
  | .token => "token"
  | .language => "language"
  | .boolean => "boolean"
  | .decimal => "decimal"
  | .double => "double"
  | .float => "float"
  | .date => "date"
  | .dateTime => "dateTime"
  | .time => "time"
  | .gYear => "gYear"
  | .anyURI => "anyURI"

def iri (datatype : KnownDatatype) : String := Xsd.named datatype.name

def ofIri? (text : String) : Option KnownDatatype :=
  all.find? (fun datatype => datatype.iri = text)

def base? : KnownDatatype → Option KnownDatatype
  | .integer => some .decimal
  | .nonNegativeInteger => some .integer
  | .nonPositiveInteger => some .integer
  | .long => some .integer
  | .positiveInteger => some .nonNegativeInteger
  | .unsignedLong => some .nonNegativeInteger
  | .negativeInteger => some .nonPositiveInteger
  | .int => some .long
  | .short => some .int
  | .byte => some .short
  | .unsignedInt => some .unsignedLong
  | .unsignedShort => some .unsignedInt
  | .unsignedByte => some .unsignedShort
  | .normalizedString => some .string
  | .token => some .normalizedString
  | .language => some .token
  | _ => none

/-- A datatype and the bases above it, at most `steps` of them. -/
def lineageUpTo : Nat → KnownDatatype → List KnownDatatype
  | 0, datatype => [datatype]
  | steps + 1, datatype =>
      match datatype.base? with
      | none => [datatype]
      | some base => datatype :: lineageUpTo steps base

def lineage (datatype : KnownDatatype) : List KnownDatatype := lineageUpTo all.length datatype

end KnownDatatype

def isDerivedFrom (datatype base : String) : Bool :=
  datatype == base ||
    match KnownDatatype.ofIri? datatype, KnownDatatype.ofIri? base with
    | some datatype, some base => datatype.lineage.contains base
    | _, _ => false

end OntologyLint
