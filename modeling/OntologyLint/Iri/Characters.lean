import OntologyLint.Text.Digits

set_option autoImplicit false

/-! The characters that the parts of an IRI may hold. A character that a part does not allow can be
written by its bytes, each as a percent sign and two hexadecimal digits. -/

namespace OntologyLint.Iri

def inRanges (ranges : List (Nat × Nat)) (char : Char) : Bool :=
  ranges.any (fun (first, last) => first ≤ char.toNat && char.toNat ≤ last)

/-- The characters beyond ASCII that every part may hold. -/
def sharedRanges : List (Nat × Nat) := [
  (0xa0, 0xd7ff), (0xf900, 0xfdcf), (0xfdf0, 0xffef), (0x10000, 0x1fffd), (0x20000, 0x2fffd),
  (0x30000, 0x3fffd), (0x40000, 0x4fffd), (0x50000, 0x5fffd), (0x60000, 0x6fffd),
  (0x70000, 0x7fffd), (0x80000, 0x8fffd), (0x90000, 0x9fffd), (0xa0000, 0xafffd),
  (0xb0000, 0xbfffd), (0xc0000, 0xcfffd), (0xd0000, 0xdfffd), (0xe1000, 0xefffd)]

/-- The characters for private use, which only a query may hold. -/
def privateRanges : List (Nat × Nat) :=
  [(0xe000, 0xf8ff), (0xf0000, 0xffffd), (0x100000, 0x10fffd)]

def isUnreserved (char : Char) : Bool :=
  char.isAlphanum || "-._~".toList.contains char || inRanges sharedRanges char

def isSubDelimiter (char : Char) : Bool := "!$&'()*+,;=".toList.contains char

def isSchemeChar (char : Char) : Bool := char.isAlphanum || "+-.".toList.contains char

def isHostChar (char : Char) : Bool := isUnreserved char || isSubDelimiter char

def isUserChar (char : Char) : Bool := isHostChar char || char == ':'

def isSegmentChar (char : Char) : Bool := isHostChar char || char == ':' || char == '@'

def isPathChar (char : Char) : Bool := isSegmentChar char || char == '/'

def isFragmentChar (char : Char) : Bool := isPathChar char || char == '?'

def isQueryChar (char : Char) : Bool := isFragmentChar char || inRanges privateRanges char

def consistsOf (allowed : Char → Bool) : List Char → Bool
  | [] => true
  | '%' :: high :: low :: rest =>
      (Text.hexDigitValue? high).isSome && (Text.hexDigitValue? low).isSome &&
        consistsOf allowed rest
  | char :: rest => char != '%' && allowed char && consistsOf allowed rest

end OntologyLint.Iri
