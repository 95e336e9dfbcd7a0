import OntologyLint.Document.Name
import OntologyLint.Text.Digits

set_option autoImplicit false

/-! Names of two parts with a colon between them. The second part, the local name, may hold percent
codes, which are kept as they are, and characters with a backslash, which loses its meaning. -/

namespace OntologyLint.Document.Turtle

open Text (Reading)
open Text.Reading

def plainWord : Reading String := do
  let found ← nameFrom isLetter
  let after ← remaining
  if (after.dropWhile (· == '.')).head? = some ':' then failure else pure found

def prefixPart : Reading String := do
  let found ← nameFrom isLetter <|> pure ""
  char ':'
  pure found

inductive LocalPiece
  | plain (char : Char)
  | coded (high low : Char)
  | escaped (char : Char)
  deriving DecidableEq, Inhabited

namespace LocalPiece

def text : LocalPiece → List Char
  | plain char => [char]
  | coded high low => ['%', high, low]
  | escaped char => [char]

def written : LocalPiece → List Char
  | escaped char => ['\\', char]
  | piece => piece.text

def isEscaped : LocalPiece → Bool
  | escaped _ => true
  | _ => false

/-- Characters beyond ASCII that names can hold and IRIs cannot. -/
def doubtfulRanges : List (Nat × Nat) := [
  (0xfff0, 0xfffd), (0x1fffe, 0x1ffff), (0x2fffe, 0x2ffff), (0x3fffe, 0x3ffff),
  (0x4fffe, 0x4ffff), (0x5fffe, 0x5ffff), (0x6fffe, 0x6ffff), (0x7fffe, 0x7ffff),
  (0x8fffe, 0x8ffff), (0x9fffe, 0x9ffff), (0xafffe, 0xaffff), (0xbfffe, 0xbffff),
  (0xcfffe, 0xcffff), (0xdfffe, 0xdffff)]

/-- The piece can make an IRI wrong, so that an IRI with it has to be looked into. -/
def isDoubtful : LocalPiece → Bool
  | plain char => char == ':' || Iri.inRanges doubtfulRanges char
  | coded _ _ => false
  | escaped char => "/?#@%".toList.contains char

end LocalPiece

def isEscapable (char : Char) : Bool := "_~.-!$&'()*+,;=/?#@%".toList.contains char

def isLocalStart (char : Char) : Bool := isLabelStart char || char == ':'

def isLocalChar (char : Char) : Bool := isInnerChar char || char == ':'

def isHexDigit (char : Char) : Bool := (Text.hexDigitValue? char).isSome

def localPiece (allowed : Char → Bool) : Reading LocalPiece :=
  (do return .plain (← satisfying allowed)) <|>
  (do
    char '%'
    let high ← satisfying isHexDigit
    let low ← satisfying isHexDigit
    pure (.coded high low)) <|>
  (do
    char '\\'
    return .escaped (← satisfying isEscapable))

def localPieces : Reading (List LocalPiece) :=
  (do
    let first ← localPiece isLocalStart
    let others ← many (localPiece isLocalChar)
    pure (first :: others)) <|> pure []

def spellInside (pieces : List LocalPiece) : List Char × List Char :=
  let dots := pieces.reverse.takeWhile (· == .plain '.')
  let kept := pieces.take (pieces.length - dots.length)
  (kept.flatMap LocalPiece.text, dots.flatMap LocalPiece.text)

/-- The name that pieces spell where the document ends in them and one of them is escaped. Then the
name ends with the last escaped piece. For each dot that it would still end with, one character of
the document is taken to stand behind the name instead. -/
def spellAtEnd (pieces : List LocalPiece) : List Char × List Char :=
  let kept := (pieces.reverse.dropWhile (fun piece => !piece.isEscaped)).reverse
  let (name, dots) := cutEndDots (kept.flatMap LocalPiece.text)
  let written := pieces.flatMap LocalPiece.written
  (name, written.drop (written.length - dots.length))

def localName : Reading (String × Bool) := do
  let pieces ← localPieces
  let isLast := (← remaining).isEmpty
  let (name, left) :=
    if isLast && pieces.any LocalPiece.isEscaped then spellAtEnd pieces else spellInside pieces
  modify (left ++ ·)
  pure (String.ofList name, pieces.any LocalPiece.isDoubtful)

end OntologyLint.Document.Turtle
