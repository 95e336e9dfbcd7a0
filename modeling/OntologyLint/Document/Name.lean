import OntologyLint.Iri.Characters
import OntologyLint.Text.Reading

set_option autoImplicit false

/-! The names that graph documents use, and the labels of blank nodes among them. A name may hold
dots, but not at its end, where a dot ends a statement. -/

namespace OntologyLint.Document

open Text (Reading)
open Text.Reading

def letterRanges : List (Nat × Nat) := [
  (0xc0, 0xd6), (0xd8, 0xf6), (0xf8, 0x2ff), (0x370, 0x37d), (0x37f, 0x1fff), (0x200c, 0x200d),
  (0x2070, 0x218f), (0x2c00, 0x2fef), (0x3001, 0xd7ff), (0xf900, 0xfdcf), (0xfdf0, 0xfffd),
  (0x10000, 0xeffff)]

def markRanges : List (Nat × Nat) := [(0xb7, 0xb7), (0x300, 0x36f), (0x203f, 0x2040)]

def isLetter (char : Char) : Bool := char.isAlpha || Iri.inRanges letterRanges char

def isLabelStart (char : Char) : Bool := isLetter char || char == '_' || char.isDigit

def isNameChar (char : Char) : Bool :=
  isLabelStart char || char == '-' || Iri.inRanges markRanges char

def isInnerChar (char : Char) : Bool := isNameChar char || char == '.'

def cutEndDots (text : List Char) : List Char × List Char :=
  let name := (text.reverse.dropWhile (· == '.')).reverse
  (name, text.drop name.length)

/-- A name that starts with a character of a class, without any dots at its end. -/
def nameFrom (starts : Char → Bool) : Reading String := do
  let first ← satisfying starts
  let others ← fun text =>
    let (run, rest) := text.span isInnerChar
    let (name, dots) := cutEndDots run
    some (name, dots ++ rest)
  pure (String.ofList (first :: others))

def blankLabel : Reading String := do
  word "_:"
  nameFrom isLabelStart

end OntologyLint.Document
