set_option autoImplicit false

/-! The characters of YAML texts: those that end a line, those that stand between words, and those
that have a meaning of their own. -/

namespace OntologyLint.Yaml

def isBlank (char : Char) : Bool := char == ' ' || char == '\t'

def isBreak (char : Char) : Bool :=
  char == '\n' || char == '\r' || char == '\u0085' || char == '\u2028' || char == '\u2029'

/-- A character that a text may hold at all: no control but tabulators and line ends, and neither
the mark of a byte order nor the two characters that stand for none. -/
def isPermitted (char : Char) : Bool :=
  let code := char.toNat
  char == '\t' || char == '\n' || char == '\r' || char == '\u0085' ||
    (0x20 ≤ code && code ≤ 0x7e) ||
    (0xa0 ≤ code && code ≤ 0xfffd && code != 0xfeff) || 0x10000 ≤ code

def isNameChar (char : Char) : Bool := char.isAlphanum || char == '-' || char == '_'

def isFlowMark (char : Char) : Bool := ",[]\x7b\x7d".toList.contains char

def endsLine : Option Char → Bool
  | none => true
  | some char => isBreak char

def endsWord : Option Char → Bool
  | none => true
  | some char => isBlank char || isBreak char

end OntologyLint.Yaml
