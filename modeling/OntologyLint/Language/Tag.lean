import OntologyLint.Text.Fields

set_option autoImplicit false

/-! Language tags. A tag is a language with optional script, region, variants, extensions and
private parts, in this order, or one of a few tags that are registered as a whole. -/

namespace OntologyLint.LanguageTag

/-- The tags that are registered as a whole, in lower case. -/
def registered : List String := [
  "art-lojban", "cel-gaulish", "en-gb-oed", "i-ami", "i-bnn", "i-default", "i-enochian", "i-hak",
  "i-klingon", "i-lux", "i-mingo", "i-navajo", "i-pwn", "i-tao", "i-tay", "i-tsu", "no-bok",
  "no-nyn", "sgn-be-fr", "sgn-be-nl", "sgn-ch-de", "zh-guoyu", "zh-hakka", "zh-min", "zh-min-nan",
  "zh-xiang"]

/-- How far a tag has been read. A singleton has still to be followed by a part of its own. -/
inductive Stage
  | start
  | language (extensions : Nat)
  | extended
  | script
  | region
  | singleton
  | inExtension
  | privateMark
  | inPrivate
  deriving DecidableEq

def isAlphabetic (part : List Char) : Bool := part.all Char.isAlpha

def isNumeric (part : List Char) : Bool := part.all Char.isDigit

def isPart (part : List Char) : Bool :=
  1 ≤ part.length && part.length ≤ 8 && part.all Char.isAlphanum

def isScript (part : List Char) : Bool := part.length == 4 && isAlphabetic part

def isRegion (part : List Char) : Bool :=
  (part.length == 2 && isAlphabetic part) || (part.length == 3 && isNumeric part)

def isVariant (part : List Char) : Bool :=
  5 ≤ part.length || (part.length == 4 && isNumeric (part.take 1))

def afterSingleton (part : List Char) : Stage :=
  if part == ['x'] || part == ['X'] then .privateMark else .singleton

def advance? (stage : Stage) (part : List Char) : Option Stage :=
  let beforeScript := match stage with
    | .language _ => true
    | .extended => true
    | _ => false
  let beforeRegion := beforeScript || stage == .script
  if beforeScript && isScript part then some .script
  else if beforeRegion && isRegion part then some .region
  else if (beforeRegion || stage == .region) && isVariant part then some .region
  else none

def next? (stage : Stage) (part : List Char) : Option Stage :=
  if !isPart part then none
  else
    match stage with
    | .start =>
        if part.length < 2 || !isAlphabetic part then none
        else if part.length < 4 then some (.language 0)
        else some .extended
    | .privateMark => some .inPrivate
    | .inPrivate => some .inPrivate
    | .singleton => if part.length = 1 then none else some .inExtension
    | .inExtension => if part.length = 1 then some (afterSingleton part) else some .inExtension
    | stage =>
        if part.length = 1 then some (afterSingleton part)
        else
          match stage with
          | .language extensions =>
              if part.length = 3 && isAlphabetic part then
                if extensions < 3 then some (.language (extensions + 1)) else none
              else advance? stage part
          | _ => advance? stage part

def Stage.isComplete (stage : Stage) : Bool :=
  stage != .start && stage != .singleton && stage != .privateMark

def isLanguageRange (parts : List (List Char)) : Bool :=
  match parts.foldlM next? Stage.start with
  | some stage => stage.isComplete
  | none => false

def isPrivate : List (List Char) → Bool
  | mark :: part :: rest => (mark == ['x'] || mark == ['X']) && (part :: rest).all isPart
  | _ => false

def isWellFormed (tag : List Char) : Bool :=
  let parts := Text.fields '-' tag
  registered.contains (String.ofList tag).toLower || isPrivate parts || isLanguageRange parts

def read? (tag : String) : Option String :=
  if isWellFormed tag.toList then some tag.toLower else none

end OntologyLint.LanguageTag
