import OntologyLint.Yaml.Token

set_option autoImplicit false

/-! YAML values. A scalar is a text that is only given a meaning where it is used; the meaning can
depend on how it is written and on its tag. -/

namespace OntologyLint

/-- A value. It can carry the number of an anchor, by which an alias can stand for it. -/
inductive Yaml
  | scalar (anchor : Option Nat) (tag : Option (List UInt8)) (style : Yaml.ScalarStyle)
      (text : String)
  | list (anchor : Option Nat) (items : List Yaml)
  | mapping (anchor : Option Nat) (fields : List (Yaml × Yaml))
  | alias (anchor : Nat)
  deriving Inhabited

namespace Yaml

def nothing : Yaml := .scalar none none .plain ""

mutual

def anchored : Yaml → List (Nat × Yaml)
  | .scalar anchor tag style text =>
      anchor.toList.map (fun number => (number, .scalar anchor tag style text))
  | .list anchor items =>
      anchor.toList.map (fun number => (number, .list anchor items)) ++ anchoredItems items
  | .mapping anchor fields =>
      anchor.toList.map (fun number => (number, .mapping anchor fields)) ++ anchoredFields fields
  | .alias _ => []

def anchoredItems : List Yaml → List (Nat × Yaml)
  | [] => []
  | item :: rest => item.anchored ++ anchoredItems rest

def anchoredFields : List (Yaml × Yaml) → List (Nat × Yaml)
  | [] => []
  | (key, value) :: rest => key.anchored ++ value.anchored ++ anchoredFields rest

end

/-- The value that an alias stands for in a document, which is the last one with its number. -/
def follow (document : Yaml) : Yaml → Yaml
  | .alias anchor =>
      ((document.anchored.reverse.find? (fun entry => entry.1 = anchor)).map Prod.snd).getD
        (.alias anchor)
  | other => other

def standardTag (name : String) : List UInt8 :=
  ("tag:yaml.org,2002:" ++ name).toUTF8.toList

def isNullText (text : String) : Bool := ["", "~", "null", "Null", "NULL"].contains text

/-- Whether a value is missing. One with the tag of missing values must be written as such. -/
def isMissing? : Yaml → Option Bool
  | .scalar _ none .plain text => some (isNullText text)
  | .scalar _ (some tag) .plain text =>
      if tag ≠ standardTag "null" then some false
      else if isNullText text && !text.isEmpty then some true
      else none
  | _ => some false

def flagOf? (text : String) : Option Bool :=
  if ["true", "True", "TRUE"].contains text then some true
  else if ["false", "False", "FALSE"].contains text then some false
  else none

/-- The truth value of a scalar without quotes, or of one that is tagged as a truth value and keeps
its lines. -/
def flag? : Yaml → Option Bool
  | .scalar _ _ .plain text => flagOf? text
  | .scalar _ (some tag) .literal text => if tag = standardTag "bool" then flagOf? text else none
  | _ => none

def text? : Yaml → Option String
  | .scalar _ _ _ text => some text
  | _ => none

def tagName? (tag : List UInt8) : Option String :=
  match tag with
  | [] => none
  | first :: rest =>
      if first ≠ UInt8.ofNat '!'.toNat then none
      else String.fromUTF8? (ByteArray.mk (if rest.isEmpty then tag else rest).toArray)

/-- A name out of a fixed choice. It is the text of a scalar, or else its tag, and then the scalar
must be missing. -/
def name? : Yaml → Option String
  | .scalar _ tag style text =>
      match tag.bind tagName? with
      | none => some text
      | some name => if style = .plain ∧ isNullText text then some name else none
  | _ => none

def items? : Yaml → Option (List Yaml)
  | .list _ items => some items
  | .scalar _ _ .plain "" => some []
  | _ => none

def fields? : Yaml → Option (List (Yaml × Yaml))
  | .mapping _ fields => some fields
  | .scalar _ _ .plain "" => some []
  | _ => none

end Yaml

end OntologyLint
