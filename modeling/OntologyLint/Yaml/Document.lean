import OntologyLint.Yaml.Layout
import OntologyLint.Yaml.Node

set_option autoImplicit false

/-! The value of a YAML text, which holds one document at most. -/

namespace OntologyLint.Yaml

def standardHandles : List (String × List UInt8) :=
  [("!", [UInt8.ofNat '!'.toNat]), ("!!", standardTag "")]

/-- The handles that directives declare, none of them twice. There can be one version, which must be
one of the two that are known. -/
def declaredHandles? (directives : List Directive) : Option (List (String × List UInt8)) :=
  let versions := directives.filter (fun directive =>
    match directive with
    | .version _ _ => true
    | .handle _ => false)
  let handles := directives.filterMap (fun directive =>
    match directive with
    | .version _ _ => none
    | .handle tag => some (tag.handle, tag.ending))
  if versions.length ≤ 1 ∧ versions.all [.version 1 1, .version 1 2].contains ∧
      (handles.map Prod.fst).Nodup then
    some handles
  else none

def spanDirectives : List Token → List Directive × List Token
  | .directive directive :: rest =>
      let (directives, after) := spanDirectives rest
      (directive :: directives, after)
  | tokens => ([], tokens)

def isBare : List Token → Bool
  | [] => true
  | .documentStart :: _ => true
  | .documentEnd :: _ => true
  | .directive _ :: _ => true
  | _ => false

def content? (handles : List (String × List UInt8)) (tokens : List Token) :
    Option (Yaml × List Token) := do
  let (value, state) ←
    (Building.node true false (4 * tokens.length + 4)).run
      { tokens, handles := handles ++ standardHandles }
  pure (value, state.tokens)

/-- The value of the only document. Its start must be marked if there are directives. -/
def document? (tokens : List Token) : Option (Yaml × List Token) := do
  let (directives, rest) := spanDirectives tokens
  let handles ← declaredHandles? directives
  match rest with
  | .documentStart :: inside =>
      if isBare inside then some (nothing, inside) else content? handles inside
  | _ => if directives.isEmpty then content? handles rest else none

def parse? (text : String) : Option (Option Yaml) := do
  let tokens ← tokens? text
  if tokens.isEmpty then return none
  let (value, rest) ← document? tokens
  if rest.all (· = .documentEnd) then return some value else none

end OntologyLint.Yaml
