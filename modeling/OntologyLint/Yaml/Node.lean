import OntologyLint.Yaml.Basic

set_option autoImplicit false

/-! Values from tokens. Each kind of list and mapping has its own rules on where a value can be left
out; an alias must follow the anchor that it names. -/

namespace OntologyLint.Yaml

/-- The tokens that are left, the starts of tags by their handles, and the numbers of the anchors so
far by their names. -/
structure NodeState where
  tokens : List Token
  handles : List (String × List UInt8)
  anchors : List (String × Nat) := []

abbrev Building (α : Type) : Type := StateT NodeState Option α

namespace Building

def peek? : Building (Option Token) := do
  return (← get).tokens.head?

def isNext (among : List Token) : Building Bool := do
  return (← peek?).any among.contains

def skip : Building Unit := modify (fun state => { state with tokens := state.tokens.tail })

def expect (token : Token) : Building Unit := do
  if ← isNext [token] then skip else failure

def anchorName? : Building (Option String) := do
  match ← peek? with
  | some (.anchor name) =>
      skip
      pure (some name)
  | _ => pure none

def tag? : Building (Option (List UInt8)) := do
  match ← peek? with
  | some (.tag mark) =>
      skip
      if mark.handle.isEmpty then return some mark.ending
      match (← get).handles.find? (fun entry => entry.1 = mark.handle) with
      | some (_, start) => return some (start ++ mark.ending)
      | none => failure
  | _ => pure none

def properties : Building (Option String × Option (List UInt8)) := do
  match ← anchorName? with
  | some name => return (some name, ← tag?)
  | none =>
      let tag ← tag?
      return (← if tag.isSome then anchorName? else pure none, tag)

/-- Gives an anchor the number of names before it. A name that is used again gets a new number. -/
def number (name : String) : Building Nat := do
  let anchors := (← get).anchors
  let number := anchors.length
  -- A name that is used again stands for the later value from here on.
  let others := anchors.filter (fun entry => entry.1 ≠ name)
  modify (fun state => { state with anchors := (name, number) :: others })
  pure number

def scalarTag (tag : Option (List UInt8)) : Option (List UInt8) :=
  -- A lone exclamation mark is no tag.
  tag.filter (· ≠ [UInt8.ofNat '!'.toNat])

mutual

/-- A value. Only where `inBlock` holds it can be written by lines; where `besideKey` holds, a list
can be written without more indentation. -/
def node (inBlock besideKey : Bool) : Nat → Building Yaml
  | 0 => failure
  | fuel + 1 => do
      if let some (.alias name) ← peek? then
        skip
        match (← get).anchors.find? (fun entry => entry.1 = name) with
        | some (_, number) => return .alias number
        | none => failure
      let (name, tag) ← properties
      let anchor ← name.mapM number
      match ← peek? with
      | some .item =>
          if besideKey then return .list anchor (← looseItems fuel)
          else absent anchor tag
      | some (.scalar style text) =>
          skip
          pure (.scalar anchor (scalarTag tag) style text)
      | some .openList =>
          skip
          return .list anchor (← flowItems true fuel)
      | some .openMapping =>
          skip
          return .mapping anchor (← flowFields true fuel)
      | some .listStart =>
          if !inBlock then absent anchor tag
          else
            skip
            return .list anchor (← blockItems fuel)
      | some .mappingStart =>
          if !inBlock then absent anchor tag
          else
            skip
            return .mapping anchor (← blockFields fuel)
      | _ => absent anchor tag
where
  /-- No value, which only an anchor or a tag can stand for. -/
  absent (anchor : Option Nat) (tag : Option (List UInt8)) : Building Yaml :=
    if anchor.isNone && tag.isNone then failure else pure (.scalar anchor tag .plain "")

def nodeUnless (left : List Token) (inBlock besideKey : Bool) : Nat → Building Yaml
  | 0 => failure
  | fuel + 1 => do
      if ← isNext left then pure nothing else node inBlock besideKey fuel

def blockItems : Nat → Building (List Yaml)
  | 0 => failure
  | fuel + 1 => do
      if ← isNext [.blockEnd] then
        skip
        pure []
      else
        expect .item
        let value ← nodeUnless [.item, .blockEnd] true false fuel
        return value :: (← blockItems fuel)

def looseItems : Nat → Building (List Yaml)
  | 0 => failure
  | fuel + 1 => do
      if ← isNext [.item] then
        skip
        let value ← nodeUnless [.item, .key, .value, .blockEnd] true false fuel
        return value :: (← looseItems fuel)
      else pure []

def valueUnless (left : List Token) (inBlock : Bool) : Nat → Building Yaml
  | 0 => failure
  | fuel + 1 => do
      if ← isNext [.value] then
        skip
        nodeUnless left inBlock inBlock fuel
      else pure nothing

def blockFields : Nat → Building (List (Yaml × Yaml))
  | 0 => failure
  | fuel + 1 => do
      if ← isNext [.blockEnd] then
        skip
        pure []
      else
        expect .key
        let left := [.key, .value, .blockEnd]
        let key ← nodeUnless left true true fuel
        let value ← valueUnless left true fuel
        return (key, value) :: (← blockFields fuel)

def flowItems (isFirst : Bool) : Nat → Building (List Yaml)
  | 0 => failure
  | fuel + 1 => do
      if ← isNext [.closeList] then
        skip
        pure []
      else
        if !isFirst then expect .comma
        if ← isNext [.closeList] then
          skip
          return []
        let value ←
          if ← isNext [.key] then do
            skip
            let key ← nodeUnless [.value, .comma, .closeList] false false fuel
            let value ← valueUnless [.comma, .closeList] false fuel
            pure (.mapping none [(key, value)])
          else node false false fuel
        return value :: (← flowItems false fuel)

/-- The fields of a mapping between brackets. A key without a mark has no value. -/
def flowFields (isFirst : Bool) : Nat → Building (List (Yaml × Yaml))
  | 0 => failure
  | fuel + 1 => do
      if ← isNext [.closeMapping] then
        skip
        pure []
      else
        if !isFirst then expect .comma
        if ← isNext [.closeMapping] then
          skip
          return []
        let field ←
          if ← isNext [.key] then do
            skip
            let key ← nodeUnless [.value, .comma, .closeMapping] false false fuel
            pure (key, ← valueUnless [.comma, .closeMapping] false fuel)
          else do
            pure (← node false false fuel, nothing)
        return field :: (← flowFields false fuel)

end

end Building

end OntologyLint.Yaml
