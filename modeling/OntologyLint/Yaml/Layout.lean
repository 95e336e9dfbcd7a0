import OntologyLint.Yaml.BlockScalar
import OntologyLint.Yaml.PlainScalar
import OntologyLint.Yaml.QuotedScalar
import OntologyLint.Yaml.Tag

set_option autoImplicit false

/-! The tokens of a text in order. Lists and mappings outside brackets are told by the columns of
their marks. That something is a key is only known where its colon follows, so the tokens that
tell it are noted beside the others and put into their places at the end. -/

namespace OntologyLint.Yaml

/-- A token with which a key may have started. A required key starts where nothing else can
stand. -/
structure KeyStart where
  token : Nat
  cursor : Cursor
  isRequired : Bool

/-- What is known of a text up to a place: its tokens, the latest first, and those noted beside
them by the number of the token that they stand before; the least column inside the innermost list
or mapping and inside those around it; and for each level of brackets, the innermost first, where a
key may have started. -/
structure Layout where
  tokens : List Token := []
  count : Nat := 0
  noted : List (Nat × List Token) := []
  least : Nat := 0
  outer : List Nat := []
  keys : List (Option KeyStart) := [none]
  allowsKey : Bool := true

namespace Layout

def inFlow (layout : Layout) : Bool := 1 < layout.keys.length

def add (token : Token) (layout : Layout) : Layout :=
  { layout with tokens := token :: layout.tokens, count := layout.count + 1 }

def note (place : Nat) (tokens : List Token) (layout : Layout) : Layout :=
  { layout with noted := (place, tokens) :: layout.noted }

def leaveTo (least : Nat) (layout : Layout) : Layout :=
  if layout.inFlow then layout
  else
    let inner := (layout.least :: layout.outer).takeWhile (least < ·)
    let ended := List.replicate inner.length Token.blockEnd
    match (layout.least :: layout.outer).drop inner.length with
    | [] => layout
    | around :: outer =>
        { layout with
          tokens := ended ++ layout.tokens
          count := layout.count + ended.length
          least := around
          outer }

def startsBlock (column : Nat) (layout : Layout) : Bool := !layout.inFlow && layout.least ≤ column

def goInto (column : Nat) (layout : Layout) : Layout :=
  { layout with least := column + 1, outer := layout.least :: layout.outer }

def startBlock (column : Nat) (start : Token) (layout : Layout) : Layout :=
  if layout.startsBlock column then (layout.goInto column).add start else layout

def dropKey? (layout : Layout) : Option Layout :=
  match layout.keys with
  | some key :: outer =>
      if key.isRequired then none else some { layout with keys := none :: outer }
  | _ => some layout

/-- Remembers that a key may start with the next token. -/
def saveKey? (cursor : Cursor) (layout : Layout) : Option Layout :=
  if !layout.allowsKey then some layout
  else do
    let layout ← layout.dropKey?
    let isRequired := !layout.inFlow && layout.least == cursor.column + 1
    pure { layout with keys := some ⟨layout.count, cursor, isRequired⟩ :: layout.keys.tail }

def KeyStart.isStale (cursor : Cursor) (key : KeyStart) : Bool :=
  -- A key ends on its own line, and within this many characters.
  key.cursor.line < cursor.line || key.cursor.index + 1024 < cursor.index

def dropStaleKeys? (cursor : Cursor) (layout : Layout) : Option Layout := do
  let keys ← layout.keys.mapM (fun key? =>
    match key? with
    | none => some none
    | some key =>
        if !KeyStart.isStale cursor key then some (some key)
        else if key.isRequired then none
        else some none)
  pure { layout with keys }

def finish (layout : Layout) : List Token :=
  (layout.tokens.reverse.zipIdx.map (fun (token, place) =>
    (layout.noted.filter (fun entry => entry.1 = place)).flatMap Prod.snd ++ [token])).flatten

end Layout

abbrev Tokenizing (α : Type) : Type := StateT Layout (StateT Cursor Option) α

namespace Tokenizing

def update (change? : Layout → Option Layout) : Tokenizing Unit := do
  match change? (← get) with
  | some layout => set layout
  | none => failure

def allowKey (allows : Bool) : Tokenizing Unit :=
  modify (fun layout => { layout with allowsKey := allows })

def cursor : Tokenizing Cursor := getThe Cursor

/-- Skips blanks, comments and the ends of lines. A tabulator can only stand where no key can start.
-/
def skipBlanks : Nat → Tokenizing Unit
  | 0 => failure
  | limit + 1 => do
      let layout ← get
      let skipsTabs := layout.inFlow || !layout.allowsKey
      Scan.skipWhile (fun char => char == ' ' || (skipsTabs && char == '\t'))
      Scan.skipComment
      if (← Scan.peek?).any isBreak then
        let _ ← Scan.takeBreak
        if !layout.inFlow then allowKey true
        skipBlanks limit

def mark (width : Nat) (token : Token) : Tokenizing Unit := do
  modifyThe Cursor (Cursor.advance · width)
  modify (Layout.add token)

def leaveAll : Tokenizing Unit := do
  modify (Layout.leaveTo 0)
  update Layout.dropKey?
  allowKey false

def openBracket (token : Token) : Tokenizing Unit := do
  update (Layout.saveKey? (← cursor))
  modify (fun layout => { layout with keys := none :: layout.keys })
  allowKey true
  mark 1 token

def closeBracket (token : Token) : Tokenizing Unit := do
  update Layout.dropKey?
  modify (fun layout => if layout.inFlow then { layout with keys := layout.keys.tail } else layout)
  allowKey false
  mark 1 token

def commaMark : Tokenizing Unit := do
  update Layout.dropKey?
  allowKey true
  mark 1 .comma

def blockMark (start : Token) : Tokenizing Unit := do
  let layout ← get
  if !layout.inFlow then
    if !layout.allowsKey then failure
    modify (Layout.startBlock (← cursor).column start)

def itemMark : Tokenizing Unit := do
  blockMark .listStart
  update Layout.dropKey?
  allowKey true
  mark 1 .item

def keyMark : Tokenizing Unit := do
  blockMark .mappingStart
  update Layout.dropKey?
  allowKey (!(← get).inFlow)
  mark 1 .key

/-- A colon. What has started before it is its key, if a key can have started there. -/
def valueMark : Tokenizing Unit := do
  let layout ← get
  match layout.keys.head?.join with
  | some key =>
      let column := key.cursor.column
      let starts := layout.startsBlock column
      modify (Layout.note key.token (if starts then [.mappingStart, .key] else [.key]))
      if starts then modify (Layout.goInto column)
      modify (fun layout => { layout with keys := none :: layout.keys.tail })
      allowKey false
  | none =>
      blockMark .mappingStart
      allowKey (!layout.inFlow)
  mark 1 .value

def word (rule : Scan Token) : Tokenizing Unit := do
  update (Layout.saveKey? (← cursor))
  allowKey false
  let token ← rule
  modify (Layout.add token)

def plainWord : Tokenizing Unit := do
  let layout ← get
  update (Layout.saveKey? (← cursor))
  allowKey false
  let (text, isEnded) ← plainScalar layout.inFlow layout.least
  if isEnded then allowKey true
  modify (Layout.add (.scalar .plain text))

def blockWord : Tokenizing Unit := do
  update Layout.dropKey?
  allowKey true
  let (text, isLiteral) ← blockScalar (← get).least
  modify (Layout.add (.scalar (if isLiteral then .literal else .folded) text))

def token (first : Char) : Tokenizing Unit := do
  let inFlow := (← get).inFlow
  let column ← Scan.column
  let second? ← Scan.peekSecond?
  if column = 0 ∧ first = '%' then
    leaveAll
    let content ← directive
    modify (Layout.add (.directive content))
  else if ← Scan.isLineMark '-' then
    leaveAll
    mark 3 .documentStart
  else if ← Scan.isLineMark '.' then
    leaveAll
    mark 3 .documentEnd
  else if first = '[' then openBracket .openList
  else if first = '\x7b' then openBracket .openMapping
  else if first = ']' then closeBracket .closeList
  else if first = '\x7d' then closeBracket .closeMapping
  else if first = ',' then commaMark
  else if first = '-' ∧ endsWord second? then itemMark
  else if first = '?' ∧ (inFlow ∨ endsWord second?) then keyMark
  else if first = ':' ∧ (inFlow ∨ endsWord second?) then valueMark
  else if first = '*' then word (do return .alias (← anchorName))
  else if first = '&' then word (do return .anchor (← anchorName))
  else if first = '!' then word (do return .tag (← tagToken inFlow))
  else if (first = '|' ∨ first = '>') ∧ !inFlow then blockWord
  else if first = '"' ∨ first = '\'' then word (do return .scalar .quoted (← quotedScalar))
  else if startsPlain inFlow first second? then plainWord
  else failure

def tokens : Nat → Tokenizing Unit
  | 0 => failure
  | limit + 1 => do
      skipBlanks (← Scan.limit)
      update (Layout.dropStaleKeys? (← cursor))
      match ← Scan.peek? with
      | none => leaveAll
      | some first =>
          modify (Layout.leaveTo ((← cursor).column + 1))
          token first
          tokens limit

end Tokenizing

def tokens? (text : String) : Option (List Token) := do
  let chars := text.toList
  if !chars.all isPermitted then failure
  let (((), layout), _) ← ((Tokenizing.tokens (chars.length + 1)).run {}).run { rest := chars }
  pure layout.finish

end OntologyLint.Yaml
