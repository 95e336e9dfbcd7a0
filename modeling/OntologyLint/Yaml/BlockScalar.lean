import OntologyLint.Text.Digits
import OntologyLint.Yaml.Cursor

set_option autoImplicit false

/-! Scalars that are written line by line below a mark. Their indentation is left out, and the lines
are kept as they are or joined to longer ones. -/

namespace OntologyLint.Yaml

inductive Chomping
  | clip
  | strip
  | keep
  deriving DecidableEq, Inhabited

def chomping? : Scan (Option Chomping) := do
  match ← Scan.peek? with
  | some '-' =>
      let _ ← Scan.next
      pure (some .strip)
  | some '+' =>
      let _ ← Scan.next
      pure (some .keep)
  | _ => pure none

def depth? : Scan (Option Nat) := do
  match ← Scan.peek? with
  | none => pure none
  | some char =>
      if char = '0' then failure
      else if char.isDigit then
        let _ ← Scan.next
        pure (some (Text.digitValue char))
      else pure none

def blockHeader : Scan (Chomping × Option Nat) := do
  let before ← chomping?
  let depth ← depth?
  let after ← if before.isNone && depth.isSome then chomping? else pure none
  Scan.lineRest
  pure ((before.or after).getD .clip, depth)

def skipIndentation (width : Option Nat) : Scan Unit := do
  let cursor ← get
  let spaces := (cursor.rest.takeWhile (· == ' ')).length
  set (cursor.advance (match width with
    | none => spaces
    | some width => min spaces (width - cursor.column)))

def emptyLines (width : Option Nat) : Nat → Nat → Scan (List Char × Nat)
  | 0, _ => failure
  | limit + 1, deepest => do
      skipIndentation width
      let column ← Scan.column
      let deepest := max deepest column
      match ← Scan.peek? with
      | none => pure ([], deepest)
      | some char =>
          -- Tabulators cannot indent.
          if char = '\t' ∧ width.all (column < ·) then failure
          else if isBreak char then
            let ended ← Scan.takeBreak
            let (others, deepest) ← emptyLines width limit deepest
            pure (ended ++ others, deepest)
          else pure ([], deepest)

/-- The lines of a block so far: the last one starts with a blank, and what has ended it and the
empty lines after it. -/
structure Ending where
  isIndented : Bool := false
  ended : List Char := []
  empty : List Char := []

/-- What stands between the lines before and a further line. Lines can be joined where neither of
the two starts with a blank. -/
def Ending.joint (before : Ending) (isLiteral isIndented : Bool) : List Char :=
  if !isLiteral && before.ended == ['\n'] && !before.isIndented && !isIndented then
    if before.empty.isEmpty then [' '] else before.empty
  else before.ended ++ before.empty

def blockLines (isLiteral : Bool) (width : Nat) : Nat → Ending → Scan (List Char × Ending)
  | 0, _ => failure
  | limit + 1, before => do
      match ← Scan.peek? with
      | none => pure ([], before)
      | some char =>
          if (← Scan.column) ≠ width then pure ([], before)
          else
            let isIndented := isBlank char
            let line ← Scan.takeWhile (fun char => !isBreak char)
            let ended ← Scan.takeBreak
            let (empty, _) ← emptyLines (some width) (← Scan.limit) 0
            let (others, last) ← blockLines isLiteral width limit ⟨isIndented, ended, empty⟩
            pure (before.joint isLiteral isIndented ++ line ++ others, last)

/-- A scalar below its mark. Without a given depth its first line with a text shows how deep it is
indented, which is `least` columns at least. -/
def blockScalar (least : Nat) : Scan (String × Bool) := do
  let isLiteral := (← Scan.next) == '|'
  let (chomping, depth) ← blockHeader
  let given := depth.map (least - 1 + ·)
  let (empty, deepest) ← emptyLines given (← Scan.limit) 0
  let width := given.getD (max deepest (max least 1))
  let (text, last) ← blockLines isLiteral width (← Scan.limit) { empty }
  pure (String.ofList (match chomping with
    | .strip => text
    | .clip => text ++ last.ended
    | .keep => text ++ last.ended ++ last.empty), isLiteral)

end OntologyLint.Yaml
