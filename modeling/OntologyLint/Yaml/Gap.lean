import OntologyLint.Yaml.Cursor

set_option autoImplicit false

/-! What stands between the words of a scalar. Blanks stand for themselves, but a scalar can go on
over several lines, which are joined to one. -/

namespace OntologyLint.Yaml

/-- Blanks on one line, or the ends of lines: the first one and the later ones. -/
inductive Gap
  | blanks (text : List Char)
  | lines (first later : List Char)
  deriving DecidableEq, Inhabited

namespace Gap

def isLines : Gap → Bool
  | blanks _ => false
  | lines _ _ => true

/-- What a gap stands for. The end of one line becomes a space; of the ends of several lines the
first one is left out. -/
def text : Gap → List Char
  | blanks text => text
  | lines ['\n'] [] => [' ']
  | lines ['\n'] later => later
  | lines first later => first ++ later

/-- Takes what belongs to a gap, character by character. At the start of a line a tabulator can only
stand from the column `least` on. -/
def readOn (least : Nat) : Nat → Gap → Scan Gap
  | 0, _ => failure
  | limit + 1, gap => do
      match ← Scan.peek? with
      | none => pure gap
      | some char =>
          if isBlank char then
            match gap with
            | blanks text =>
                let _ ← Scan.next
                readOn least limit (blanks (text ++ [char]))
            | lines _ _ =>
                if char = '\t' ∧ (← Scan.column) < least then failure
                let _ ← Scan.next
                readOn least limit gap
          else if isBreak char then
            let ended ← Scan.takeBreak
            match gap with
            | blanks _ => readOn least limit (lines ended [])
            | lines first later => readOn least limit (lines first (later ++ ended))
          else pure gap

def read (least : Nat) (start : Gap) : Scan Gap := do
  readOn least (← Scan.limit) start

end Gap

end OntologyLint.Yaml
