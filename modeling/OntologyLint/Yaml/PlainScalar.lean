import OntologyLint.Yaml.Gap

set_option autoImplicit false

/-! Scalars without quotes. They end where a mark or a comment follows, or, outside brackets, where
a line is not indented deep enough. -/

namespace OntologyLint.Yaml

/-- A scalar can start here without quotes. Most marks cannot start one; a hyphen can if no blank
follows it, and outside brackets a question mark or a colon can if a word goes on after it. -/
def startsPlain (inFlow : Bool) (first : Char) (second? : Option Char) : Bool :=
  if first = '-' then !second?.any isBlank
  else if first = '?' ∨ first = ':' then !inFlow && !endsWord second?
  else !endsWord (some first) && !",[]\x7b\x7d#&*!|>'\"%@\x60".toList.contains first

def plainWord (inFlow : Bool) : Nat → Scan (List Char)
  | 0 => failure
  | limit + 1 => do
      match (← get).rest with
      | [] => pure []
      | char :: after =>
          if char = ':' ∧ inFlow ∧ after.head?.any (fun mark => mark == '?' || isFlowMark mark) then
            failure
          else if endsWord (some char) ∨ (char = ':' ∧ endsWord after.head?) ∨
              (inFlow ∧ isFlowMark char) then
            pure []
          else return (← Scan.next) :: (← plainWord inFlow limit)

def plainFrom (inFlow : Bool) (least : Nat) : Nat → Gap → Scan (List Char × Bool)
  | 0, _ => failure
  | limit + 1, gap => do
      if (← Scan.isDocumentMark) || (← Scan.peek?) == some '#' then return ([], gap.isLines)
      let word ← plainWord inFlow (← Scan.limit)
      if word.isEmpty then return ([], gap.isLines)
      let later ← Gap.read least (.blanks [])
      if !inFlow && (← Scan.column) < least then return (gap.text ++ word, later.isLines)
      let (others, isEnded) ← plainFrom inFlow least limit later
      pure (gap.text ++ word ++ others, isEnded)

/-- A scalar without quotes, and whether its last line ends with it. Its later lines are indented at
least `least` deep. -/
def plainScalar (inFlow : Bool) (least : Nat) : Scan (String × Bool) := do
  let (text, isEnded) ← plainFrom inFlow least (← Scan.limit) (.blanks [])
  pure (String.ofList text, isEnded)

end OntologyLint.Yaml
