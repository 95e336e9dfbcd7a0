set_option autoImplicit false

/-! Rules that read a value from the front of a text. A rule takes what it needs and leaves the
rest, or refuses the text; `a <|> b` tries the second rule where the first one refuses. -/

namespace OntologyLint.Text

abbrev Reading (α : Type) : Type := StateT (List Char) Option α

namespace Reading

variable {α β : Type}

def remaining : Reading (List Char) := get

def peek? : Reading (Option Char) := do
  return (← remaining).head?

def satisfying (accepts : Char → Bool) : Reading Char := fun text =>
  match text with
  | [] => none
  | char :: rest => if accepts char then some (char, rest) else none

def next : Reading Char := satisfying (fun _ => true)

def char (expected : Char) : Reading Unit := do
  let _ ← satisfying (· == expected)

def exactly : List Char → Reading Unit
  | [] => pure ()
  | expected :: others => do
      char expected
      exactly others

def word (expected : String) : Reading Unit := exactly expected.toList

def takeWhile (accepts : Char → Bool) : Reading (List Char) := fun text =>
  some (text.span accepts)

def takeSome (accepts : Char → Bool) : Reading (List Char) := do
  let first ← satisfying accepts
  let others ← takeWhile accepts
  pure (first :: others)

def skipWhile (accepts : Char → Bool) : Reading Unit := do
  let _ ← takeWhile accepts

def cutAt? (mark : List Char) : List Char → Option (List Char × List Char)
  | [] => if mark.isEmpty then some ([], []) else none
  | char :: rest =>
      if mark.isPrefixOf (char :: rest) then some ([], (char :: rest).drop mark.length)
      else (cutAt? mark rest).map (fun (before, after) => (char :: before, after))

/-- Takes everything up to a mark, and the mark. -/
def takeUntil (mark : String) : Reading (List Char) := fun text => cutAt? mark.toList text

/-- Applies a rule up to `limit` times, as long as it reads something. -/
def atMost (limit : Nat) (rule : Reading α) : Reading (List α) :=
  match limit with
  | 0 => pure []
  | limit + 1 => fun text =>
      match rule text with
      | none => some ([], text)
      | some (value, rest) =>
          match atMost limit rule rest with
          | none => none
          | some (others, last) => some (value :: others, last)

/-- Applies a rule that takes at least one character as often as it can be applied. -/
def many (rule : Reading α) : Reading (List α) := fun text => atMost text.length rule text

def separated (separator : Reading Unit) (item : Reading α) : Reading (List α) := do
  let first ← item
  let others ← many (do separator; item)
  pure (first :: others)

def ended : Reading Unit := fun text => if text.isEmpty then some ((), text) else none

def whole? (rule : Reading α) (text : List Char) : Option α :=
  match rule text with
  | some (value, []) => some value
  | _ => none

end Reading

end OntologyLint.Text
