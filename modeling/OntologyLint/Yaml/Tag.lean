import OntologyLint.Text.Digits
import OntologyLint.Yaml.Cursor
import OntologyLint.Yaml.Token

set_option autoImplicit false

/-! Tags, the names of anchors, and the directives of a document. A tag consists of the characters
of an address, in which bytes can be written by a percent sign and two digits. -/

namespace OntologyLint.Yaml

def anchorName : Scan String := do
  let _ ← Scan.next
  let name ← Scan.takeWhile isNameChar
  let after ← Scan.peek?
  let isEnded := endsWord after || after.any (fun mark => "?:,]\x7d%@\x60".toList.contains mark)
  if name.isEmpty || !isEnded then failure
  pure (String.ofList name)

def isTagChar (isVerbatim : Bool) (char : Char) : Bool :=
  isNameChar char || ";/?:@&=+$.!~*'()%".toList.contains char ||
    (isVerbatim && ",[]".toList.contains char)

def codedByte : Scan UInt8 := do
  Scan.char '%'
  match Text.hexDigitValue? (← Scan.next), Text.hexDigitValue? (← Scan.next) with
  | some high, some low => pure (UInt8.ofNat (16 * high + low))
  | _, _ => failure

def byteWidth? (first : UInt8) : Option Nat :=
  if first < 0x80 then some 1
  else if 0xc0 ≤ first ∧ first < 0xe0 then some 2
  else if 0xe0 ≤ first ∧ first < 0xf0 then some 3
  else if 0xf0 ≤ first ∧ first < 0xf8 then some 4
  else none

def laterBytes : Nat → Scan (List UInt8)
  | 0 => pure []
  | count + 1 => do
      let byte ← codedByte
      if byte < 0x80 ∨ 0xc0 ≤ byte then failure
      else return byte :: (← laterBytes count)

def codedBytes : Scan (List UInt8) := do
  let first ← codedByte
  match byteWidth? first with
  | none => failure
  | some width => return first :: (← laterBytes (width - 1))

def plainByte : Scan (List UInt8) := do
  return [UInt8.ofNat (← Scan.next).toNat]

def tagBytesFrom (isVerbatim : Bool) : Nat → Scan (List UInt8)
  | 0 => failure
  | limit + 1 => do
      match ← Scan.peek? with
      | none => pure []
      | some char =>
          if !isTagChar isVerbatim char then pure []
          else
            let bytes ← if char = '%' then codedBytes else plainByte
            return bytes ++ (← tagBytesFrom isVerbatim limit)

def tagBytes (isVerbatim : Bool) : Scan (List UInt8) := do
  tagBytesFrom isVerbatim (← Scan.limit)

/-- What the bytes of a tag amount to. A zero among them ends the tag. -/
def upToZero (bytes : List UInt8) : List UInt8 := bytes.takeWhile (· != 0)

def someTagBytes (isVerbatim : Bool) : Scan (List UInt8) := do
  let bytes ← tagBytes isVerbatim
  if bytes.isEmpty then failure else pure (upToZero bytes)

def handle : Scan (List Char) := do
  Scan.char '!'
  let name ← Scan.takeWhile isNameChar
  if (← Scan.peek?) = some '!' then
    let _ ← Scan.next
    pure ('!' :: name ++ ['!'])
  else pure ('!' :: name)

def isClosedHandle (text : List Char) : Bool := 2 ≤ text.length && text.getLast? == some '!'

/-- A tag after its first exclamation mark. What cannot be a handle belongs to the tag itself. -/
def tagMark : Scan TagMark := do
  if (← Scan.peekSecond?) = some '<' then
    modify (Cursor.advance · 2)
    let bytes ← someTagBytes true
    Scan.char '>'
    pure ⟨"", bytes⟩
  else
    let start ← handle
    if isClosedHandle start then return ⟨String.ofList start, ← someTagBytes false⟩
    else
      let named := start.tail.map (fun char => UInt8.ofNat char.toNat)
      let bytes := upToZero (named ++ (← tagBytes false))
      if bytes.isEmpty then pure ⟨"", [UInt8.ofNat '!'.toNat]⟩ else pure ⟨"!", bytes⟩

/-- A tag. Between brackets a comma can follow it at once. -/
def tagToken (inFlow : Bool) : Scan TagMark := do
  let mark ← tagMark
  let after ← Scan.peek?
  if endsWord after || (inFlow && after == some ',') then pure mark else failure

def versionNumber : Scan Nat := do
  let digits ← Scan.takeWhile Char.isDigit
  if digits.isEmpty ∨ 9 < digits.length then failure else pure (Text.ofDigits digits)

def versionDirective : Scan Directive := do
  let major ← versionNumber
  Scan.char '.'
  return .version major (← versionNumber)

def handleDirective : Scan Directive := do
  let start ← handle
  if start ≠ ['!'] ∧ !isClosedHandle start then failure
  if !(← Scan.peek?).any isBlank then failure
  Scan.skipWhile isBlank
  let bytes ← someTagBytes true
  if endsWord (← Scan.peek?) then pure (.handle ⟨String.ofList start, bytes⟩) else failure

def directive : Scan Directive := do
  Scan.char '%'
  let name ← Scan.takeWhile isNameChar
  if name.isEmpty || !endsWord (← Scan.peek?) then failure
  Scan.skipWhile isBlank
  let content ←
    if name = "YAML".toList then versionDirective
    else if name = "TAG".toList then handleDirective
    else failure
  Scan.lineRest
  pure content

end OntologyLint.Yaml
