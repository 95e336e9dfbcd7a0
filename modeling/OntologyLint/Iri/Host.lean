import OntologyLint.Iri.Characters
import OntologyLint.Text.Fields

set_option autoImplicit false

/-! The authority of an IRI: an optional user, a host and an optional number after a colon. A host
in square brackets is an address of sixteen bytes or of a version yet to come. -/

namespace OntologyLint.Iri

def isOctet (text : List Char) : Bool :=
  Text.isNumeral text && text.length ≤ 3 && Text.ofDigits text ≤ 255 &&
    (text.length == 1 || text.head? != some '0')

def isDottedAddress (text : List Char) : Bool :=
  let octets := Text.fields '.' text
  octets.length == 4 && octets.all isOctet

def isAddressGroup (text : List Char) : Bool :=
  1 ≤ text.length && text.length ≤ 4 && text.all (fun digit => (Text.hexDigitValue? digit).isSome)

/-- The number of two-byte groups that a run of groups stands for. The last group may be a dotted
address, which stands for two. -/
def groupCount? (dottedEnd : Bool) : List (List Char) → Option Nat
  | [] => some 0
  | [group] =>
      if isAddressGroup group then some 1
      else if dottedEnd && isDottedAddress group then some 2
      else none
  | group :: rest => if isAddressGroup group then (groupCount? dottedEnd rest).map (· + 1) else none

def addressGroups (text : List Char) : List (List Char) :=
  if text.isEmpty then [] else Text.fields ':' text

def cutAtGap? : List Char → Option (List Char × List Char)
  | ':' :: ':' :: rest => some ([], rest)
  | [] => none
  | char :: rest => (cutAtGap? rest).map (fun (before, after) => (char :: before, after))

/-- An address of eight two-byte groups, where one pair of colons may stand for groups of zeros. -/
def isGroupedAddress (text : List Char) : Bool :=
  match cutAtGap? text with
  | none => groupCount? true (addressGroups text) == some 8
  | some (before, after) =>
      match groupCount? false (addressGroups before), groupCount? true (addressGroups after) with
      | some first, some second => first + second ≤ 7
      | _, _ => false

def isFutureChar (char : Char) : Bool := char.toNat < 0x80 && isUserChar char

/-- An address of a later version: its number, a dot and the address. -/
def isFutureAddress : List Char → Bool
  | [] => false
  | mark :: text =>
      let (version, rest) := text.span (fun digit => (Text.hexDigitValue? digit).isSome)
      (mark == 'v' || mark == 'V') && !version.isEmpty &&
        match rest with
        | '.' :: address => !address.isEmpty && address.all isFutureChar
        | _ => false

def isNumberPart : List Char → Bool
  | [] => true
  | mark :: digits => mark == ':' && digits.all Char.isDigit

def isHostPart (text : List Char) : Bool :=
  match text with
  | '[' :: bracketed =>
      let (address, rest) := bracketed.span (· != ']')
      match rest with
      | ']' :: number =>
          (isGroupedAddress address || isFutureAddress address) && isNumberPart number
      | _ => false
  | _ =>
      let (host, number) := text.span (· != ':')
      consistsOf isHostChar host && isNumberPart number

/-- An authority. What stands before the first at sign, and before any bracket, is the user. -/
def isAuthority (text : List Char) : Bool :=
  let (user, rest) := text.span (fun char => char != '@' && char != '[')
  match rest with
  | '@' :: host => consistsOf isUserChar user && isHostPart host
  | _ => isHostPart text

end OntologyLint.Iri
