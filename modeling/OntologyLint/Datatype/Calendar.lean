import OntologyLint.Datatype.Notation
import OntologyLint.Text.Blank

set_option autoImplicit false

/-! Dates and times. A field is a number with blanks allowed before it, and fields are as long as
they can be. Dates are those of the Gregorian calendar, extended to all years with a year zero. -/

namespace OntologyLint.Calendar

def readDigits? (width : Nat) (text : List Char) : Option (Nat × List Char) :=
  let digits := (text.take width).takeWhile Char.isDigit
  if digits.isEmpty then none else some (Text.ofDigits digits, text.drop digits.length)

def readField? (text : List Char) : Option (Nat × List Char) :=
  readDigits? 2 (text.dropWhile Text.isBlank)

/-- Reads a year, after blanks: up to four digits, or a sign and any number of digits. -/
def readYear? (text : List Char) : Option (Int × List Char) :=
  match text.dropWhile Text.isBlank with
  | [] => none
  | char :: rest =>
      if Text.isSign char then
        (readDigits? rest.length rest).map (fun (value, after) =>
          (if char = '-' then -(value : Int) else value, after))
      else (readDigits? 4 (char :: rest)).map (fun (value, after) => ((value : Int), after))

def readMark? (mark : Char) : List Char → Option (List Char)
  | [] => none
  | char :: rest => if char = mark then some rest else none

def isLeapYear (year : Int) : Bool := year % 4 == 0 && (year % 100 != 0 || year % 400 == 0)

def daysInMonth (year : Int) (month : Nat) : Nat :=
  if month = 2 then if isLeapYear year then 29 else 28
  else if month ∈ [4, 6, 9, 11] then 30
  else 31

def firstYear : Int := -262143
def lastYear : Int := 262142

def isDay (year : Int) (month day : Nat) : Bool :=
  firstYear ≤ year && year ≤ lastYear && 1 ≤ month && month ≤ 12 && 1 ≤ day &&
    day ≤ daysInMonth year month

/-- A second 60 is allowed in every minute. -/
def isTimeOfDay (hour minute second : Nat) : Bool := hour ≤ 23 && minute ≤ 59 && second ≤ 60

def readDate? (text : List Char) : Option (List Char) := do
  let (year, text) ← readYear? text
  let text ← readMark? '-' text
  let (month, text) ← readField? text
  let text ← readMark? '-' text
  let (day, text) ← readField? text
  if isDay year month day then some text else none

/-- Reads an optional fraction of a second: a point and one or more digits. -/
def readFraction? : List Char → Option (List Char)
  | '.' :: rest => (readDigits? rest.length rest).map Prod.snd
  | text => some text

def readTime? (text : List Char) : Option (List Char) := do
  let (hour, text) ← readField? text
  let text ← readMark? ':' text
  let (minute, text) ← readField? text
  let text ← readMark? ':' text
  let (second, text) ← readField? text
  if isTimeOfDay hour minute second then readFraction? text else none

def readDateTime? (text : List Char) : Option (List Char) := do
  let text ← readDate? text
  let text ← readMark? 'T' text
  readTime? text

def dropZone (text : List Char) : List Char :=
  if text.getLast? = some 'Z' then text.dropLast
  else if Notation.isZoneOffset (text.drop (text.length - 6)) then text.take (text.length - 6)
  else text

def readsAll (read? : List Char → Option (List Char)) (text : List Char) : Bool :=
  read? text == some []

def isDate (text : List Char) : Bool := readsAll readDate? (dropZone text)

def isTime (text : List Char) : Bool := readsAll readTime? (dropZone text)

def isDateTime (text : List Char) : Bool := readsAll readDateTime? (dropZone text)

end OntologyLint.Calendar
