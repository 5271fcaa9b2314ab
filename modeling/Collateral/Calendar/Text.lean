import Collateral.Calendar.Date
import Collateral.Decimal.Digits

/-!
Contract: texts of dates and of points in time.

A date is written `YYYY-MM-DD`. Years outside 0 to 9999 carry a sign, and at least four digits.
Reading is more generous: month and day may have one digit, an unsigned year fewer than four,
and blanks may stand before each part and at the end.

A point in time is read with any offset from universal time and written in universal time. A
minute may have a leap second, its sixty-first; which minutes did is not looked up.
-/

namespace Collateral

/-- The characters that count as blank: those with the property White_Space. -/
def isBlank (character : Char) : Bool :=
  let code := character.toNat
  (0x9 ≤ code && code ≤ 0xd) || (0x2000 ≤ code && code ≤ 0x200a) ||
    [0x20, 0x85, 0xa0, 0x1680, 0x2028, 0x2029, 0x202f, 0x205f, 0x3000].contains code

def skipBlanks (text : List Char) : List Char :=
  text.dropWhile isBlank

/-- Takes a number of at most `width` digits, and at least one, off the front of a text. -/
def takeNumber? (width : Nat) (text : List Char) : Option (Nat × List Char) := do
  let digits := (text.take width).takeWhile Digits.isDigit
  return (← Digits.number? digits, text.drop digits.length)

/-- Takes one of the given characters off the front of a text. -/
def takeMark? (marks : List Char) : List Char → Option (List Char)
  | character :: rest => if marks.contains character then some rest else none
  | [] => none

namespace Date

private def yearText (year : Int) : String :=
  if 0 ≤ year ∧ year ≤ 9999 then Digits.padded 4 year.natAbs
  else (if year < 0 then "-" else "+") ++ Digits.padded 4 year.natAbs

def toText (date : Date) : String :=
  let civil := date.civil
  yearText civil.year ++ "-" ++ Digits.padded 2 civil.month ++ "-" ++ Digits.padded 2 civil.day

/-- Takes a year off the front of a text: any number of digits behind a sign, else up to four. -/
private def takeYear? (text : List Char) : Option (Int × List Char) :=
  match text with
  | '-' :: rest => (takeNumber? rest.length rest).map fun (year, rest) => (-(year : Int), rest)
  | '+' :: rest => (takeNumber? rest.length rest).map fun (year, rest) => ((year : Int), rest)
  | _ => (takeNumber? 4 text).map fun (year, rest) => ((year : Int), rest)

def take? (text : List Char) : Option (Date × List Char) := do
  let (year, rest) ← takeYear? (skipBlanks text)
  let rest ← takeMark? ['-'] (skipBlanks rest)
  let (month, rest) ← takeNumber? 2 (skipBlanks rest)
  let rest ← takeMark? ['-'] (skipBlanks rest)
  let (day, rest) ← takeNumber? 2 (skipBlanks rest)
  return (← ofCivil? ⟨year, month, day⟩, rest)

def ofText? (text : String) : Option Date := do
  let (date, rest) ← take? text.toList
  if (skipBlanks rest).isEmpty then some date else none

end Date

/-- A point in time: whole seconds from the start of 1970 in universal time, and the nanoseconds
after them. Leap seconds are not among the seconds; within one, the nanoseconds of the second
before it go on counting. -/
structure Instant where
  second : Int
  nanosecond : Nat
deriving DecidableEq, Repr

namespace Instant

def dayLength : Int := 86400

def secondLength : Nat := 1000000000

/-- The digits of a fraction of a second: none, three, six or nine of them. -/
private def fractionText (nanosecond : Nat) : String :=
  if nanosecond = 0 then ""
  else if nanosecond % 1000000 = 0 then "." ++ Digits.padded 3 (nanosecond / 1000000)
  else if nanosecond % 1000 = 0 then "." ++ Digits.padded 6 (nanosecond / 1000)
  else "." ++ Digits.padded 9 nanosecond

/-- The text of a point in time whose date exists. -/
private def textOn (date : Date) (second nanosecond : Nat) : String :=
  date.toText ++ "T" ++ Digits.padded 2 (second / 3600) ++ ":"
    ++ Digits.padded 2 (second / 60 % 60) ++ ":"
    ++ Digits.padded 2 (second % 60 + nanosecond / secondLength)
    ++ fractionText (nanosecond % secondLength) ++ "Z"

def toText (instant : Instant) : String :=
  textOn ((Date.ofDay? (instant.second / dayLength)).getD Date.last)
    (instant.second % dayLength).toNat instant.nanosecond

/-- Takes a number of one or two digits up to `greatest` off the front of a text, and the blanks
before it. -/
private def takeUpTo? (greatest : Nat) (text : List Char) : Option (Nat × List Char) := do
  let (number, rest) ← takeNumber? 2 (skipBlanks text)
  if number ≤ greatest then some (number, rest) else none

/-- Takes a number of exactly two digits up to `greatest` off the front of a text. -/
private def takePair? (greatest : Nat) (text : List Char) : Option (Nat × List Char) := do
  let (number, rest) ← takeNumber? 2 text
  if text.length = rest.length + 2 ∧ number ≤ greatest then some (number, rest) else none

/-- Takes a fraction of a second off the front of a text, as nanoseconds. -/
private def takeFraction? : List Char → Option (Nat × List Char)
  | '.' :: rest => do
    let digits := rest.takeWhile Digits.isDigit
    let kept ← Digits.number? ((digits ++ List.replicate 9 '0').take 9)
    if digits.isEmpty then none else some (kept, rest.drop digits.length)
  | rest => some (0, rest)

/-- Takes hours and minutes off the front of a text, as seconds. Colons and blanks may stand between
them. -/
private def takeShift? (text : List Char) : Option (Int × List Char) := do
  let (hours, rest) ← takePair? 23 text
  let (minutes, rest) ← takePair? 59 (rest.dropWhile fun mark => mark = ':' || isBlank mark)
  return (hours * 3600 + minutes * 60, rest)

/-- Takes an offset from universal time off the front of a text, in seconds. -/
private def takeOffset? (text : List Char) : Option (Int × List Char) :=
  match text with
  | 'Z' :: rest | 'z' :: rest => some (0, rest)
  | '+' :: rest => takeShift? rest
  | '-' :: rest | '\u2212' :: rest =>
    (takeShift? rest).map fun (seconds, rest) => (-seconds, rest)
  | _ => if (text.take 3).map Char.toUpper = ['U', 'T', 'C'] then some (0, text.drop 3) else none

/-- Reads a point in time; its date in universal time must exist. -/
def ofText? (text : String) : Option Instant := do
  let (date, rest) ← Date.take? text.toList
  let (hour, rest) ← takeUpTo? 23 (← takeMark? ['T', 't', ' '] rest)
  let (minute, rest) ← takeUpTo? 59 (← takeMark? [':'] (skipBlanks rest))
  let (second, rest) ← takeUpTo? 60 (← takeMark? [':'] (skipBlanks rest))
  let (nanosecond, rest) ← takeFraction? rest
  let (offset, rest) ← takeOffset? (skipBlanks rest)
  if !(skipBlanks rest).isEmpty then none
  let clock : Int := hour * 3600 + minute * 60 + min second 59
  let instant := date.day * dayLength + clock - offset
  let _ ← Date.ofDay? (instant / dayLength)
  return ⟨instant, nanosecond + (second - 59) * secondLength⟩

end Instant

end Collateral
