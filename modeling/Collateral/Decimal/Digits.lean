/-!
Contract: strings of decimal digits, as every number of this library is written and read.

Owns:
- the digits of a natural number, most significant first;
- plain positional notation, with a point and a fixed number of places;
- the powers of ten;
- the value of one digit character.

Does not own: signs that a format forbids, exponents, or bounds on the number.
-/

namespace Collateral.Digits

/-- A one with so many zeros behind it. -/
@[reducible] def tenTo (zeros : Nat) : Nat := Nat.pow 10 zeros

/-- The digits of a number, most significant first; zero is one digit. -/
def ofNat (number : Nat) : List Char :=
  Nat.toDigits 10 number

/-- Digits filled up with zeros on the left to the given width. -/
def padLeft (width : Nat) (digits : List Char) : List Char :=
  List.replicate (width - digits.length) '0' ++ digits

def padded (width number : Nat) : String :=
  String.ofList (padLeft width (ofNat number))

/-- Positional notation of `coefficient / 10 ^ places`: at least one digit before the point,
exactly `places` digits after it, and no point where there are none. -/
def positional (coefficient places : Nat) : List Char :=
  let digits := padLeft (places + 1) (ofNat coefficient)
  let whole := digits.take (digits.length - places)
  if places = 0 then whole
  else whole ++ '.' :: digits.drop (digits.length - places)

/-- Positional notation behind a minus sign for a negative number. -/
def signedPositional (negative : Bool) (coefficient places : Nat) : String :=
  String.ofList ((if negative then ['-'] else []) ++ positional coefficient places)

def value? (character : Char) : Option Nat :=
  if '0' ≤ character ∧ character ≤ '9' then some (character.toNat - '0'.toNat) else none

def isDigit (character : Char) : Bool := (value? character).isSome

/-- The number that a run of digits stands for; `none` for an empty run or any other character. -/
def number? (digits : List Char) : Option Nat :=
  if digits.isEmpty then none
  else digits.foldlM (fun total character => (10 * total + ·) <$> value? character) 0

end Collateral.Digits
