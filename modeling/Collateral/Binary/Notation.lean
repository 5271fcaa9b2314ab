import Collateral.Binary.Parts
import Collateral.Decimal.Digits

/-!
Contract: the decimal texts of a binary number.

Owns:
- the fewest digits that read back to the same number, and among those the nearest;
- plain notation of these digits: never an exponent, no point in a whole number;
- scientific notation with a fixed number of digits, correctly rounded;
- reading a number from text.

The digits are found in exact arithmetic. A decimal reads back to `mantissa * 2 ^ exponent` when
it lies between the midpoints to both neighbours, midpoints included for an even mantissa. For a
given number of digits only the two decimals next to the value can be nearest, so the first
number of digits with such a decimal is the fewest.
-/

namespace Collateral.Binary

/-- The number `digits * 10 ^ exponent`. -/
structure Scaled where
  digits : Nat
  exponent : Int
deriving DecidableEq, Repr

/-- The exponent of the leading decimal digit of a positive quotient. -/
def leadingExponent (value : Quotient) : Int :=
  if value.denominator ≤ value.numerator then
    ((Digits.ofNat (value.numerator / value.denominator)).length : Int) - 1
  else
    -((Digits.ofNat ((value.denominator - 1) / value.numerator)).length : Int)

/-- A quotient counted in units of `10 ^ exponent`. -/
def Quotient.inUnits (value : Quotient) (exponent : Int) : Quotient :=
  match exponent with
  | .ofNat power => ⟨value.numerator, value.denominator * Digits.tenTo power⟩
  | .negSucc power => ⟨value.numerator * Digits.tenTo (power + 1), value.denominator⟩

/-- The numbers that read back as one value, bounded by the midpoints to its neighbours. -/
structure Interval where
  least : Quotient
  value : Quotient
  greatest : Quotient
  inclusive : Bool
deriving DecidableEq, Repr

/-- The reading interval of `mantissa * 2 ^ exponent`. Below a power of two the neighbours are half
as far apart. -/
def readingInterval (mantissa : Nat) (exponent : Int) : Interval :=
  let below := if mantissa = leadingBit ∧ exponent ≠ -1074 then 1 else 2
  { least := .ofScaled (4 * mantissa - below) (exponent - 2)
    value := .ofScaled (4 * mantissa) (exponent - 2)
    greatest := .ofScaled (4 * mantissa + 2) (exponent - 2)
    inclusive := mantissa % 2 = 0 }

/-- Whether a whole number of units lies in the interval. -/
def Interval.admits (interval : Interval) (exponent : Int) (units : Nat) : Bool :=
  let least := interval.least.inUnits exponent
  let greatest := interval.greatest.inUnits exponent
  if interval.inclusive then
    least.numerator ≤ units * least.denominator
      && units * greatest.denominator ≤ greatest.numerator
  else
    least.numerator < units * least.denominator
      && units * greatest.denominator < greatest.numerator

/-- The number of whole units nearest to the value that reads back to it; of two equally near ones
the greater. -/
def Interval.nearestUnits? (interval : Interval) (exponent : Int) : Option Nat :=
  let value := interval.value.inUnits exponent
  let below := value.numerator / value.denominator
  let rest := value.numerator % value.denominator
  match interval.admits exponent below, interval.admits exponent (below + 1) with
  | true, true => some (if 2 * rest < value.denominator then below else below + 1)
  | true, false => some below
  | false, true => some (below + 1)
  | false, false => none

def Scaled.trim (number : Scaled) : Scaled :=
  let zeros := ((Digits.ofNat number.digits).reverse.takeWhile (· = '0')).length
  ⟨number.digits / Digits.tenTo zeros, number.exponent + zeros⟩

/-- The shortest decimal of a positive value. Seventeen digits always suffice. -/
def shortest (mantissa : Nat) (exponent : Int) : Scaled :=
  let interval := readingInterval mantissa exponent
  let leading := leadingExponent interval.value
  let found := (List.range 17).findSome? fun (places : Nat) =>
    (interval.nearestUnits? (leading - places)).map (Scaled.mk · (leading - places))
  (found.getD ⟨0, 0⟩).trim

/-- Plain notation of a number of digits. -/
def Scaled.plain (number : Scaled) (negative : Bool) : String :=
  match number.exponent with
  | .ofNat power => Digits.signedPositional negative (number.digits * Digits.tenTo power) 0
  | .negSucc power => Digits.signedPositional negative number.digits (power + 1)

def infinityText (negative : Bool) : String :=
  if negative then "-inf" else "inf"

/-- Plain notation: the shortest digits that read back, without an exponent. -/
def plain (number : Float) : String :=
  match parts number with
  | .notANumber => "NaN"
  | .infinite negative => infinityText negative
  | .finite negative 0 _ => if negative then "-0" else "0"
  | .finite negative mantissa exponent => (shortest mantissa exponent).plain negative

/-- A positive quotient rounded to `count` digits, a half to the even neighbour. -/
def roundedDigits (value : Quotient) (count : Nat) : Scaled :=
  let exponent := leadingExponent value - (count - 1 : Nat)
  let scaled := value.inUnits exponent
  let below := scaled.numerator / scaled.denominator
  let twice := 2 * (scaled.numerator % scaled.denominator)
  let rounded :=
    if twice < scaled.denominator then below
    else if scaled.denominator < twice then below + 1
    else below + below % 2
  if rounded = Digits.tenTo count then ⟨Digits.tenTo (count - 1), exponent + 1⟩
  else ⟨rounded, exponent⟩

/-- Scientific notation with `places` digits behind the point. Either zero is written `0`. -/
def scientific (places : Nat) (number : Float) : String :=
  match parts number with
  | .notANumber => "NaN"
  | .infinite negative => infinityText negative
  | .finite _ 0 _ => "0"
  | .finite negative mantissa exponent =>
    let rounded := roundedDigits (.ofScaled mantissa exponent) (places + 1)
    Digits.signedPositional negative rounded.digits places
      ++ "e" ++ toString (rounded.exponent + places)

/-- The number nearest to `digits * 10 ^ exponent`, behind a sign. -/
def ofScaled (negative : Bool) (number : Scaled) : Float :=
  let magnitude := match number.exponent with
    | .ofNat power => Float.ofScientific number.digits false power
    | .negSucc power => Float.ofScientific number.digits true (power + 1)
  if negative then -magnitude else magnitude

private def mantissa? (text : List Char) : Option Scaled :=
  let whole := text.takeWhile (· ≠ '.')
  let behind := (text.dropWhile (· ≠ '.')).drop 1
  (Digits.number? (whole ++ behind)).map (Scaled.mk · (-(behind.length : Int)))

private def whole? : List Char → Option Int
  | '-' :: digits => (Digits.number? digits).map fun number => -(number : Int)
  | '+' :: digits => (Digits.number? digits).map Int.ofNat
  | digits => (Digits.number? digits).map Int.ofNat

/-- Reads digits with at most one point and an optional power of ten. -/
private def unsigned? (text : List Char) : Option Scaled := do
  let isMark := fun character : Char => character = 'e' || character = 'E'
  let mantissa ← mantissa? (text.takeWhile (!isMark ·))
  match text.dropWhile (!isMark ·) with
  | [] => return mantissa
  | _ :: exponent => return ⟨mantissa.digits, mantissa.exponent + (← whole? exponent)⟩

/-- Reads a number; the names of infinity and of the undefined number are accepted. -/
def ofText? (text : String) : Option Float :=
  match text with
  | "NaN" => some (0 / 0)
  | "inf" => some (1 / 0)
  | "-inf" => some (-1 / 0)
  | _ =>
    match text.toList with
    | '-' :: digits => (unsigned? digits).map (ofScaled true)
    | digits => (unsigned? digits).map (ofScaled false)

end Collateral.Binary
