import Collateral.Decimal.Digits
import Collateral.Document.Node

/-!
Contract: numbers in a JSON text.

A number is whole digits without a needless zero in front, and optionally digits behind a point
and an exponent. Whole numbers of sixty-four bits stay whole. Any other number is a binary one: the
digits that fit sixty-four bits, brought to their power of ten by one correctly rounded
multiplication or division, or several for very small numbers. So its last bits need not be those
of the nearest binary number.

A number that ends with the text is truncated when it is read, and malformed when it is skipped.
-/

namespace Collateral.Document

/-- The characters of a number. -/
structure Numeral where
  negative : Bool
  whole : List Char
  fraction : Option (List Char)
  exponent : Option (Bool × List Char)
deriving DecidableEq, Repr

namespace Numeral

/-- The greatest number of sixty-four bits. -/
def wordMax : Nat := (1 : Nat) <<< 64 - 1

/-- The greatest magnitude of a number below zero that stays whole. -/
def magnitudeMax : Nat := (1 : Nat) <<< 63

/-- The greatest exponent that is told from an endless one. -/
def exponentMax : Nat := (1 : Nat) <<< 31 - 1

def digit (character : Char) : Nat := (Digits.value? character).getD 0

/-- Takes digits into a number as long as it stays within a bound, and counts those left over. -/
def gather (bound : Nat) (number : Nat) : List Char → Nat × Nat
  | [] => (number, 0)
  | character :: rest =>
    let longer := 10 * number + digit character
    if longer ≤ bound then gather bound longer rest
    else (number, rest.length + 1)

def tenTo (power : Nat) : Float := Float.ofScientific 1 false power

/-- Divides by a power of ten, in steps that stay within range. -/
def divide (steps : Nat) (number : Float) (power : Nat) : Float :=
  match steps with
  | 0 => number
  | steps + 1 =>
    if power ≤ 308 then number / tenTo power
    else if number == 0 then number
    else divide steps (number / tenTo 308) (power - 308)

/-- The binary number `significand * 10 ^ exponent`, which must not be infinite. -/
def scaled (negative : Bool) (significand : Nat) (exponent : Int) : Except Fault Number :=
  let unsigned := Float.ofNat significand
  let signed (number : Float) : Number := .real (if negative then -number else number)
  match exponent with
  | .negSucc power => .ok (signed (divide (power / 308 + 2) unsigned (power + 1)))
  | .ofNat power =>
    if power ≤ 308 then
      let number := unsigned * tenTo power
      if number == 1 / 0 then .error .malformed else .ok (signed number)
    else if significand = 0 then .ok (signed unsigned)
    else .error .malformed

/-- The value of a number with a point or an exponent, or too long to be whole. -/
def real (numeral : Numeral) (significand dropped : Nat) : Except Fault Number :=
  let fraction := numeral.fraction.getD []
  let (significand, ignored) := gather wordMax significand fraction
  let start : Int := (dropped : Int) - ((fraction.length - ignored : Nat) : Int)
  match numeral.exponent with
  | none => scaled numeral.negative significand start
  | some (lowers, digits) =>
    let (exponent, endless) := gather exponentMax 0 digits
    if endless = 0 then
      scaled numeral.negative significand
        (if lowers then start - exponent else start + exponent)
    else if significand ≠ 0 ∧ !lowers then .error .malformed
    else scaled numeral.negative 0 0

/-- The value of a number. Zero behind a minus sign is a binary number, as is a number below the
range of sixty-four bits. -/
def value (numeral : Numeral) : Except Fault Number :=
  let (significand, dropped) := gather wordMax 0 numeral.whole
  if dropped = 0 ∧ numeral.fraction = none ∧ numeral.exponent = none then
    if !numeral.negative then .ok (.natural significand)
    else if 0 < significand ∧ significand ≤ magnitudeMax then .ok (.negative significand)
    else scaled true significand 0
  else numeral.real significand dropped

def broken (rest : List Char) : Part Number where
  reading := .error (if rest.isEmpty then .truncated else .malformed)
  skipping := .error .malformed

/-- Takes an exponent off a text that may begin with one. -/
def takeExponent (numeral : Numeral) (text : List Char) : Part Number × List Char :=
  let finish (numeral : Numeral) (rest : List Char) : Part Number × List Char :=
    (⟨numeral.value, .ok ()⟩, rest)
  let digits (lowers : Bool) (rest : List Char) : Part Number × List Char :=
    match rest.takeWhile Digits.isDigit with
    | [] => (broken rest, rest)
    | digits => finish { numeral with exponent := some (lowers, digits) } (rest.drop digits.length)
  match text with
  | mark :: rest =>
    if mark = 'e' ∨ mark = 'E' then
      match rest with
      | '-' :: rest => digits true rest
      | '+' :: rest => digits false rest
      | rest => digits false rest
    else finish numeral text
  | [] => finish numeral text

/-- Takes a fraction and an exponent off a text that may begin with them. -/
def takeFraction (numeral : Numeral) (text : List Char) : Part Number × List Char :=
  match text with
  | '.' :: rest =>
    match rest.takeWhile Digits.isDigit with
    | [] => (broken rest, rest)
    | digits => takeExponent { numeral with fraction := some digits } (rest.drop digits.length)
  | _ => takeExponent numeral text

/-- Takes a number off a text behind its sign. -/
def takeUnsigned (negative : Bool) (text : List Char) : Part Number × List Char :=
  let digits := text.takeWhile Digits.isDigit
  match digits with
  | [] => (broken text, text)
  | '0' :: _ :: _ => (⟨.error .malformed, .error .malformed⟩, text)
  | _ => takeFraction ⟨negative, digits, none, none⟩ (text.drop digits.length)

def take : List Char → Part Number × List Char
  | '-' :: rest => takeUnsigned true rest
  | text => takeUnsigned false text

end Numeral

end Collateral.Document
