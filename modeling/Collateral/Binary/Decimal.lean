import Collateral.Binary.Notation
import Collateral.Decimal.Basic
import Collateral.Decimal.Numeral

/-!
Contract: passing between decimals and binary numbers.

A decimal becomes the nearest binary number. The other way there are two rules. A binary number
that was written down becomes the figure that its shortest digits write. One to calculate with
stays what it is when it is whole, as far as ninety-six bits reach. Otherwise it is halved step by
step, as often as its exponent says, and then loses the places that a binary number is too coarse
for: it keeps fifteen digits, or sixteen where they fit fifty-two bits. A number that is not finite
or too large has no decimal.

Owns: the nearest binary number of a decimal, and both rules of the other way.
-/

namespace Collateral

/-- The binary number nearest to a decimal. -/
def Decimal.toBinary (number : Decimal) : Float :=
  Binary.ofScaled (decide (number.coefficient < 0))
    ⟨number.coefficient.natAbs, -(number.places : Int)⟩

/-- The figure that the shortest digits of a binary number write. -/
def Figure.ofBinary? (number : Float) : Option Figure :=
  Figure.ofText? (Binary.plain number)

namespace Binary

/-- Half of a number of digits and places. An odd one needs a place more; where its digits leave no
room for that, the half is cut off to a whole number of units. -/
def half : Nat × Nat → Nat × Nat
  | (digits, places) =>
    if digits % 2 = 1 ∧ 5 * digits < coefficientLimit then (5 * digits, places + 1)
    else (digits / 2, places)

/-- Digits without the last one, rounded half up. A digit that stands alone is dropped. -/
def dropDigit (digits : Nat) : Nat :=
  if digits < 10 then 0 else (digits + 5) / 10

/-- Drops places one by one while the digits say more than a binary number does. -/
def dropPlaces (digits : Nat) : (places : Nat) → Nat × Nat
  | 0 => (digits, 0)
  | fewer + 1 =>
    if digits < leadingBit then (digits, fewer + 1) else dropPlaces (dropDigit digits) fewer

end Binary

/-- The decimal of a binary number to calculate with. Each place that is dropped rounds anew. -/
def Decimal.ofBinary? (number : Float) : Option Decimal :=
  match Binary.parts number with
  | .finite negative mantissa (.ofNat doublings) =>
    (Figure.ofParts? negative (mantissa <<< doublings) 0).map Figure.value
  | .finite negative mantissa (.negSucc halvings) =>
    let (digits, places) := Nat.repeat Binary.half (halvings + 1) (mantissa, 0)
    let excess := places - placesLimit
    let (digits, places) :=
      Binary.dropPlaces (Nat.repeat Binary.dropDigit excess digits) (places - excess)
    (Figure.ofParts? negative digits places).map Figure.value
  | _ => none

end Collateral
