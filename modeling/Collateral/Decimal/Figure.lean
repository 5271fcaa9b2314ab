import Collateral.Decimal.Digits

/-!
Contract: decimals as they are written down.

A figure keeps the places it was written with, so `2.50` and `2.5` are different figures of one
value. Figures stand where a number is quoted back to the reader: in messages, in displayed
details and in documents. Calculations use `Decimal` instead.

Owns: the two bounds on every decimal (ninety-six bits of coefficient, twenty-eight places) and
the text of a figure.

Does not own: reading a figure from text, or arithmetic.
-/

namespace Collateral

/-- Every coefficient stays below this bound, so that it fits ninety-six bits. -/
def coefficientLimit : Nat := (1 : Nat) <<< 96

/-- No decimal has more places than this after the point. -/
def placesLimit : Nat := 28

/-- The number `magnitude / 10 ^ places` behind its sign, written with exactly `places` places. A
number that was rounded off to zero keeps the sign it had. -/
structure Figure where
  negative : Bool
  magnitude : Nat
  places : Nat
  bounded : magnitude < coefficientLimit ∧ places ≤ placesLimit
deriving DecidableEq, Repr

namespace Figure

instance : OfNat Figure 0 := ⟨⟨false, 0, 0, by decide⟩⟩
instance : OfNat Figure 1 := ⟨⟨false, 1, 0, by decide⟩⟩
instance : OfNat Figure 2 := ⟨⟨false, 2, 0, by decide⟩⟩

instance : Inhabited Figure := ⟨0⟩

/-- One tenth, with two places. -/
def tenth : Figure := ⟨false, 10, 2, by decide⟩

def thousandth : Figure := ⟨false, 1, 3, by decide⟩

def millionth : Figure := ⟨false, 1, 6, by decide⟩

/-- The text of a figure: its sign if that is a minus, and all its places. -/
def toText (figure : Figure) : String :=
  Digits.signedPositional figure.negative figure.magnitude figure.places

end Figure

end Collateral
