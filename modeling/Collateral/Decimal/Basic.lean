import Collateral.Decimal.Figure

/-!
Contract: decimal values, on which all calculations run.

A decimal has no needless places, and zero has no sign, so two decimals are equal exactly when
they stand for the same number. Comparison, negation, absolute value, least and greatest are exact;
only the four operations of `Collateral.Decimal.Arithmetic` can round or fail.

Owns: decimals, their order, and the way from a figure to its value and back.
-/

namespace Collateral

/-- The number `coefficient / 10 ^ places` in lowest form: its last place is not zero. -/
structure Decimal where
  coefficient : Int
  places : Nat
  coefficient_lt : coefficient.natAbs < coefficientLimit
  places_le : places ≤ placesLimit
  reduced : places = 0 ∨ coefficient % 10 ≠ 0
deriving DecidableEq, Repr

namespace Decimal

private theorem natAbs_div_ten_lt
    {coefficient : Int}
    (bounded : coefficient.natAbs < coefficientLimit) :
    (coefficient / 10).natAbs < coefficientLimit := by
  have smaller : (coefficient / 10).natAbs ≤ coefficient.natAbs := by omega
  exact Nat.lt_of_le_of_lt smaller bounded

/-- The decimal `coefficient / 10 ^ places`, found by dropping zeros at the end. -/
def ofParts (coefficient : Int) (places : Nat)
    (bounded : coefficient.natAbs < coefficientLimit)
    (placed : places ≤ placesLimit) : Decimal :=
  match places with
  | 0 => ⟨coefficient, 0, bounded, placed, Or.inl rfl⟩
  | fewer + 1 =>
    if whole : coefficient % 10 = 0 then
      ofParts (coefficient / 10) fewer (natAbs_div_ten_lt bounded) (Nat.le_of_succ_le placed)
    else
      ⟨coefficient, fewer + 1, bounded, placed, Or.inr whole⟩

private theorem natAbs_signed (negative : Bool) (magnitude : Nat) :
    (if negative then -(magnitude : Int) else (magnitude : Int)).natAbs = magnitude := by
  cases negative <;> simp

def signed (negative : Bool) (magnitude places : Nat)
    (bounded : magnitude < coefficientLimit) (placed : places ≤ placesLimit) : Decimal :=
  ofParts (if negative then -(magnitude : Int) else (magnitude : Int)) places
    (by rw [natAbs_signed]; exact bounded) placed

/-- The rational number that a decimal stands for. -/
def toRat (number : Decimal) : Rat :=
  (number.coefficient : Rat) / (Digits.tenTo number.places : Rat)

/-- The figure that writes a decimal, with no more places than it needs. -/
def toFigure (number : Decimal) : Figure :=
  ⟨decide (number.coefficient < 0), number.coefficient.natAbs, number.places,
    ⟨number.coefficient_lt, number.places_le⟩⟩

def toText (number : Decimal) : String :=
  number.toFigure.toText

instance : OfNat Decimal 0 :=
  ⟨⟨0, 0, (0 : Figure).bounded.1, (0 : Figure).bounded.2, .inl rfl⟩⟩
instance : OfNat Decimal 1 :=
  ⟨⟨1, 0, (1 : Figure).bounded.1, (1 : Figure).bounded.2, .inl rfl⟩⟩
instance : OfNat Decimal 2 :=
  ⟨⟨2, 0, (2 : Figure).bounded.1, (2 : Figure).bounded.2, .inl rfl⟩⟩

instance : Inhabited Decimal := ⟨0⟩

instance : LE Decimal := ⟨fun left right => left.toRat ≤ right.toRat⟩
instance : LT Decimal := ⟨fun left right => left.toRat < right.toRat⟩

instance (left right : Decimal) : Decidable (left ≤ right) :=
  inferInstanceAs (Decidable (left.toRat ≤ right.toRat))

instance (left right : Decimal) : Decidable (left < right) :=
  inferInstanceAs (Decidable (left.toRat < right.toRat))

instance : Min Decimal := minOfLe
instance : Max Decimal := maxOfLe

/-- The opposite number, which is always exact. -/
protected def neg (number : Decimal) : Decimal where
  coefficient := -number.coefficient
  places := number.places
  coefficient_lt := by
    rw [Int.natAbs_neg]
    exact number.coefficient_lt
  places_le := number.places_le
  reduced := by
    have reduced := number.reduced
    omega

instance : Neg Decimal := ⟨Decimal.neg⟩

/-- The distance from zero, which is always exact. -/
def abs (number : Decimal) : Decimal :=
  if number < 0 then -number else number

end Decimal

/-- The value of a figure, without its needless places. -/
def Figure.value (figure : Figure) : Decimal :=
  .signed figure.negative figure.magnitude figure.places figure.bounded.1 figure.bounded.2

end Collateral
