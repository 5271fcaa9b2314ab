import Collateral.Decimal.Arithmetic
import Mathlib.Algebra.Order.Field.Basic
import Mathlib.Algebra.Order.Field.Rat
import Mathlib.Data.Rat.Cast.Order
import Mathlib.Tactic.FieldSimp
import Mathlib.Tactic.Linarith
import Mathlib.Tactic.Ring

/-!
Contract: decimals as the rational numbers that they stand for.

Different decimals stand for different numbers, and the exact operations on decimals are those of
rational numbers. Proofs about amounts pass to rational numbers through the laws below and stay
there.

Owns: the number of a decimal made from parts, injectivity, and the exact operations.

Does not own: the operations that round.
-/

namespace Collateral

theorem Digits.cast_tenTo (zeros : Nat) : (Digits.tenTo zeros : Rat) = 10 ^ zeros := by
  have same : Digits.tenTo zeros = 10 ^ zeros := rfl
  rw [same]
  push_cast
  rfl

namespace Decimal

theorem toRat_eq (number : Decimal) :
    number.toRat = (number.coefficient : Rat) / 10 ^ number.places := by
  rw [toRat, Digits.cast_tenTo]

/-! ## Decimals made from parts -/

theorem toRat_ofParts (coefficient : Int) (places : Nat)
    (bounded : coefficient.natAbs < coefficientLimit) (placed : places ≤ placesLimit) :
    (ofParts coefficient places bounded placed).toRat = (coefficient : Rat) / 10 ^ places := by
  induction places generalizing coefficient with
  | zero => simp [ofParts, toRat_eq]
  | succ fewer inductionHypothesis =>
    unfold ofParts
    split
    next whole =>
      obtain ⟨tenth, rfl⟩ := Int.dvd_of_emod_eq_zero whole
      rw [inductionHypothesis, Int.mul_ediv_cancel_left _ (by decide), pow_succ]
      push_cast
      field_simp
    next => rw [toRat_eq]

theorem toRat_signed (negative : Bool) (magnitude places : Nat)
    (bounded : magnitude < coefficientLimit) (placed : places ≤ placesLimit) :
    (signed negative magnitude places bounded placed).toRat =
      (if negative then -(magnitude : Rat) else magnitude) / 10 ^ places := by
  rw [signed, toRat_ofParts]
  cases negative <;> simp

/-! ## One decimal for each number -/

private theorem coefficient_eq_of_places_le {left right : Decimal}
    (fewer : left.places ≤ right.places) (same : left.toRat = right.toRat) :
    right.coefficient = left.coefficient * 10 ^ (right.places - left.places) := by
  rw [toRat_eq, toRat_eq, div_eq_div_iff (by positivity) (by positivity)] at same
  obtain ⟨extra, places⟩ := Nat.exists_eq_add_of_le fewer
  rw [places, pow_add, ← mul_assoc, mul_right_comm] at same
  have cancelled := mul_right_cancel₀ (by positivity) same
  rw [places, Nat.add_sub_cancel_left]
  exact_mod_cast cancelled.symm

private theorem places_eq_of_places_le {left right : Decimal}
    (fewer : left.places ≤ right.places) (same : left.toRat = right.toRat) :
    left.places = right.places := by
  by_contra differ
  have coefficient := coefficient_eq_of_places_le fewer same
  obtain ⟨extra, more⟩ : ∃ extra, right.places - left.places = extra + 1 :=
    ⟨right.places - left.places - 1, by omega⟩
  rw [more, pow_succ] at coefficient
  have divisible : right.coefficient % 10 = 0 := by
    rw [coefficient, ← mul_assoc]
    exact Int.mul_emod_left _ _
  rcases right.reduced with none | notWhole
  · omega
  · exact notWhole divisible

theorem toRat_injective {left right : Decimal} (same : left.toRat = right.toRat) :
    left = right := by
  wlog fewer : left.places ≤ right.places generalizing left right
  · exact (this same.symm (by omega)).symm
  have places := places_eq_of_places_le fewer same
  have coefficient := coefficient_eq_of_places_le fewer same
  rw [places, Nat.sub_self, pow_zero, mul_one] at coefficient
  cases left
  cases right
  simp_all

theorem toRat_inj {left right : Decimal} : left.toRat = right.toRat ↔ left = right :=
  ⟨toRat_injective, congrArg toRat⟩

/-! ## Exact operations -/

@[simp] theorem toRat_zero : (0 : Decimal).toRat = 0 := by
  change ((0 : Int) : Rat) / (Digits.tenTo 0 : Rat) = 0
  rw [Digits.cast_tenTo]
  norm_num

@[simp] theorem toRat_one : (1 : Decimal).toRat = 1 := by
  change ((1 : Int) : Rat) / (Digits.tenTo 0 : Rat) = 1
  rw [Digits.cast_tenTo]
  norm_num

@[simp] theorem toRat_two : (2 : Decimal).toRat = 2 := by
  change ((2 : Int) : Rat) / (Digits.tenTo 0 : Rat) = 2
  rw [Digits.cast_tenTo]
  norm_num

@[simp] theorem toRat_neg (number : Decimal) : (-number).toRat = -number.toRat := by
  rw [toRat_eq, toRat_eq, ← neg_div]
  norm_cast

theorem le_iff {left right : Decimal} : left ≤ right ↔ left.toRat ≤ right.toRat := Iff.rfl

theorem lt_iff {left right : Decimal} : left < right ↔ left.toRat < right.toRat := Iff.rfl

@[simp] theorem toRat_abs (number : Decimal) : number.abs.toRat = |number.toRat| := by
  unfold abs
  split
  next negative =>
    rw [toRat_neg, abs_of_neg (by simpa using lt_iff.1 negative)]
  next notNegative =>
    rw [abs_of_nonneg (by simpa using not_lt.1 (lt_iff.not.1 notNegative))]

@[simp] theorem toRat_min (left right : Decimal) :
    (min left right).toRat = min left.toRat right.toRat := by
  change (if left ≤ right then left else right).toRat = _
  rw [apply_ite toRat, min_def]
  rfl

@[simp] theorem toRat_max (left right : Decimal) :
    (max left right).toRat = max left.toRat right.toRat := by
  change (if left ≤ right then right else left).toRat = _
  rw [apply_ite toRat, max_def]
  rfl

theorem toRat_eq_zero {number : Decimal} : number.toRat = 0 ↔ number = 0 := by
  rw [← toRat_zero, toRat_inj]

/-- A decimal above zero is at least one unit of the last place. -/
theorem unit_le_toRat {number : Decimal} (positive : 0 < number.toRat) :
    1 / 10 ^ 28 ≤ number.toRat := by
  rw [toRat_eq] at positive ⊢
  have scale : (0 : Rat) < 10 ^ number.places := by positivity
  have whole : 0 < number.coefficient := by
    exact_mod_cast (div_pos_iff_of_pos_right scale).1 positive
  have one : (1 : Rat) ≤ number.coefficient := by exact_mod_cast whole
  have placed : (10 : Rat) ^ number.places ≤ 10 ^ 28 :=
    pow_le_pow_right₀ (by norm_num) number.places_le
  gcongr

end Decimal

end Collateral
