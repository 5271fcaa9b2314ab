import Collateral.Projection.Snapshot
import Collateral.Proofs.BinaryOrder
import Collateral.Proofs.Outcome
import Mathlib

/-!
Contract: binary numbers that are numbers, and which calculations keep to them.

The undefined number compares with nothing, so a test and its opposite can both fail. A decimal never
becomes the undefined number: its digits are turned into a number and divided by a power of ten,
which is neither zero nor infinite, and rounding such a quotient gives a number again.

Owns: the order of numbers as a total one, and the numbers of decimals.
-/

namespace Collateral

namespace Binary

open Float.Model (UnpackedFloat Format)
open Float.Model.UnpackedFloat

/-! ## Two numbers compare -/

theorem isNaN_eq_false_iff {number : Float} :
    number.isNaN = false ↔ number.toModel.unpack ≠ .notANumber := by
  change number.toModel.unpack.isNaN = false ↔ _
  rw [← Bool.not_eq_true, UnpackedFloat.isNaN_iff]

theorem isNaN_eq_false_of_isFinite {number : Float} (finite : isFinite number = true) :
    number.isNaN = false := by
  rw [isNaN_eq_false_iff]
  unfold isFinite at finite
  split at finite
  next taken =>
    rcases unpack_of_parts taken with ⟨-, unpacked⟩ | ⟨positive, unpacked⟩
    · rw [unpacked]
      exact UnpackedFloat.noConfusion
    · rw [unpacked]
      exact UnpackedFloat.noConfusion
  next => cases finite

theorem lt_iff_compare {left right : Float} :
    left < right ↔ left.toModel.unpack.compare right.toModel.unpack = some .lt := by
  change left.lt right = true ↔ _
  unfold Float.lt
  rw [decide_eq_true_iff]
  exact beq_iff_eq

/-- Numbers are compared alike from either side. -/
private theorem compare_comm {left right : UnpackedFloat} (leftSome : left ≠ .notANumber)
    (rightSome : right ≠ .notANumber) :
    ∃ order, left.compare right = some order ∧ right.compare left = some order.swap := by
  cases left with
  | notANumber => exact absurd rfl leftSome
  | infinity sign =>
    cases right with
    | notANumber => exact absurd rfl rightSome
    | infinity sign' => cases sign <;> cases sign' <;> exact ⟨_, rfl, rfl⟩
    | zero sign' => cases sign <;> exact ⟨_, rfl, rfl⟩
    | finite sign' mantissa' exponent' positive' => cases sign <;> exact ⟨_, rfl, rfl⟩
  | zero sign =>
    cases right with
    | notANumber => exact absurd rfl rightSome
    | infinity sign' => cases sign' <;> exact ⟨_, rfl, rfl⟩
    | zero sign' => exact ⟨_, rfl, rfl⟩
    | finite sign' mantissa' exponent' positive' => cases sign' <;> exact ⟨_, rfl, rfl⟩
  | finite sign mantissa exponent positive =>
    cases right with
    | notANumber => exact absurd rfl rightSome
    | infinity sign' => cases sign' <;> exact ⟨_, rfl, rfl⟩
    | zero sign' => cases sign <;> exact ⟨_, rfl, rfl⟩
    | finite sign' mantissa' exponent' positive' =>
      have swapped : (compare exponent' exponent).then (compare mantissa' mantissa) =
          ((compare exponent exponent').then (compare mantissa mantissa')).swap := by
        rw [Ordering.swap_then, Int.compare_swap, Nat.compare_swap]
      cases sign <;> cases sign'
      case negative.positive => exact ⟨_, rfl, rfl⟩
      case positive.negative => exact ⟨_, rfl, rfl⟩
      case positive.positive => exact ⟨_, rfl, congrArg some swapped⟩
      case negative.negative =>
        exact ⟨_, rfl, congrArg (fun order : Ordering => some order.swap) swapped⟩

/-- Of two numbers one is less, or the other one is no more. -/
theorem not_le_iff_lt {left right : Float} (leftSome : left.isNaN = false)
    (rightSome : right.isNaN = false) : ¬left ≤ right ↔ right < left := by
  obtain ⟨order, onward, backward⟩ :=
    compare_comm (isNaN_eq_false_iff.1 leftSome) (isNaN_eq_false_iff.1 rightSome)
  rw [le_iff_compare, lt_iff_compare, onward, backward]
  cases order <;> decide

/-! ## Calculations with numbers -/

/-- Only the largest exponent with a fraction stands for no number. -/
private theorem unpack_packComponents {spec : Format} (sign : Sign)
    {exponent : BitVec spec.exponentBits} {mantissa : BitVec spec.mantissaBitsWithoutImplicit}
    (proper : exponent ≠ -1#_ ∨ mantissa = 0#_) :
    UnpackedFloat.unpack spec (packComponents spec sign exponent mantissa) ≠ .notANumber := by
  rw [UnpackedFloat.unpack]
  simp only [unpackExponent_packComponents, unpackMantissa_packComponents]
  by_cases largest : exponent = -1#_
  · rw [if_pos largest, if_pos (proper.resolve_left (Classical.not_not.2 largest))]
    exact UnpackedFloat.noConfusion
  · rw [if_neg largest]
    split
    · split <;> exact UnpackedFloat.noConfusion
    · exact UnpackedFloat.noConfusion

/-- What is packed and taken apart again stays a number. -/
private theorem unpack_pack {number : UnpackedFloat} (some : number ≠ .notANumber) :
    UnpackedFloat.unpack .binary64 (UnpackedFloat.pack .binary64 number) ≠ .notANumber := by
  cases number with
  | notANumber => exact absurd rfl some
  | infinity sign => exact unpack_packComponents sign (.inr rfl)
  | zero sign => exact unpack_packComponents sign (.inr rfl)
  | finite sign mantissa exponent positive =>
    rw [UnpackedFloat.pack]
    generalize (exponent + Format.binary64.exponentBias +
      Format.binary64.mantissaBitsWithoutImplicit).toNat = biased
    dsimp only
    by_cases tooLarge : 2 ^ Format.binary64.exponentBits ≤ biased + 1
    · rw [if_pos tooLarge]
      exact unpack_packComponents sign (.inr rfl)
    · rw [if_neg tooLarge]
      split
      · refine unpack_packComponents sign (.inl ?_)
        intro largest
        have values : biased % 2 ^ 11 = 2 ^ 11 - 1 := congrArg BitVec.toNat largest
        change ¬2 ^ 11 ≤ biased + 1 at tooLarge
        omega
      · exact unpack_packComponents sign (.inl (by decide))

private theorem roundWithAccuracy_ne_notANumber (spec : Format) (sign : Sign) (mantissa : Nat)
    (exponent : Int) (accuracy : Accuracy) :
    roundWithAccuracy spec sign mantissa exponent accuracy ≠ .notANumber := by
  unfold roundWithAccuracy
  dsimp only
  split <;> exact UnpackedFloat.noConfusion

private theorem mul_finite_ne_notANumber (spec : Format) {number : UnpackedFloat}
    (some : number ≠ .notANumber) (sign : Sign) (mantissa : Nat) (exponent : Int)
    (positive : 0 < mantissa) :
    number.mul spec (.finite sign mantissa exponent positive) ≠ .notANumber := by
  cases number with
  | notANumber => exact absurd rfl some
  | infinity _ => exact UnpackedFloat.noConfusion
  | zero _ => exact UnpackedFloat.noConfusion
  | finite _ _ _ _ => exact roundWithAccuracy_ne_notANumber _ _ _ _ _

private theorem div_finite_ne_notANumber (spec : Format) {number : UnpackedFloat}
    (some : number ≠ .notANumber) (sign : Sign) (mantissa : Nat) (exponent : Int)
    (positive : 0 < mantissa) :
    number.div spec (.finite sign mantissa exponent positive) ≠ .notANumber := by
  cases number with
  | notANumber => exact absurd rfl some
  | infinity _ => exact UnpackedFloat.noConfusion
  | zero _ => exact UnpackedFloat.noConfusion
  | finite _ _ _ _ => exact roundWithAccuracy_ne_notANumber _ _ _ _ _

/-! ## Decimals as numbers -/

/-- Whether a number is finite and not zero. -/
private def isProper (number : Float) : Bool :=
  match parts number with
  | .finite _ mantissa _ => mantissa ≠ 0
  | _ => false

private theorem unpack_of_isProper {number : Float} (proper : isProper number = true) :
    ∃ sign mantissa exponent positive,
      number.toModel.unpack = .finite sign mantissa exponent positive := by
  unfold isProper at proper
  split at proper
  next taken =>
    rcases unpack_of_parts taken with ⟨zero, -⟩ | ⟨positive, unpacked⟩
    · exact absurd zero (of_decide_eq_true proper)
    · exact ⟨_, _, _, positive, unpacked⟩
  next => cases proper

private theorem isNaN_mul {number factor : Float} (some : number.isNaN = false)
    (proper : isProper factor = true) : (number * factor).isNaN = false := by
  obtain ⟨sign, mantissa, exponent, positive, unpacked⟩ := unpack_of_isProper proper
  rw [isNaN_eq_false_iff] at some ⊢
  refine unpack_pack ?_
  rw [unpacked]
  exact mul_finite_ne_notANumber _ some _ _ _ _

private theorem isNaN_div {number divisor : Float} (some : number.isNaN = false)
    (proper : isProper divisor = true) : (number / divisor).isNaN = false := by
  obtain ⟨sign, mantissa, exponent, positive, unpacked⟩ := unpack_of_isProper proper
  rw [isNaN_eq_false_iff] at some ⊢
  refine unpack_pack ?_
  rw [unpacked]
  exact div_finite_ne_notANumber _ some _ _ _ _

private theorem isNaN_neg {number : Float} (some : number.isNaN = false) :
    (-number).isNaN = false := by
  rw [isNaN_eq_false_iff] at some ⊢
  refine unpack_pack ?_
  cases unpacked : number.toModel.unpack with
  | notANumber => exact absurd unpacked some
  | _ => exact UnpackedFloat.noConfusion

private theorem isProper_powersOfTen :
    ∀ power ∈ Float.exactlyRepresentablePowersOfTen, isProper power = true := by
  decide +kernel

private theorem ofUInt64_ne_notANumber (spec : Format) (number : UInt64) :
    UnpackedFloat.ofUInt64 spec number ≠ .notANumber := by
  unfold UnpackedFloat.ofUInt64 UnpackedFloat.ofNat UnpackedFloat.ofInt UnpackedFloat.normalize
  split
  · exact roundWithAccuracy_ne_notANumber _ _ _ _ _
  · exact UnpackedFloat.noConfusion
  · exact roundWithAccuracy_ne_notANumber _ _ _ _ _

private theorem ofScientific_ne_notANumber (spec : Format) (digits : Nat) (exponent : Int) :
    UnpackedFloat.ofScientific spec digits exponent ≠ .notANumber := by
  have number {mantissa : Nat} {power : Int} (positive : 0 < mantissa) :
      UnpackedFloat.finite .positive mantissa power positive ≠ .notANumber :=
    UnpackedFloat.noConfusion
  unfold UnpackedFloat.ofScientific
  split
  · exact UnpackedFloat.noConfusion
  · split
    · exact UnpackedFloat.noConfusion
    · split
      · exact UnpackedFloat.noConfusion
      · split
        · exact mul_finite_ne_notANumber _ (number _) _ _ _ _
        · exact div_finite_ne_notANumber _ (number _) _ _ _ _

/-- Digits and a power of ten always make a number. -/
private theorem isNaN_ofScientific (digits : Nat) (below : Bool) (power : Nat) :
    (Float.ofScientific digits below power).isNaN = false := by
  unfold Float.ofScientific
  split
  next small =>
    have inTable : power < Float.exactlyRepresentablePowersOfTen.size := by
      have size : Float.exactlyRepresentablePowersOfTen.size = 23 := rfl
      omega
    have proper := isProper_powersOfTen _ (Array.getElem_mem inTable)
    have converted : digits.toUInt64.toFloat.isNaN = false :=
      isNaN_eq_false_iff.2 (unpack_pack (ofUInt64_ne_notANumber _ _))
    dsimp only
    split
    · exact isNaN_div converted proper
    · exact isNaN_mul converted proper
  next => exact isNaN_eq_false_iff.2 (unpack_pack (ofScientific_ne_notANumber _ _ _))

private theorem isNaN_ofScaled (negative : Bool) (number : Scaled) :
    (ofScaled negative number).isNaN = false := by
  have magnitude : ∀ below power,
      (Float.ofScientific number.digits below power).isNaN = false :=
    isNaN_ofScientific number.digits
  unfold ofScaled
  cases number.exponent <;> cases negative
  · exact magnitude _ _
  · exact isNaN_neg (magnitude _ _)
  · exact magnitude _ _
  · exact isNaN_neg (magnitude _ _)

end Binary

/-- A decimal becomes a number. -/
theorem Decimal.isNaN_toBinary (number : Decimal) : number.toBinary.isNaN = false :=
  Binary.isNaN_ofScaled _ _

/-- Every score is a number. -/
theorem Snapshot.isNaN_score [Rounding] {multiplier : Decimal} {snapshot : Snapshot} {score : Float}
    (scored : snapshot.score multiplier = .ok score) : score.isNaN = false := by
  obtain ⟨quotient?, -, collected⟩ := Outcome.bind_ok.1 scored
  cases quotient? with
  | none =>
    rw [← Outcome.pure_ok.1 collected]
    decide +kernel
  | some quotient =>
    rw [← Outcome.pure_ok.1 collected]
    exact quotient.isNaN_toBinary

end Collateral
