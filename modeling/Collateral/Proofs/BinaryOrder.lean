import Collateral.Binary.Parts

/-!
Contract: the order of finite binary numbers, read off their parts.

A number compares by its sign first, then by its exponent and then by its mantissa. That is right
because its parts are canonical: every mantissa but those at the least exponent has the leading bit.

Owns: canonical parts, the order of magnitudes, and the order of numbers.
-/

namespace Collateral

namespace Binary

open Float.Model (UnpackedFloat)
open Float.Model.UnpackedFloat (Sign)

/-- The sign of a number. -/
def signOf (negative : Bool) : Sign :=
  if negative then .negative else .positive

/-- A mantissa and an exponent as a number has them. -/
structure Canonical (mantissa : Nat) (exponent : Int) : Prop where
  mantissa_lt : mantissa < 2 * leadingBit
  least_le : -1074 ≤ exponent
  least_or_leading : exponent = -1074 ∨ leadingBit ≤ mantissa

theorem canonical_of_parts {number : Float} {negative : Bool} {mantissa : Nat} {exponent : Int}
    (taken : parts number = .finite negative mantissa exponent) : Canonical mantissa exponent := by
  have below : number.toBits.toNat % leadingBit < leadingBit := Nat.mod_lt _ (by decide)
  unfold parts at taken
  simp only at taken
  generalize number.toBits.toNat % signBit / leadingBit = biased at taken
  split at taken
  · split at taken <;> simp at taken
  split at taken
  · injection taken with _ mantissaIs exponentIs
    exact ⟨by omega, by omega, .inl exponentIs.symm⟩
  · injection taken with _ mantissaIs exponentIs
    exact ⟨by omega, by omega, .inr (by omega)⟩

section Bits

open Float.Model UnpackedFloat

variable (word : UInt64)

private theorem toNat_fraction :
    (@unpackMantissa Format.binary64 word.toBitVec).toNat = word.toNat % leadingBit := by
  change word.toNat >>> 0 % 2 ^ 52 = word.toNat % 2 ^ 52
  rw [Nat.shiftRight_zero]

private theorem toNat_biased :
    (@unpackExponent Format.binary64 word.toBitVec).toNat =
      word.toNat % signBit / leadingBit := by
  change word.toNat >>> 52 % 2 ^ 11 = word.toNat % 2 ^ 63 / 2 ^ 52
  rw [Nat.shiftRight_eq_div_pow]
  omega

private theorem exponent_eq_allOnes :
    @unpackExponent Format.binary64 word.toBitVec = -1#_ ↔
      word.toNat % signBit / leadingBit = 2047 := by
  rw [← toNat_biased, ← BitVec.toNat_inj]
  rfl

private theorem sign_eq :
    Sign.ofBitVec (@unpackSign Format.binary64 word.toBitVec) =
      signOf (decide (signBit ≤ word.toNat)) := by
  have bounded := word.toNat_lt
  have positive : @unpackSign Format.binary64 word.toBitVec = 0#1 ↔
      ¬signBit ≤ word.toNat := by
    rw [← BitVec.toNat_inj]
    change word.toNat >>> 63 % 2 = 0 ↔ ¬2 ^ 63 ≤ word.toNat
    rw [Nat.shiftRight_eq_div_pow]
    omega
  unfold Sign.ofBitVec signOf
  by_cases negative : signBit ≤ word.toNat
  · rw [if_neg (by simpa [positive] using negative), if_pos (by simpa using negative)]
  · rw [if_pos (by simpa [positive] using negative), if_neg (by simpa using negative)]

end Bits

private theorem finite_congr {sign : Sign} {mantissa mantissa' : Nat} {exponent exponent' : Int}
    (mantissas : mantissa = mantissa') (exponents : exponent = exponent')
    (positive : 0 < mantissa) :
    ∃ positive', UnpackedFloat.finite sign mantissa exponent positive =
      .finite sign mantissa' exponent' positive' := by
  subst mantissas exponents
  exact ⟨positive, rfl⟩

open Float.Model UnpackedFloat in
theorem unpack_of_parts {number : Float} {negative : Bool} {mantissa : Nat} {exponent : Int}
    (taken : parts number = .finite negative mantissa exponent) :
    mantissa = 0 ∧ number.toModel.unpack = .zero (signOf negative) ∨
      ∃ positive, number.toModel.unpack = .finite (signOf negative) mantissa exponent positive := by
  obtain ⟨⟨word, valid⟩⟩ := number
  unfold parts Float.toBits at taken
  unfold Float.Model.unpack UnpackedFloat.unpack
  dsimp only at taken ⊢
  have none : @unpackExponent Format.binary64 word.toBitVec = 0#_ ↔
      word.toNat % signBit / leadingBit = 0 := by
    rw [← toNat_biased, ← BitVec.toNat_inj]
    rfl
  have noFraction : @unpackMantissa Format.binary64 word.toBitVec = 0#_ ↔
      word.toNat % leadingBit = 0 := by
    rw [← toNat_fraction, ← BitVec.toNat_inj]
    rfl
  split at taken
  · split at taken <;> simp at taken
  next finite =>
    rw [if_neg (mt (exponent_eq_allOnes word).1 finite), sign_eq]
    split at taken
    next subnormal =>
      injection taken with negativeIs mantissaIs exponentIs
      subst negativeIs mantissaIs exponentIs
      rw [if_pos (none.2 subnormal)]
      by_cases zero : word.toNat % leadingBit = 0
      · rw [dif_pos (noFraction.2 zero)]
        exact .inl ⟨zero, rfl⟩
      · rw [dif_neg (mt noFraction.1 zero)]
        refine .inr (finite_congr (toNat_fraction word) ?_ _)
        rw [toNat_biased, subnormal]
        rfl
    next normal =>
      injection taken with negativeIs mantissaIs exponentIs
      subst negativeIs mantissaIs exponentIs
      rw [if_neg (mt none.1 normal)]
      refine .inr (finite_congr ?_ ?_ _)
      · rw [BitVec.toNat_append, toNat_fraction, ← Nat.shiftLeft_add_eq_or_of_lt]
        · rfl
        · exact Nat.mod_lt _ (by decide)
      · rw [toNat_biased]
        rfl

open Float.Model UnpackedFloat in
/-- A number that is not finite is infinite or undefined. -/
private theorem unpack_of_not_finite {number : Float}
    (notFinite : ∀ negative mantissa exponent, parts number ≠ .finite negative mantissa exponent) :
    number.toModel.unpack = .notANumber ∨ ∃ sign, number.toModel.unpack = .infinity sign := by
  obtain ⟨⟨word, valid⟩⟩ := number
  have large : word.toNat % signBit / leadingBit = 2047 := by
    refine Classical.byContradiction fun small => ?_
    unfold parts Float.toBits at notFinite
    dsimp only at notFinite
    rw [if_neg small] at notFinite
    split at notFinite
    · exact notFinite _ _ _ rfl
    · exact notFinite _ _ _ rfl
  unfold Float.Model.unpack UnpackedFloat.unpack
  dsimp only
  rw [if_pos ((exponent_eq_allOnes word).2 large)]
  split
  next => exact .inr ⟨_, rfl⟩
  next => exact .inl rfl

theorem le_iff_compare {left right : Float} :
    left ≤ right ↔ (left.toModel.unpack.compare right.toModel.unpack).any (·.isLE) = true := by
  change left.le right = true ↔ _
  unfold Float.le
  simp only [decide_eq_true_eq]
  rfl

/-- A magnitude that comes no later than another one. -/
def Precedes (mantissa : Nat) (exponent : Int) (mantissa' : Nat) (exponent' : Int) : Prop :=
  0 < mantissa' ∧ (exponent < exponent' ∨ exponent = exponent' ∧ mantissa ≤ mantissa')

private theorem precedes_of_compare {mantissa mantissa' : Nat} {exponent exponent' : Int}
    (positive : 0 < mantissa')
    (ordered : ((compare exponent exponent').then (compare mantissa mantissa')).isLE = true) :
    Precedes mantissa exponent mantissa' exponent' := by
  refine ⟨positive, ?_⟩
  rw [Ordering.isLE_then_iff_or, Nat.isLE_compare] at ordered
  simpa [Int.compare_eq_lt] using ordered

theorem ordered_of_le {left right : Float} {negative negative' : Bool} {mantissa mantissa' : Nat}
    {exponent exponent' : Int} (ordered : left ≤ right)
    (taken : parts left = .finite negative mantissa exponent)
    (taken' : parts right = .finite negative' mantissa' exponent') :
    (negative = true ∨ mantissa = 0) ∧ (negative' = false ∨ mantissa' = 0) ∨
      negative = false ∧ negative' = false ∧ Precedes mantissa exponent mantissa' exponent' ∨
      negative = true ∧ negative' = true ∧ Precedes mantissa' exponent' mantissa exponent := by
  rw [le_iff_compare] at ordered
  rcases unpack_of_parts taken with ⟨zero, unpacked⟩ | ⟨positive, unpacked⟩ <;>
    rcases unpack_of_parts taken' with ⟨zero', unpacked'⟩ | ⟨positive', unpacked'⟩ <;>
    rw [unpacked, unpacked'] at ordered
  · exact .inl ⟨.inr zero, .inr zero'⟩
  · cases negative' with
    | false => exact .inl ⟨.inr zero, .inl rfl⟩
    | true => exact absurd (show false = true from ordered) Bool.false_ne_true
  · cases negative with
    | false => exact absurd (show false = true from ordered) Bool.false_ne_true
    | true => exact .inl ⟨.inl rfl, .inr zero'⟩
  · cases negative <;> cases negative'
    case true.false => exact .inl ⟨.inl rfl, .inl rfl⟩
    case false.true => exact absurd (show false = true from ordered) Bool.false_ne_true
    case false.false => exact .inr (.inl ⟨rfl, rfl, precedes_of_compare positive' ordered⟩)
    case true.true =>
      change ((compare exponent exponent').then (compare mantissa mantissa')).swap.isLE at ordered
      rw [Ordering.swap_then, Int.compare_swap, Nat.compare_swap] at ordered
      exact .inr (.inr ⟨rfl, rfl, precedes_of_compare positive ordered⟩)

/-- What lies between two finite numbers is finite. -/
theorem exists_parts_of_between {low number high : Float} {negative negative' : Bool}
    {mantissa mantissa' : Nat} {exponent exponent' : Int} (above : low ≤ number)
    (below : number ≤ high) (taken : parts low = .finite negative mantissa exponent)
    (taken' : parts high = .finite negative' mantissa' exponent') :
    ∃ sign digits power, parts number = .finite sign digits power := by
  refine Classical.byContradiction fun none => ?_
  rw [le_iff_compare] at above below
  rcases unpack_of_not_finite fun sign digits power found => none ⟨sign, digits, power, found⟩ with
    unpacked | ⟨sign, unpacked⟩
  · rw [unpacked] at below
    rcases unpack_of_parts taken' with ⟨-, highIs⟩ | ⟨_, highIs⟩ <;> rw [highIs] at below <;>
      exact absurd below Bool.false_ne_true
  · rw [unpacked] at above below
    cases sign with
    | positive =>
      rcases unpack_of_parts taken' with ⟨-, highIs⟩ | ⟨_, highIs⟩ <;> rw [highIs] at below <;>
        exact absurd below Bool.false_ne_true
    | negative =>
      rcases unpack_of_parts taken with ⟨-, lowIs⟩ | ⟨_, lowIs⟩ <;> rw [lowIs] at above <;>
        exact absurd above Bool.false_ne_true

/-- What lies between two finite numbers has no larger exponent than both. -/
theorem exponent_le_of_between {low number high : Float} {negative sign negative' : Bool}
    {mantissa digits mantissa' : Nat} {exponent power exponent' : Int} (above : low ≤ number)
    (below : number ≤ high) (takenLow : parts low = .finite negative mantissa exponent)
    (taken : parts number = .finite sign digits power)
    (takenHigh : parts high = .finite negative' mantissa' exponent') :
    power ≤ max exponent exponent' := by
  have canonical := canonical_of_parts taken
  by_cases zero : digits = 0
  · -- Nought has the least exponent that there is.
    have least : power = -1074 := by
      refine canonical.least_or_leading.resolve_right ?_
      rw [zero]
      decide
    have leastLe := (canonical_of_parts takenLow).least_le
    omega
  · cases sign with
    | true =>
      rcases ordered_of_le above takenLow taken with ⟨-, up⟩ | ⟨-, up, -⟩ | ⟨-, -, precedes⟩
      · simp [zero] at up
      · cases up
      · have ordered := precedes.2
        omega
    | false =>
      rcases ordered_of_le below taken takenHigh with ⟨down, -⟩ | ⟨-, -, precedes⟩ | ⟨down, -, -⟩
      · simp [zero] at down
      · have ordered := precedes.2
        omega
      · cases down

end Binary

end Collateral
