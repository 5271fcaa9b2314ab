import Collateral.Proofs.Outcome
import Collateral.Proofs.Values
import Mathlib.Algebra.Order.Field.Basic
import Mathlib.Data.Nat.Cast.Order.Field
import Mathlib.Tactic.NormNum
import Mathlib.Tactic.Positivity

/-!
Contract: how far fitting moves a number.

Fitting to a decimal leaves every number that is a decimal already, keeps the order of numbers, and
moves a number by at most one unit of the last place for every whole unit of its size. These three
laws are all that proofs about rounded calculations use.

Owns: the rounding of quotients to whole numbers, the three laws of fitting, and what they say about
the four operations.
-/

namespace Collateral

/-! ## Rounding a quotient to a whole number -/

private theorem roundHalfEven_eq (numerator denominator : Nat) :
    roundHalfEven numerator denominator =
      if 2 * (numerator % denominator) < denominator then numerator / denominator
      else if denominator < 2 * (numerator % denominator) then numerator / denominator + 1
      else numerator / denominator + numerator / denominator % 2 := rfl

private theorem div_le_roundHalfEven (numerator denominator : Nat) :
    numerator / denominator ≤ roundHalfEven numerator denominator := by
  rw [roundHalfEven_eq]
  split
  · exact Nat.le_refl _
  · split <;> omega

private theorem roundHalfEven_le_succ (numerator denominator : Nat) :
    roundHalfEven numerator denominator ≤ numerator / denominator + 1 := by
  rw [roundHalfEven_eq]
  split
  · omega
  · split <;> omega

/-- Rounding keeps the order of quotients. -/
theorem roundHalfEven_mono {numerator denominator numerator' denominator' : Nat}
    (positive : 0 < denominator) (positive' : 0 < denominator')
    (ordered : numerator * denominator' ≤ numerator' * denominator) :
    roundHalfEven numerator denominator ≤ roundHalfEven numerator' denominator' := by
  have floors : numerator / denominator ≤ numerator' / denominator' := by
    rw [← Nat.mul_div_mul_right numerator denominator positive',
      ← Nat.mul_div_mul_right numerator' denominator' positive,
      Nat.mul_comm denominator' denominator]
    exact Nat.div_le_div_right ordered
  rcases Nat.lt_or_eq_of_le floors with less | same
  · calc roundHalfEven numerator denominator
        ≤ numerator / denominator + 1 := roundHalfEven_le_succ numerator denominator
      _ ≤ numerator' / denominator' := less
      _ ≤ roundHalfEven numerator' denominator' := div_le_roundHalfEven numerator' denominator'
  · have split := Nat.div_add_mod numerator denominator
    have split' := Nat.div_add_mod numerator' denominator'
    have rests : numerator % denominator * denominator' ≤
        numerator' % denominator' * denominator := by
      rw [← split, ← split', same] at ordered
      nlinarith [ordered]
    rw [roundHalfEven_eq, roundHalfEven_eq, same]
    by_cases below' : 2 * (numerator' % denominator') < denominator'
    · have below : 2 * (numerator % denominator) < denominator := by nlinarith
      rw [if_pos below, if_pos below']
    · by_cases above' : denominator' < 2 * (numerator' % denominator')
      · rw [if_neg below', if_pos above']
        split
        · omega
        · split <;> omega
      · have notAbove : ¬denominator < 2 * (numerator % denominator) := by nlinarith
        rw [if_neg below', if_neg above', if_neg notAbove]
        split <;> omega

/-- What is rounded away: a quotient of at most one half, since nothing is even. -/
theorem roundHalfEven_eq_zero {numerator denominator : Nat} (positive : 0 < denominator) :
    roundHalfEven numerator denominator = 0 ↔ 2 * numerator ≤ denominator := by
  constructor
  · intro zero
    have none : numerator / denominator = 0 :=
      Nat.le_zero.1 (zero ▸ div_le_roundHalfEven numerator denominator)
    have below : numerator < denominator := (Nat.div_eq_zero_iff_lt positive).1 none
    rw [roundHalfEven_eq, none, Nat.mod_eq_of_lt below] at zero
    by_contra more
    rw [if_neg (by omega), if_pos (by omega)] at zero
    exact absurd zero (by decide)
  · intro atMost
    have below : numerator < denominator := by omega
    rw [roundHalfEven_eq, Nat.div_eq_of_lt below, Nat.mod_eq_of_lt below]
    split
    · rfl
    · rw [if_neg (by omega)]

/-- Rounding moves a quotient by at most one half. -/
theorem roundHalfEven_error (numerator : Nat) {denominator : Nat} (positive : 0 < denominator) :
    |(roundHalfEven numerator denominator : Rat) - numerator / denominator| ≤ 1 / 2 := by
  have positiveRat : (0 : Rat) < denominator := by exact_mod_cast positive
  have whole : (numerator : Rat) / denominator =
      (numerator / denominator : Nat) + (numerator % denominator : Nat) / (denominator : Rat) := by
    have split : ((numerator / denominator : Nat) : Rat) * denominator +
        (numerator % denominator : Nat) = numerator := by
      exact_mod_cast Nat.div_add_mod' numerator denominator
    field_simp
    linarith
  rw [whole, abs_le, roundHalfEven_eq]
  split
  next below =>
    have small : ((numerator % denominator : Nat) : Rat) / denominator ≤ 1 / 2 := by
      rw [div_le_div_iff₀ positiveRat (by norm_num)]
      exact_mod_cast (by omega : numerator % denominator * 2 ≤ 1 * denominator)
    have nonneg : 0 ≤ ((numerator % denominator : Nat) : Rat) / denominator := by positivity
    constructor <;> linarith
  next notBelow =>
    have least : (1 : Rat) / 2 ≤ (numerator % denominator : Nat) / denominator := by
      rw [div_le_div_iff₀ (by norm_num) positiveRat]
      exact_mod_cast (by omega : 1 * denominator ≤ numerator % denominator * 2)
    have less : ((numerator % denominator : Nat) : Rat) / denominator ≤ 1 := by
      rw [div_le_one positiveRat]
      exact_mod_cast (Nat.mod_lt numerator positive).le
    split
    next above =>
      push_cast
      constructor <;> linarith
    next notAbove =>
      have tie : ((numerator % denominator : Nat) : Rat) / denominator ≤ 1 / 2 := by
        rw [div_le_div_iff₀ positiveRat (by norm_num)]
        exact_mod_cast (by omega : numerator % denominator * 2 ≤ 1 * denominator)
      rcases Nat.mod_two_eq_zero_or_one (numerator / denominator) with even | odd
      · rw [even, Nat.add_zero]
        constructor <;> linarith
      · rw [odd]
        push_cast
        constructor <;> linarith

namespace Decimal

/-! ## Where a number is fitted -/

/-- A number counted in units of the given place, rounded. -/
private def units (number : Rat) (places : Nat) : Nat :=
  roundHalfEven (number.num.natAbs * Digits.tenTo places) number.den

/-- The coefficient shown for a count of units: the count itself, unless rounding reached the
limit and one place was given up. -/
private def shown (count : Nat) : Nat :=
  if count < coefficientLimit then count else 10 * roundHalfEven coefficientLimit 10

private theorem scaled_div_den (number : Rat) (places : Nat) :
    ((number.num.natAbs * Digits.tenTo places : Nat) : Rat) / number.den =
      |number| * 10 ^ places := by
  have size : |number| = (number.num.natAbs : Rat) / number.den := by
    conv_lhs => rw [← Rat.num_div_den number]
    rw [abs_div, Nat.abs_cast, Nat.cast_natAbs, Int.cast_abs]
  push_cast [Digits.cast_tenTo]
  rw [size]
  ring

private theorem units_error (number : Rat) (places : Nat) :
    |(units number places : Rat) - |number| * 10 ^ places| ≤ 1 / 2 := by
  rw [← scaled_div_den]
  exact roundHalfEven_error _ number.den_pos

private theorem units_mono {left right : Rat} (smaller : |left| ≤ |right|) (places : Nat) :
    units left places ≤ units right places := by
  apply roundHalfEven_mono left.den_pos right.den_pos
  have scaled : ((left.num.natAbs * Digits.tenTo places : Nat) : Rat) / left.den ≤
      ((right.num.natAbs * Digits.tenTo places : Nat) : Rat) / right.den := by
    rw [scaled_div_den, scaled_div_den]
    exact mul_le_mul_of_nonneg_right smaller (by positivity)
  rw [div_le_div_iff₀ (by exact_mod_cast left.den_pos) (by exact_mod_cast right.den_pos)] at scaled
  exact_mod_cast scaled

private theorem fits_iff (number : Rat) (places : Nat) :
    number.num.natAbs * Digits.tenTo places / number.den < coefficientLimit ↔
      |number| * 10 ^ places < coefficientLimit := by
  rw [← scaled_div_den, div_lt_iff₀ (by exact_mod_cast number.den_pos),
    Nat.div_lt_iff_lt_mul number.den_pos]
  norm_cast

/-- A number is fitted at the last place, or the last one at which it stays below the limit. -/
private theorem nearest?_ok {number : Rat} {places : Nat} {placed : places ≤ placesLimit}
    {result : Decimal} (fit : nearest? number places placed = some result) :
    ∃ last ≤ places, |number| * 10 ^ last < coefficientLimit ∧
      (last = places ∨ (coefficientLimit : Rat) ≤ |number| * 10 ^ (last + 1)) ∧
      result.toRat =
        (if number < 0 then -(shown (units number last) : Rat) else shown (units number last)) /
          10 ^ last := by
  induction places with
  | zero =>
    unfold nearest? at fit
    simp only [fits_iff] at fit
    split at fit
    next fits =>
      split at fit
      next bounded =>
        obtain rfl := Option.some.inj fit
        have within : units number 0 < coefficientLimit := bounded
        refine ⟨0, Nat.le_refl _, fits, .inl rfl, ?_⟩
        rw [toRat_signed, shown, if_pos within]
        simp [units]
      next => simp at fit
    next => simp at fit
  | succ fewer inductionHypothesis =>
    unfold nearest? at fit
    simp only [fits_iff] at fit
    split at fit
    next fits =>
      refine ⟨fewer + 1, Nat.le_refl _, fits, .inl rfl, ?_⟩
      split at fit
      next bounded =>
        obtain rfl := Option.some.inj fit
        have within : units number (fewer + 1) < coefficientLimit := bounded
        rw [toRat_signed, shown, if_pos within]
        simp [units]
      next unbounded =>
        obtain rfl := Option.some.inj fit
        have beyond : ¬units number (fewer + 1) < coefficientLimit := unbounded
        rw [toRat_signed, shown, if_neg beyond]
        simp only [decide_eq_true_eq]
        push_cast
        split <;> field_simp <;> ring
    next tooLarge =>
      obtain ⟨last, atMost, fits, greatest, value⟩ := inductionHypothesis fit
      refine ⟨last, Nat.le_succ_of_le atMost, fits, .inr ?_, value⟩
      rcases greatest with rfl | beyond
      · exact not_lt.1 tooLarge
      · exact beyond

/-- A number whose whole part is below the limit can be fitted. -/
theorem nearest?_isSome {number : Rat} {places : Nat} (placed : places ≤ placesLimit)
    (small : |number| + 1 ≤ coefficientLimit) : (nearest? number places placed).isSome := by
  induction places with
  | zero =>
    have fits : |number| * 10 ^ 0 < coefficientLimit := by linarith
    have within : units number 0 < coefficientLimit := by
      have near := (abs_le.1 (units_error number 0)).2
      have below : (units number 0 : Rat) < coefficientLimit := by linarith
      exact_mod_cast below
    have within : roundHalfEven (number.num.natAbs * Digits.tenTo 0) number.den <
      coefficientLimit := within
    unfold nearest?
    simp only [(fits_iff number 0).2 fits, within, if_true, dite_true, Option.isSome_some]
  | succ fewer inductionHypothesis =>
    unfold nearest?
    simp only
    split
    · split <;> rfl
    · exact inductionHypothesis _

/-! ## The size that is shown -/

private theorem cast_limit : (coefficientLimit : Rat) = 2 ^ 96 := by
  have limit : coefficientLimit = 2 ^ 96 := by decide
  rw [limit]
  norm_num

/-- The limit with its last digit rounded away, which is what a count beyond it is shown as. -/
private theorem ten_mul_top :
    10 * roundHalfEven coefficientLimit 10 = coefficientLimit + 4 := by
  decide

private theorem shown_le (count : Nat) : shown count ≤ coefficientLimit + 4 := by
  unfold shown
  split
  · omega
  · exact ten_mul_top.le

private theorem top_le_shown {count : Nat} (least : roundHalfEven coefficientLimit 10 ≤ count) :
    roundHalfEven coefficientLimit 10 ≤ shown count := by
  unfold shown
  split
  · exact least
  · exact Nat.le_mul_of_pos_left _ (by decide)

private theorem shown_mono {left right : Nat} (less : left ≤ right) : shown left ≤ shown right := by
  unfold shown
  rw [ten_mul_top]
  split <;> split <;> omega

/-- Where nothing else is known, a count is shown within one half of the number; where the count
reached the limit, the number is about as large as that. -/
private theorem shown_error {number : Rat} {last : Nat}
    (fits : |number| * 10 ^ last < coefficientLimit) :
    |(shown (units number last) : Rat) - |number| * 10 ^ last| ≤ 1 / 2 ∨
      |(shown (units number last) : Rat) - |number| * 10 ^ last| ≤ 9 / 2 ∧
        (coefficientLimit : Rat) - 1 / 2 ≤ |number| * 10 ^ last := by
  have near := units_error number last
  by_cases within : units number last < coefficientLimit
  · left
    rw [shown, if_pos within]
    exact near
  · right
    have reached : (coefficientLimit : Rat) ≤ units number last := by
      exact_mod_cast not_lt.1 within
    have least : (coefficientLimit : Rat) - 1 / 2 ≤ |number| * 10 ^ last := by
      have above := (abs_le.1 near).2
      linarith
    refine ⟨?_, least⟩
    rw [shown, if_neg within, ten_mul_top, abs_le]
    push_cast
    constructor <;> linarith

/-- A result has the sign of its number, and the size that is shown. -/
private theorem toRat_nearest? {number : Rat} {places : Nat} {placed : places ≤ placesLimit}
    {result : Decimal} (fit : nearest? number places placed = some result) :
    ∃ last ≤ places, |number| * 10 ^ last < coefficientLimit ∧
      (last = places ∨ (coefficientLimit : Rat) ≤ |number| * 10 ^ (last + 1)) ∧
      |result.toRat| = shown (units number last) / 10 ^ last ∧
      (number < 0 → result.toRat ≤ 0) ∧ (0 ≤ number → 0 ≤ result.toRat) := by
  obtain ⟨last, atMost, fits, greatest, value⟩ := nearest?_ok fit
  have size : (0 : Rat) ≤ shown (units number last) / 10 ^ last := by positivity
  refine ⟨last, atMost, fits, greatest, ?_⟩
  rw [value]
  by_cases negative : number < 0
  · rw [if_pos negative, neg_div, abs_neg, abs_of_nonneg size]
    exact ⟨rfl, fun _ => by linarith, fun nonneg => absurd negative (not_lt.2 nonneg)⟩
  · rw [if_neg negative, abs_of_nonneg size]
    exact ⟨rfl, fun isNegative => absurd isNegative negative, fun _ => size⟩

/-! ## How far a number is moved -/

/-- A number is moved by less than two thirds of a unit of the last place for every whole unit of
its size, unless it is shown with all places. There it is moved to its count. -/
private theorem nearest?_error_or_placed {number : Rat} {result : Decimal}
    (fit : nearest? number placesLimit (Nat.le_refl _) = some result) :
    |result.toRat - number| ≤ 1 / 10 ^ 28 * (16 / 25 * |number|) ∨
      |result.toRat - number| =
        |(units number placesLimit : Rat) - |number| * 10 ^ placesLimit| / 10 ^ placesLimit := by
  obtain ⟨last, -, fits, greatest, size, negative, nonneg⟩ := toRat_nearest? fit
  have scale : (0 : Rat) < 10 ^ last := by positivity
  have apart : |result.toRat - number| = |(|result.toRat| - |number|)| := by
    rcases lt_or_ge number 0 with below | above
    · rw [abs_of_neg below, abs_of_nonpos (negative below), ← abs_neg]
      congr 1
      ring
    · rw [abs_of_nonneg above, abs_of_nonneg (nonneg above)]
  have scaled : |result.toRat - number| * 10 ^ last =
      |(shown (units number last) : Rat) - |number| * 10 ^ last| := by
    rw [apart, size, ← abs_of_pos scale, ← abs_mul, abs_of_pos scale, sub_mul,
      div_mul_cancel₀ _ scale.ne']
  have proportional (error : |result.toRat - number| * 10 ^ last ≤
      1 / 10 ^ 28 * (16 / 25 * (|number| * 10 ^ last))) :
      |result.toRat - number| ≤ 1 / 10 ^ 28 * (16 / 25 * |number|) := by
    rw [← mul_le_mul_iff_left₀ scale, mul_assoc, mul_assoc]
    exact error
  by_cases within : units number last < coefficientLimit
  · rw [shown, if_pos within] at scaled
    rcases greatest with rfl | beyond
    · exact .inr (eq_div_of_mul_eq scale.ne' scaled)
    · have half := units_error number last
      rw [← scaled] at half
      rw [cast_limit, pow_succ (10 : Rat) last, ← mul_assoc] at beyond
      exact .inl (proportional (by linarith))
  · have error := shown_error fits
    rw [← scaled, cast_limit] at error
    have reached : (2 : Rat) ^ 96 ≤ units number last := by
      rw [← cast_limit]
      exact_mod_cast not_lt.1 within
    have top := (abs_le.1 (units_error number last)).2
    exact .inl (proportional (by rcases error with half | ⟨nearTop, -⟩ <;> linarith))

/-- A number is moved by at most half a unit of the last place, and by less than two thirds of one
more for every whole unit of its size. -/
theorem nearest?_error_half {number : Rat} {result : Decimal}
    (fit : nearest? number placesLimit (Nat.le_refl _) = some result) :
    |result.toRat - number| ≤ 1 / 10 ^ 28 * (1 / 2 + 16 / 25 * |number|) := by
  have least : (0 : Rat) ≤ |number| := abs_nonneg number
  rcases nearest?_error_or_placed fit with proportional | placed
  · linarith
  · have scale : (0 : Rat) ≤ 10 ^ placesLimit := by positivity
    calc |result.toRat - number|
        ≤ 1 / 2 / 10 ^ placesLimit :=
          placed.trans_le (div_le_div_of_nonneg_right (units_error number placesLimit) scale)
      _ = 1 / 10 ^ 28 * (1 / 2) := by
        rw [placesLimit]
        norm_num
      _ ≤ 1 / 10 ^ 28 * (1 / 2 + 16 / 25 * |number|) := by
        gcongr
        linarith

/-- A number is moved by at most one unit of the last place for every whole unit of its size. -/
theorem nearest?_error {number : Rat} {result : Decimal}
    (fit : nearest? number placesLimit (Nat.le_refl _) = some result) :
    |result.toRat - number| ≤ 1 / 10 ^ 28 * (1 + |number|) := by
  have least : (0 : Rat) ≤ |number| := abs_nonneg number
  linarith [nearest?_error_half fit]

/-! ## What is fitted to zero -/

private theorem shown_eq_zero {count : Nat} : shown count = 0 ↔ count = 0 := by
  unfold shown
  split
  · exact Iff.rfl
  · rw [ten_mul_top]
    have limitPos : 0 < coefficientLimit := by decide
    omega

/-- The numbers that are rounded away: those of at most half a unit of the last place. -/
theorem nearest?_eq_zero_iff {number : Rat} {result : Decimal}
    (fit : nearest? number placesLimit (Nat.le_refl _) = some result) :
    result = 0 ↔ |number| ≤ 1 / 2 / 10 ^ 28 := by
  obtain ⟨last, atMost, fits, greatest, size, -⟩ := toRat_nearest? fit
  have atLast : result = 0 ↔ |number| * 10 ^ last ≤ 1 / 2 := by
    rw [← toRat_eq_zero, ← abs_eq_zero, size, div_eq_zero_iff, or_iff_left (by positivity),
      Nat.cast_eq_zero, shown_eq_zero, units, roundHalfEven_eq_zero number.den_pos,
      ← scaled_div_den, div_le_iff₀ (by exact_mod_cast number.den_pos)]
    rw [← @Nat.cast_le Rat]
    push_cast
    constructor <;> intro bound <;> linarith
  rw [atLast]
  rcases greatest with rfl | beyond
  · rw [← le_div_iff₀ (by positivity)]
    rfl
  · -- A number that needs fewer places is far larger than a unit of the last place.
    rw [cast_limit] at beyond
    have large : (1 : Rat) / 2 < |number| * 10 ^ last := by
      rw [pow_succ (10 : Rat) last, ← mul_assoc] at beyond
      linarith
    have scale : (10 : Rat) ^ last ≤ 10 ^ 28 := pow_le_pow_right₀ (by norm_num) atMost
    refine iff_of_false (not_le.2 large) (not_le.2 ?_)
    calc (1 : Rat) / 2 / 10 ^ 28 < |number| * 10 ^ last / 10 ^ 28 := by gcongr
      _ ≤ |number| * 10 ^ 28 / 10 ^ 28 := by gcongr
      _ = |number| := mul_div_cancel_right₀ _ (by positivity)

/-! ## What is fitted as itself -/

private theorem abs_toRat (number : Decimal) :
    |number.toRat| = (number.coefficient.natAbs : Rat) / 10 ^ number.places := by
  rw [toRat_eq, abs_div, abs_of_pos (by positivity : (0 : Rat) < 10 ^ number.places),
    Nat.cast_natAbs, Int.cast_abs]

/-- A decimal stays clear of the limit on coefficients. -/
theorem abs_toRat_add_one_le (number : Decimal) :
    |number.toRat| + 1 ≤ coefficientLimit := by
  have atMost : |number.toRat| ≤ (number.coefficient.natAbs : Rat) := by
    rw [abs_toRat]
    exact div_le_self (by positivity) (one_le_pow₀ (by norm_num))
  have bounded : (number.coefficient.natAbs : Rat) + 1 ≤ coefficientLimit := by
    exact_mod_cast number.coefficient_lt
  linarith

private theorem abs_toRat_mul (number : Decimal) (extra : Nat) :
    |number.toRat| * 10 ^ (number.places + extra) =
      ((number.coefficient.natAbs * 10 ^ extra : Nat) : Rat) := by
  rw [abs_toRat, pow_add]
  push_cast
  field_simp

/-- A decimal is fitted with no fewer places than it has. -/
private theorem places_le_of_greatest {number : Decimal} {last : Nat}
    (greatest : last = placesLimit ∨
      (coefficientLimit : Rat) ≤ |number.toRat| * 10 ^ (last + 1)) : number.places ≤ last := by
  rcases greatest with rfl | beyond
  · exact number.places_le
  · by_contra fewer
    have shorter : (10 : Rat) ^ (last + 1) ≤ 10 ^ number.places :=
      pow_le_pow_right₀ (by norm_num) (by omega)
    have below : (number.coefficient.natAbs : Rat) < coefficientLimit := by
      exact_mod_cast number.coefficient_lt
    rw [abs_toRat, div_mul_eq_mul_div, le_div_iff₀ (by positivity)] at beyond
    nlinarith [(by positivity : (0 : Rat) < 10 ^ number.places)]

/-- A whole number within one half of another one is that number. -/
private theorem eq_of_abs_sub_le_half {count other : Nat}
    (half : |(count : Rat) - other| ≤ 1 / 2) : count = other := by
  have close : |(count - other : Int)| < 1 := by
    exact_mod_cast half.trans_lt (by norm_num : (1 / 2 : Rat) < 1)
  have difference := Int.abs_lt_one_iff.1 close
  omega

private theorem units_toRat (number : Decimal) (extra : Nat) :
    units number.toRat (number.places + extra) = number.coefficient.natAbs * 10 ^ extra := by
  have near := units_error number.toRat (number.places + extra)
  rw [abs_toRat_mul] at near
  exact eq_of_abs_sub_le_half near

/-- A multiple of a decimal needs no more places, so it is moved in proportion to its size alone. -/
theorem nearest?_error_of_multiple (factor : Nat) {number result : Decimal}
    (fit : nearest? (factor * number.toRat) placesLimit (Nat.le_refl _) = some result) :
    |result.toRat - factor * number.toRat| ≤ 1 / 10 ^ 28 * (16 / 25 * |factor * number.toRat|) := by
  obtain ⟨extra, all⟩ := Nat.exists_eq_add_of_le number.places_le
  have counted : |factor * number.toRat| * 10 ^ placesLimit =
      ((factor * (number.coefficient.natAbs * 10 ^ extra) : Nat) : Rat) := by
    rw [abs_mul, Nat.abs_cast, mul_assoc, all, abs_toRat_mul, ← Nat.cast_mul]
  rcases nearest?_error_or_placed fit with proportional | placed
  · exact proportional
  · have half := units_error (factor * number.toRat) placesLimit
    rw [counted] at half placed
    rw [placed, eq_of_abs_sub_le_half half, sub_self, abs_zero, zero_div]
    positivity

/-- A decimal is fitted as itself. -/
theorem nearest?_toRat (number : Decimal) :
    nearest? number.toRat placesLimit (Nat.le_refl _) = some number := by
  obtain ⟨result, fit⟩ := Option.isSome_iff_exists.1
    (nearest?_isSome (Nat.le_refl _) (abs_toRat_add_one_le number))
  rw [fit]
  congr 1
  obtain ⟨last, -, fits, greatest, value⟩ := nearest?_ok fit
  obtain ⟨extra, rfl⟩ := Nat.exists_eq_add_of_le (places_le_of_greatest greatest)
  rw [abs_toRat_mul] at fits
  have within : number.coefficient.natAbs * 10 ^ extra < coefficientLimit := by exact_mod_cast fits
  apply toRat_injective
  rw [value, units_toRat, shown, if_pos within, ← abs_toRat_mul]
  split
  next negative =>
    rw [abs_of_neg negative]
    field_simp
  next notNegative =>
    rw [abs_of_nonneg (not_lt.1 notNegative)]
    field_simp

/-! ## What is nearer than a number that is kept -/

/-- No whole number lies nearer than one that is at most one half away. -/
private theorem abs_sub_le_of_half {count other : Int} {number : Rat}
    (near : |(count : Rat) - number| ≤ 1 / 2) :
    |(count : Rat) - number| ≤ |(other : Rat) - number| := by
  by_cases same : other = count
  · rw [same]
  · have apart : (1 : Rat) ≤ |(other : Rat) - count| := by
      exact_mod_cast Int.one_le_abs (sub_ne_zero.2 same)
    have parts := abs_sub_le (other : Rat) number count
    rw [abs_sub_comm number] at parts
    linarith

/-- Between two powers of ten a number is fitted no further away than any decimal of that size. -/
theorem nearest?_error_le {number : Rat} {kept result : Decimal} {places : Nat}
    (fit : nearest? number placesLimit (Nat.le_refl _) = some result)
    (nonneg : 0 ≤ number) (keptNonneg : 0 ≤ kept.toRat) (placed : places ≤ placesLimit)
    (large : (coefficientLimit : Rat) ≤ number * 10 ^ (places + 1))
    (clear : number * 10 ^ places + 1 ≤ coefficientLimit)
    (keptLarge : (coefficientLimit : Rat) ≤ kept.toRat * 10 ^ (places + 1)) :
    |result.toRat - number| ≤ |kept.toRat - number| := by
  obtain ⟨last, -, fits, greatest, value⟩ := nearest?_ok fit
  rw [abs_of_nonneg nonneg] at fits greatest
  obtain rfl : last = places := by
    rcases lt_trichotomy last places with fewer | same | more
    · have beyond := greatest.resolve_left (by omega)
      have shorter : number * (10 : Rat) ^ (last + 1) ≤ number * 10 ^ places :=
        mul_le_mul_of_nonneg_left (pow_le_pow_right₀ (by norm_num) fewer) nonneg
      linarith
    · exact same
    · have longer : number * (10 : Rat) ^ (places + 1) ≤ number * 10 ^ last :=
        mul_le_mul_of_nonneg_left (pow_le_pow_right₀ (by norm_num) more) nonneg
      linarith
  have scale : (0 : Rat) < 10 ^ last := by positivity
  have near := units_error number last
  rw [abs_of_nonneg nonneg] at near
  have within : units number last < coefficientLimit := by
    have below : (units number last : Rat) < coefficientLimit := by linarith [(abs_le.1 near).2]
    exact_mod_cast below
  have resultIs : result.toRat * 10 ^ last = (units number last : Int) := by
    rw [value, shown, if_pos within, if_neg (not_lt.2 nonneg), div_mul_cancel₀ _ scale.ne']
    rfl
  obtain ⟨extra, rfl⟩ := Nat.exists_eq_add_of_le
    (places_le_of_greatest (.inr (by rwa [abs_of_nonneg keptNonneg])))
  have keptIs := abs_toRat_mul kept extra
  rw [abs_of_nonneg keptNonneg] at keptIs
  have nearest : |((units number (kept.places + extra) : Int) : Rat) -
      number * 10 ^ (kept.places + extra)| ≤
        |(((kept.coefficient.natAbs * 10 ^ extra : Nat) : Int) : Rat) -
          number * 10 ^ (kept.places + extra)| :=
    abs_sub_le_of_half near
  rw [← resultIs, Int.cast_natCast, ← keptIs, ← sub_mul, ← sub_mul, abs_mul, abs_mul,
    abs_of_pos scale] at nearest
  exact le_of_mul_le_mul_right nearest scale

/-! ## What order is kept -/

/-- Fitting keeps the order of sizes. -/
private theorem size_mono {left right : Rat} {low high : Decimal} (smaller : |left| ≤ |right|)
    (leftFit : nearest? left placesLimit (Nat.le_refl _) = some low)
    (rightFit : nearest? right placesLimit (Nat.le_refl _) = some high) :
    |low.toRat| ≤ |high.toRat| := by
  obtain ⟨leftLast, leftAtMost, leftFits, leftGreatest, leftSize, -⟩ := toRat_nearest? leftFit
  obtain ⟨rightLast, rightAtMost, rightFits, rightGreatest, rightSize, -⟩ := toRat_nearest? rightFit
  rw [leftSize, rightSize]
  rcases lt_trichotomy leftLast rightLast with fewer | rfl | more
  · -- The smaller number would fit with one more place, since the larger one does.
    exfalso
    have beyond := leftGreatest.resolve_left (by omega)
    have shorter : (10 : Rat) ^ (leftLast + 1) ≤ 10 ^ rightLast :=
      pow_le_pow_right₀ (by norm_num) fewer
    have : |left| * 10 ^ (leftLast + 1) ≤ |right| * 10 ^ rightLast := by gcongr
    linarith
  · have counts : shown (units left leftLast) ≤ shown (units right leftLast) :=
      shown_mono (units_mono smaller leftLast)
    gcongr
  · -- The limit itself, shown with one place less, lies between both.
    have beyond := rightGreatest.resolve_left (by omega)
    have top : (10 * roundHalfEven coefficientLimit 10 : Rat) = coefficientLimit + 4 := by
      exact_mod_cast ten_mul_top
    have least : roundHalfEven coefficientLimit 10 ≤ shown (units right rightLast) := by
      apply top_le_shown
      have near := (abs_le.1 (units_error right rightLast)).1
      rw [pow_succ, ← mul_assoc] at beyond
      have above : (roundHalfEven coefficientLimit 10 : Rat) < units right rightLast + 1 := by
        linarith
      exact Nat.lt_succ_iff.1 (by exact_mod_cast above)
    calc (shown (units left leftLast) : Rat) / 10 ^ leftLast
        ≤ (coefficientLimit + 4) / 10 ^ leftLast := by
          gcongr
          exact_mod_cast shown_le _
      _ ≤ (coefficientLimit + 4) / 10 ^ (rightLast + 1) := by
          gcongr
          · norm_num
          · exact more
      _ = (roundHalfEven coefficientLimit 10 : Rat) / 10 ^ rightLast := by
          rw [← top, pow_succ]
          field_simp
      _ ≤ shown (units right rightLast) / 10 ^ rightLast := by
          gcongr

/-- Fitting keeps the order of numbers. -/
theorem nearest?_mono {left right : Rat} {low high : Decimal} (ordered : left ≤ right)
    (leftFit : nearest? left placesLimit (Nat.le_refl _) = some low)
    (rightFit : nearest? right placesLimit (Nat.le_refl _) = some high) :
    low.toRat ≤ high.toRat := by
  obtain ⟨-, -, -, -, -, leftNegative, leftNonneg⟩ := toRat_nearest? leftFit
  obtain ⟨-, -, -, -, -, rightNegative, rightNonneg⟩ := toRat_nearest? rightFit
  rcases lt_or_ge left 0 with below | above
  · rcases lt_or_ge right 0 with alsoBelow | notBelow
    · have sizes := size_mono (by rw [abs_of_neg below, abs_of_neg alsoBelow]; linarith)
        rightFit leftFit
      rw [abs_of_nonpos (leftNegative below), abs_of_nonpos (rightNegative alsoBelow)] at sizes
      linarith
    · exact (leftNegative below).trans (rightNonneg notBelow)
  · have alsoAbove : 0 ≤ right := above.trans ordered
    have sizes := size_mono (by rwa [abs_of_nonneg above, abs_of_nonneg alsoAbove])
      leftFit rightFit
    rwa [abs_of_nonneg (leftNonneg above), abs_of_nonneg (rightNonneg alsoAbove)] at sizes

end Decimal

end Collateral
