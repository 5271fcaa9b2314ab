import Collateral.Proofs.BinaryDecimal
import Collateral.Proofs.Contraction
import Collateral.Proofs.Range
import Collateral.Proofs.Timeline
import Collateral.Settings.Basic

/-!
Contract: deposits under damped margins are solved.

A law for margins is damped when cash hardly raises the margin and lowers it by no more than a share of
itself. With a share that comes to no more than a half at the factor of the target, the residual rises
at least as fast as the cash and at most half as fast again. So the search of such a problem has a
gauge of its own, in which it is tame, and the usual effort is more than enough for it.

Owns: damped laws, problems of a law, their gauge, and the solution of their deposits.
-/

namespace Collateral

namespace Deposit

/-! ## Laws -/

/-- A law for margins by which more cash hardly raises the margin, and lowers it by no more than a share
of itself. -/
structure Damped (law : Decimal → Decimal) (share : Rat) : Prop where
  share_nonneg : 0 ≤ share
  nonneg : ∀ balance, 0 ≤ (law balance).toRat
  rise_le : ∀ less more : Decimal, less.toRat ≤ more.toRat →
    -(1 / 10 ^ 12) ≤ (law less).toRat - (law more).toRat
  fall_le : ∀ less more : Decimal, less.toRat ≤ more.toRat →
    (law less).toRat - (law more).toRat ≤ share * (more.toRat - less.toRat) + 1 / 10 ^ 12

/-- The problem of a book the margin of which is a law of its domestic balance. -/
def Problem.ofLaw (book : Book) (domestic : Currency) (spot : Quotes) (law : Decimal → Decimal) :
    Problem :=
  ⟨book, domestic, spot, fun book => .ok (law (book.balance domestic))⟩

section Law

variable {book : Book} {domestic : Currency} {spot : Quotes} {law : Decimal → Decimal} {share : Rat}
  {total factor cash found : Decimal}

/-- The margin by a law once the domestic balance has been changed. -/
theorem Problem.ofLaw_margin_insert (balances : Table Currency Decimal) (balance : Decimal) :
    (Problem.ofLaw book domestic spot law).margin ⟨balances.insert domestic balance⟩ =
      .ok (law balance) := by
  change Except.ok (law (((balances.insert domestic balance).get? domestic).getD 0)) = _
  rw [Table.get?_insert, if_pos rfl, Option.getD_some]

/-- The steps of a residual. -/
theorem Problem.ofLaw_residual_ok [Rounding] :
    (Problem.ofLaw book domestic spot law).residual total factor cash = .ok found ↔
      ∃ balance worth demanded, (book.balance domestic).add cash = .ok balance ∧
        total.add cash = .ok worth ∧ factor.mul (law balance) = .ok demanded ∧
        worth.sub demanded = .ok found := by
  rw [Problem.residual_ok]
  constructor
  · rintro ⟨paid, worth, required, demanded, added, summed, margined, scaled, subtracted⟩
    obtain ⟨balance, balanceIs, collected⟩ := Outcome.bind_ok.1 added
    obtain rfl := Outcome.pure_ok.1 collected
    obtain rfl := Except.ok.inj ((Problem.ofLaw_margin_insert _ _).symm.trans margined)
    exact ⟨balance, worth, demanded, balanceIs, summed, scaled, subtracted⟩
  · rintro ⟨balance, worth, demanded, balanceIs, summed, scaled, subtracted⟩
    exact ⟨⟨book.balances.insert domestic balance⟩, worth, law balance, demanded,
      Outcome.bind_ok.2 ⟨balance, balanceIs, rfl⟩, summed, Problem.ofLaw_margin_insert _ _, scaled,
      subtracted⟩

/-- Where a law is damped, a lower balance costs no more than its share, whatever the order. -/
theorem Damped.le (damped : Damped law share) (balance other : Decimal) :
    (law other).toRat ≤
      (law balance).toRat + share * max (balance.toRat - other.toRat) 0 + 1 / 10 ^ 12 := by
  have most := mul_nonneg damped.share_nonneg (le_max_right (balance.toRat - other.toRat) 0)
  rcases le_total balance.toRat other.toRat with more | less
  · linarith [damped.rise_le balance other more]
  · rw [max_eq_left (sub_nonneg.2 less)]
    linarith [damped.fall_le other balance less]

end Law

/-! ## Sizes -/

/-- Problems of a moderate size under a damped law. The amounts come to no more than a million millions,
and at the factor of a target from nought to ten the share of the law comes to hardly more than a half.
-/
structure Gentle (law : Decimal → Decimal) (share : Rat) (balance total factor : Decimal) : Prop where
  damped : Damped law share
  balance_le : |balance.toRat| ≤ 10 ^ 12
  total_le : |total.toRat| ≤ 10 ^ 12
  margin_le : (law balance).toRat ≤ 10 ^ 12
  factor_ge : 1 ≤ factor.toRat
  factor_le : factor.toRat ≤ 11
  share_le : factor.toRat * share ≤ 501 / 1000

/-- Numbers of a search are fitted to thirteen places. -/
private theorem exists_rounded {number : Rat} (size : |number| ≤ 2 * 10 ^ 14) :
    ∃ result, Rounding.fit number = some result ∧ |result.toRat - number| ≤ 3 / 10 ^ 14 := by
  obtain ⟨result, fit⟩ := Rounding.exists_fit_of_le (size.trans (by norm_num))
  exact ⟨result, fit, by linarith [Rounding.Lawful.fit_error fit]⟩

namespace Gentle

variable {book : Book} {domestic : Currency} {spot : Quotes} {law : Decimal → Decimal} {share : Rat}
  {balance total factor cash found : Decimal}

/-- What a margin after a deposit demands. -/
private theorem demanded_le (gentle : Gentle law share balance total factor) {paid : Decimal}
    (near : |paid.toRat - (balance.toRat + cash.toRat)| ≤ 3 / 10 ^ 14) :
    0 ≤ factor.toRat * (law paid).toRat ∧ factor.toRat * (law paid).toRat ≤
      11 * (law balance).toRat + 501 / 1000 * |cash.toRat| + 1 := by
  have factorNonneg : 0 ≤ factor.toRat := zero_le_one.trans gentle.factor_ge
  have lower : max (balance.toRat - paid.toRat) 0 ≤ |cash.toRat| + 3 / 10 ^ 14 := by
    apply max_le
    · linarith [(abs_le.1 near).1, neg_abs_le cash.toRat]
    · positivity
  have lowered := mul_le_mul gentle.share_le lower (le_max_right _ _) (by norm_num)
  have present := mul_le_mul_of_nonneg_right gentle.factor_le (gentle.damped.nonneg balance)
  have scaled := mul_le_mul_of_nonneg_left (gentle.damped.le balance paid) factorNonneg
  exact ⟨mul_nonneg factorNonneg (gentle.damped.nonneg paid), by linarith [gentle.factor_le]⟩

/-- Every amount within reach has a residual, and it is near the exact one. -/
theorem exists_residual (gentle : Gentle law share (book.balance domestic) total factor)
    (within : |cash.toRat| ≤ 7 * 10 ^ 13) :
    ∃ found paid, (Problem.ofLaw book domestic spot law).residual total factor cash = .ok found ∧
      (book.balance domestic).add cash = .ok paid ∧
      |paid.toRat - ((book.balance domestic).toRat + cash.toRat)| ≤ 3 / 10 ^ 14 ∧
      |found.toRat - (total.toRat + cash.toRat - factor.toRat * (law paid).toRat)| ≤ 1 / 10 ^ 13 := by
  have balanceLe := gentle.balance_le
  have totalLe := gentle.total_le
  have marginLe := gentle.margin_le
  obtain ⟨paid, paidFit, paidNear⟩ := exists_rounded
    (show |(book.balance domestic).toRat + cash.toRat| ≤ 2 * 10 ^ 14 by
      linarith [abs_add_le (book.balance domestic).toRat cash.toRat])
  obtain ⟨worth, worthFit, worthNear⟩ := exists_rounded
    (show |total.toRat + cash.toRat| ≤ 2 * 10 ^ 14 by
      linarith [abs_add_le total.toRat cash.toRat])
  obtain ⟨demandNonneg, demandLe⟩ := gentle.demanded_le paidNear
  obtain ⟨demanded, demandedFit, demandedNear⟩ := exists_rounded
    (show |factor.toRat * (law paid).toRat| ≤ 2 * 10 ^ 14 by
      rw [abs_of_nonneg demandNonneg]
      linarith)
  obtain ⟨worthGe, worthLe⟩ := abs_le.1 worthNear
  obtain ⟨demandedGe, demandedLe⟩ := abs_le.1 demandedNear
  obtain ⟨totalGe, totalLe⟩ := abs_le.1 totalLe
  obtain ⟨cashGe, cashLe⟩ := abs_le.1 within
  obtain ⟨found, foundFit, foundNear⟩ := exists_rounded
    (show |worth.toRat - demanded.toRat| ≤ 2 * 10 ^ 14 by
      apply abs_le.2
      constructor <;> linarith)
  obtain ⟨foundGe, foundLe⟩ := abs_le.1 foundNear
  refine ⟨found, paid, Problem.ofLaw_residual_ok.2 ⟨paid, worth, demanded,
    Decimal.add_ok.2 paidFit, Decimal.add_ok.2 worthFit, Decimal.mul_ok.2 demandedFit,
    Decimal.sub_ok.2 foundFit⟩, Decimal.add_ok.2 paidFit, paidNear, abs_le.2 ?_⟩
  constructor <;> linarith

/-- A residual within reach is bounded by the amounts and the cash. -/
theorem abs_residual_le (gentle : Gentle law share (book.balance domestic) total factor)
    (within : |cash.toRat| ≤ 7 * 10 ^ 13)
    (evaluated : (Problem.ofLaw book domestic spot law).residual total factor cash = .ok found) :
    |found.toRat| ≤ 12 * 10 ^ 12 + 1501 / 1000 * |cash.toRat| + 2 := by
  obtain ⟨found', paid, evaluated', -, paidNear, near⟩ := gentle.exists_residual within
  obtain rfl := Except.ok.inj (evaluated.symm.trans evaluated')
  obtain ⟨demandNonneg, demandLe⟩ := gentle.demanded_le paidNear
  obtain ⟨nearGe, nearLe⟩ := abs_le.1 near
  obtain ⟨totalGe, totalLe⟩ := abs_le.1 gentle.total_le
  have marginLe := gentle.margin_le
  have cashLe := le_abs_self cash.toRat
  have cashGe := neg_abs_le cash.toRat
  apply abs_le.2
  constructor <;> linarith

/-- A residual within reach rises at least as fast as the cash, and hardly more than half as fast again.
-/
theorem ascends (gentle : Gentle law share (book.balance domestic) total factor) :
    Ascends ((Problem.ofLaw book domestic spot law).residual total factor) (7 * 10 ^ 13) 1
      (1501 / 1000) (2 / 10 ^ 11) := by
  intro fewer more found found' fewerWithin moreWithin ordered evaluated evaluated'
  obtain ⟨same, paid, again, added, paidNear, near⟩ := gentle.exists_residual fewerWithin
  obtain rfl := Except.ok.inj (evaluated.symm.trans again)
  obtain ⟨same', paid', again', added', paidNear', near'⟩ := gentle.exists_residual moreWithin
  obtain rfl := Except.ok.inj (evaluated'.symm.trans again')
  have paidOrdered : paid.toRat ≤ paid'.toRat :=
    Rounding.Lawful.fit_mono (add_le_add_right ordered _) (Decimal.add_ok.1 added)
      (Decimal.add_ok.1 added')
  have factorNonneg : 0 ≤ factor.toRat := zero_le_one.trans gentle.factor_ge
  have factorLe := gentle.factor_le
  have rise := mul_le_mul_of_nonneg_left (gentle.damped.rise_le paid paid' paidOrdered) factorNonneg
  have fall := mul_le_mul_of_nonneg_left (gentle.damped.fall_le paid paid' paidOrdered) factorNonneg
  have shared := mul_le_mul_of_nonneg_right gentle.share_le (sub_nonneg.2 paidOrdered)
  obtain ⟨paidGe, paidLe⟩ := abs_le.1 paidNear
  obtain ⟨paidGe', paidLe'⟩ := abs_le.1 paidNear'
  obtain ⟨nearGe, nearLe⟩ := abs_le.1 near
  obtain ⟨nearGe', nearLe'⟩ := abs_le.1 near'
  constructor <;> linarith

end Gentle

/-! ## The second amount -/

/-- The second amount to try is not much more than twice the margin. -/
private theorem guess_bounds {margin first second : Decimal} (marginNonneg : 0 ≤ margin.toRat)
    (marginLe : margin.toRat ≤ 10 ^ 12) (firstIs : firstGuess margin = .ok first)
    (secondIs : secondGuess first = .ok second) :
    0 ≤ second.toRat ∧ second.toRat ≤ 21 / 10 * margin.toRat + 6 / 5 := by
  have firstFit := Decimal.mul_ok.1 firstIs
  rw [Decimal.toRat_two] at firstFit
  have firstNonneg : 0 ≤ first.toRat := Rounding.fit_nonneg (by linarith) firstFit
  have firstNear := Rounding.Lawful.fit_error firstFit
  rw [abs_of_nonneg (by linarith : 0 ≤ 2 * margin.toRat)] at firstNear
  obtain ⟨thousandth, thousandthIs, added⟩ := Outcome.bind_ok.1 secondIs
  have thousandthFit := Decimal.mul_ok.1 thousandthIs
  rw [Decimal.toRat_abs, toRat_thousandth, abs_of_nonneg firstNonneg] at thousandthFit
  have thousandthNear := Rounding.Lawful.fit_error thousandthFit
  rw [abs_of_nonneg (by positivity : 0 ≤ first.toRat * (1 / 1000))] at thousandthNear
  have jumpGe : 0 ≤ (max thousandth 1).toRat := by
    rw [Decimal.toRat_max, Decimal.toRat_one]
    exact zero_le_one.trans (le_max_right _ _)
  have jumpLe : (max thousandth 1).toRat ≤ first.toRat / 1000 + 101 / 100 := by
    rw [Decimal.toRat_max, Decimal.toRat_one]
    apply max_le <;> linarith [(abs_le.1 thousandthNear).2, (abs_le.1 firstNear).2]
  have sumNonneg : 0 ≤ first.toRat + (max thousandth 1).toRat := add_nonneg firstNonneg jumpGe
  have secondNear := Rounding.Lawful.fit_error (Decimal.add_ok.1 added)
  rw [abs_of_nonneg sumNonneg] at secondNear
  exact ⟨Rounding.fit_nonneg sumNonneg (Decimal.add_ok.1 added),
    by linarith [(abs_le.1 secondNear).2, (abs_le.1 firstNear).2]⟩

/-! ## The gauge of a damped law -/

/-- The gauge of all problems of a moderate size under damped laws. -/
private def gentleGauge : Gauge (1 / 10 ^ 28) where
  ascent := 1
  steepness := 2
  slack := 1 / 10 ^ 9
  reach := 7 * 10 ^ 13
  high := 13 * 10 ^ 13
  start := 4 * 10 ^ 12
  opening := 2 * 10 ^ 13
  accepted := 9 / 10 ^ 7
  ascent_pos := by norm_num
  ascent_le := by norm_num
  steepness_ge := by norm_num
  slack_pos := by norm_num
  slack_le := by norm_num
  accepted_ge := by norm_num
  grain_le := by norm_num
  grain_le_sq := by norm_num
  start_nonneg := by norm_num
  start_le := by norm_num
  opening_nonneg := by norm_num
  reach_le := by norm_num
  high_le := by norm_num
  product_le := by norm_num

namespace Gentle

variable {book : Book} {domestic : Currency} {spot : Quotes} {law : Decimal → Decimal} {share : Rat}
  {total factor accepted : Decimal}

private theorem bounds (gentle : Gentle law share (book.balance domestic) total factor) :
    gentleGauge.Bounds ((Problem.ofLaw book domestic spot law).residual total factor) where
  evaluates := by
    intro cash within
    have reach : |cash.toRat| ≤ 7 * 10 ^ 13 := within
    obtain ⟨found, paid, evaluated, -⟩ := gentle.exists_residual reach
    refine ⟨found, evaluated, (gentle.abs_residual_le reach evaluated).trans ?_⟩
    change _ ≤ (13 * 10 ^ 13 : Rat)
    linarith
  ascends := by
    intro fewer more found found' fewerWithin moreWithin ordered evaluated evaluated'
    have noisy := gentle.ascends fewerWithin moreWithin ordered evaluated evaluated'
    change 1 * (more.toRat - fewer.toRat) - 1 / 10 ^ 9 ≤ found'.toRat - found.toRat ∧
      found'.toRat - found.toRat ≤ 2 * (more.toRat - fewer.toRat) + 1 / 10 ^ 9
    constructor <;> linarith

private theorem tame (gentle : Gentle law share (book.balance domestic) total factor) :
    gentleGauge.Tame ((Problem.ofLaw book domestic spot law).residual total factor) where
  rises := by
    have noise : gentleGauge.slack / 50 = 2 / 10 ^ 11 := by norm_num [gentleGauge]
    rw [noise]
    exact gentle.ascends
  coarse := by norm_num [gentleGauge]
  coarse_sq := by norm_num [gentleGauge]

/-- The second residual is not much larger than the size of the book. -/
private theorem second_le (gentle : Gentle law share (book.balance domestic) total factor)
    {first second : Point}
    (opening : Opening ((Problem.ofLaw book domestic spot law).residual total factor) accepted
      (law (book.balance domestic)) first second) :
    |second.residual.toRat| ≤
      16 * max (|total.toRat| + (law (book.balance domestic)).toRat) 1 := by
  have marginNonneg := gentle.damped.nonneg (book.balance domestic)
  have marginLe := gentle.margin_le
  obtain ⟨cashNonneg, cashLe⟩ :=
    guess_bounds marginNonneg marginLe opening.first_guess opening.second_guess
  obtain ⟨found, paid, evaluated, added, -, near⟩ := gentle.exists_residual
    (show |second.cash.toRat| ≤ 7 * 10 ^ 13 by
      rw [abs_of_nonneg cashNonneg]
      linarith)
  obtain rfl := Except.ok.inj (opening.second_evaluated.symm.trans evaluated)
  -- More cash hardly raises the margin.
  have paidGe : (book.balance domestic).toRat ≤ paid.toRat :=
    Rounding.le_fit (by linarith) (Decimal.add_ok.1 added)
  have lawLe : (law paid).toRat ≤ (law (book.balance domestic)).toRat + 1 / 10 ^ 12 := by
    linarith [gentle.damped.rise_le _ _ paidGe]
  have demanded := mul_le_mul gentle.factor_le lawLe (gentle.damped.nonneg paid) (by norm_num)
  have demandNonneg := mul_nonneg (zero_le_one.trans gentle.factor_ge) (gentle.damped.nonneg paid)
  obtain ⟨nearGe, nearLe⟩ := abs_le.1 near
  have totalLe := le_abs_self total.toRat
  have totalGe := neg_abs_le total.toRat
  have sizeGe := le_max_left (|total.toRat| + (law (book.balance domestic)).toRat) 1
  have oneLe := le_max_right (|total.toRat| + (law (book.balance domestic)).toRat) 1
  have absNonneg := abs_nonneg total.toRat
  apply abs_le.2
  constructor <;> linarith

end Gentle

/-! ## The deposit -/

section Solved

variable {book : Book} {domestic : Currency} {spot : Quotes} {law : Decimal → Decimal} {share : Rat}
  {total : Decimal} {target : Float}

/-- A search under a damped law converges with the usual effort. -/
private theorem Gentle.exists_solve [SummationOrder] {decimal factor : Decimal}
    (gentle : Gentle law share (book.balance domestic) total factor)
    (targetIs : target? target = some decimal) (factored : Decimal.add 1 decimal = .ok factor)
    (totaled : book.totalIn domestic spot = .ok total)
    (marginPos : 0 < (law (book.balance domestic)).toRat) :
    ∃ cash, solve (Problem.ofLaw book domestic spot law) target ({} : Settings).search.effort =
      .ok cash := by
  have tolerance : ({} : Settings).search.effort.tolerance.toRat = 1 / 10 ^ 6 := by decide +kernel
  have marginLe := gentle.margin_le
  have oneLe := le_max_right (|total.toRat| + (law (book.balance domestic)).toRat) 1
  obtain ⟨accepted, acceptedIs, acceptedGe⟩ := exists_acceptance le_rfl
    (show 0 ≤ ({} : Settings).search.effort.tolerance.toRat by rw [tolerance]; norm_num)
    (by rw [tolerance]; norm_num) marginPos.le (by linarith [gentle.total_le])
    (by rw [tolerance]; linarith)
  rw [tolerance] at acceptedGe
  have nonzero : law (book.balance domestic) ≠ 0 := by
    intro none
    rw [none, Decimal.toRat_zero] at marginPos
    exact lt_irrefl 0 marginPos
  have sought : (Problem.ofLaw book domestic spot law).Sought target
      ({} : Settings).search.effort.tolerance total (law (book.balance domestic)) factor accepted :=
    ⟨⟨decimal, targetIs, factored⟩, totaled, rfl, nonzero, acceptedIs⟩
  rw [sought.solve_eq]
  have enough : (10 : Rat) ^ 8 ≤ (5 / 4) ^ 99 := by norm_num
  have acceptedLarge : gentleGauge.accepted ≤ accepted.toRat := by
    change (9 / 10 ^ 7 : Rat) ≤ _
    linarith
  have start : 3 * (1 + |(law (book.balance domestic)).toRat|) ≤ gentleGauge.start := by
    rw [abs_of_pos marginPos]
    change _ ≤ (4 * 10 ^ 12 : Rat)
    linarith
  have opening : ∀ cash found : Decimal, |cash.toRat| ≤ gentleGauge.start →
      (Problem.ofLaw book domestic spot law).residual total factor cash = .ok found →
      |found.toRat| ≤ gentleGauge.opening := by
    intro cash found within evaluated
    have within' : |cash.toRat| ≤ 4 * 10 ^ 12 := within
    change _ ≤ (2 * 10 ^ 13 : Rat)
    linarith [gentle.abs_residual_le (within'.trans (by norm_num)) evaluated]
  have converges : ∃ cash, seek ((Problem.ofLaw book domestic spot law).residual total factor)
      accepted (law (book.balance domestic)) (99 + 1) = .ok cash := by
    apply seek_ok_of_tame gentle.bounds gentle.tame acceptedLarge start opening
    intro first second opened
    have scaled := mul_le_mul_of_nonneg_right enough
      (by linarith : 0 ≤ accepted.toRat)
    linarith [gentle.second_le opened]
  exact converges

/-- **The deposit under a damped law is solved,** for every target from nought to ten, with the usual
effort: nothing overflows, nothing is divided by zero, and the search converges. The share of the law
comes to no more than a half at the target; the millionth on top of that is more than reading the
target as a decimal can change. -/
theorem exists_solve_of_damped [SummationOrder] (damped : Damped law share)
    (balanceLe : |(book.balance domestic).toRat| ≤ 10 ^ 12)
    (totaled : book.totalIn domestic spot = .ok total) (totalLe : |total.toRat| ≤ 10 ^ 12)
    (marginPos : 0 < (law (book.balance domestic)).toRat)
    (marginLe : (law (book.balance domestic)).toRat ≤ 10 ^ 12) (nonneg : (0 : Float) ≤ target)
    (le : target ≤ 10) :
    ∃ decimal, target? target = some decimal ∧
      ((1 + decimal.toRat) * share ≤ 1 / 2 + 1 / 10 ^ 6 →
        ∃ cash, solve (Problem.ofLaw book domestic spot law) target
          ({} : Settings).search.effort = .ok cash) := by
  obtain ⟨decimal, targetIs, decimalNonneg, decimalLe⟩ := exists_target nonneg le
  refine ⟨decimal, targetIs, fun small => ?_⟩
  obtain ⟨factor, factored, -⟩ := exists_factor decimalNonneg decimalLe
  obtain ⟨factorGe, factorLe, factorNear⟩ :=
    factor_bounds le_rfl decimalNonneg decimalLe factored
  have scaled := mul_le_mul_of_nonneg_right factorNear damped.share_nonneg
  have shareLe := mul_nonneg decimalNonneg damped.share_nonneg
  have gentle : Gentle law share (book.balance domestic) total factor :=
    ⟨damped, balanceLe, totalLe, marginLe, factorGe, factorLe, by linarith⟩
  exact gentle.exists_solve targetIs factored totaled marginPos

end Solved

/-! ## A quarter of the debt -/

open Projection (whole)

private def quarter : Decimal := Figure.value ⟨false, 25, 2, by decide +kernel⟩

/-- A quarter of what is owed, counted from one to a hundred. -/
private def quarterOfDebt (balance : Decimal) : Decimal :=
  (quarter.mul (max 1 (min (whole 100) (-balance)))).toOption.getD 0

/-- What is owed, counted from one to a hundred. -/
private def countedDebt (balance : Decimal) : Rat :=
  max 1 (min 100 (-balance.toRat))

private theorem countedDebt_bounds (balance : Decimal) :
    1 ≤ countedDebt balance ∧ countedDebt balance ≤ 100 :=
  ⟨le_max_left _ _, max_le (by norm_num) (min_le_left _ _)⟩

private theorem quarterOfDebt_fit (balance : Decimal) :
    Rounding.fit (countedDebt balance / 4) = some (quarterOfDebt balance) := by
  obtain ⟨countedGe, countedLe⟩ := countedDebt_bounds balance
  have product : quarter.toRat * (max 1 (min (whole 100) (-balance))).toRat =
      countedDebt balance / 4 := by
    have quarterIs : quarter.toRat = 1 / 4 := by decide +kernel
    have hundredIs : (whole 100).toRat = 100 := by decide +kernel
    rw [quarterIs, Decimal.toRat_max, Decimal.toRat_min, Decimal.toRat_one, hundredIs,
      Decimal.toRat_neg, one_div_mul_eq_div, countedDebt]
  obtain ⟨result, fit⟩ := Rounding.exists_fit_of_le
    (show |countedDebt balance / 4| ≤ 10 ^ 28 by
      rw [abs_of_nonneg (by linarith)]
      linarith)
  have multiplied := Decimal.mul_ok.2 (product ▸ fit)
  rw [fit, quarterOfDebt, multiplied]
  rfl

/-- Less is owed by as much as the balance is higher, at most. -/
private theorem countedDebt_sub {less more : Decimal} (ordered : less.toRat ≤ more.toRat) :
    countedDebt more ≤ countedDebt less ∧
      countedDebt less - countedDebt more ≤ more.toRat - less.toRat := by
  unfold countedDebt
  constructor
  · exact max_le_max le_rfl (min_le_min le_rfl (neg_le_neg ordered))
  · rw [sub_le_iff_le_add]
    apply max_le
    · linarith [le_max_left 1 (min 100 (-more.toRat))]
    · have most : min 100 (-less.toRat) ≤ more.toRat - less.toRat + min 100 (-more.toRat) := by
        rw [← min_add_add_left]
        exact min_le_min (by linarith) (by linarith)
      linarith [le_max_right 1 (min 100 (-more.toRat))]

private theorem quarterOfDebt_near (balance : Decimal) :
    |(quarterOfDebt balance).toRat - countedDebt balance / 4| ≤ 1 / 10 ^ 26 := by
  obtain ⟨countedGe, countedLe⟩ := countedDebt_bounds balance
  have near := Rounding.Lawful.fit_error (quarterOfDebt_fit balance)
  rw [abs_of_nonneg (by linarith : 0 ≤ countedDebt balance / 4)] at near
  linarith

private theorem damped_quarterOfDebt : Damped quarterOfDebt (1 / 4) where
  share_nonneg := by norm_num
  nonneg := fun balance =>
    Rounding.fit_nonneg (by linarith [countedDebt_bounds balance]) (quarterOfDebt_fit balance)
  rise_le := by
    intro less more ordered
    have falls := Rounding.Lawful.fit_mono
      (div_le_div_of_nonneg_right (countedDebt_sub ordered).1 zero_le_four)
      (quarterOfDebt_fit more) (quarterOfDebt_fit less)
    linarith
  fall_le := by
    intro less more ordered
    linarith [(abs_le.1 (quarterOfDebt_near less)).2, (abs_le.1 (quarterOfDebt_near more)).1,
      (countedDebt_sub ordered).2]

private def twoDollarQuotes : Quotes :=
  Spot.quotes ⟨⟨"USD"⟩, Table.ofList [(⟨⟨"EUR"⟩, ⟨"USD"⟩⟩, 2)]⟩

/-- Forty dollars are owed, and six euros are held. -/
private def owingForty : Book :=
  ⟨Table.ofList [(⟨"USD"⟩, -whole 40), (⟨"EUR"⟩, whole 6)]⟩

/-- With thirty-two dollars more eight are owed at a margin of two, and the book is worth twice that. -/
theorem exists_solve_of_damped_quarterOfDebt :
    Damped quarterOfDebt (1 / 4) ∧
      ∃ cash, solve (Problem.ofLaw owingForty ⟨"USD"⟩ twoDollarQuotes quarterOfDebt) 1
        ({} : Settings).search.effort = .ok cash ∧ cash.toRat = 32 := by
  have targetIs : target? 1 = some 1 := by decide +kernel
  obtain ⟨decimal, targetIs', solves⟩ := exists_solve_of_damped damped_quarterOfDebt
    (by decide +kernel : |(owingForty.balance ⟨"USD"⟩).toRat| ≤ 10 ^ 12)
    (by decide +kernel : owingForty.totalIn ⟨"USD"⟩ twoDollarQuotes = .ok (-whole 28))
    (by decide +kernel) (by decide +kernel) (by decide +kernel)
    (by decide +kernel : (0 : Float) ≤ 1) (by decide +kernel)
  obtain rfl := Option.some.inj (targetIs.symm.trans targetIs')
  obtain ⟨cash, solved⟩ := solves (by rw [Decimal.toRat_one]; norm_num)
  have computed : solve (Problem.ofLaw owingForty ⟨"USD"⟩ twoDollarQuotes quarterOfDebt) 1
      ({} : Settings).search.effort = .ok (whole 32) := by decide +kernel
  obtain rfl := Except.ok.inj (solved.symm.trans computed)
  exact ⟨damped_quarterOfDebt, whole 32, solved, by decide +kernel⟩

end Deposit

end Collateral
