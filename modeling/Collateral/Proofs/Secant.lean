import Collateral.Proofs.Headroom
import Collateral.Proofs.Search

/-!
Contract: the secant of a residual that rises between two slopes.

The line through two points that lie apart rises neither too slowly nor too fast, and where all numbers
on the way are large against the grain, every rounding of a secant is a factor close to one. So a
secant moves the last point against its residual, by a share of the residual that is close to one over
the slope.

Owns: rounded secants, the slopes of a residual that rises, the gauge of a search, points of a search
within it, and the midpoint.

Does not own: why a residual keeps to a gauge.
-/

namespace Collateral

/-! ## Rounding as a factor -/

/-- A number that is large against the grain is fitted to within a part of it. -/
theorem Rounding.exists_fit_ratio [Rounding] {grain : Rat} [Lawful grain] [Roomy] {number part : Rat}
    (coarse : 2 * grain ≤ part * |number|) (fine : 2 * grain ≤ part) (nonzero : number ≠ 0)
    (large : |number| ≤ 7 * 10 ^ 28) :
    ∃ result ratio, Rounding.fit number = some result ∧ result.toRat = ratio * number ∧
      |ratio - 1| ≤ part := by
  have room : (7 : Rat) * 10 ^ 28 + 1 ≤ coefficientLimit := by
    exact_mod_cast (by decide : 7 * 10 ^ 28 + 1 ≤ coefficientLimit)
  obtain ⟨result, fit⟩ := Roomy.exists_fit (by linarith : |number| + 1 ≤ coefficientLimit)
  have positive : 0 < |number| := abs_pos.2 nonzero
  have moved : |result.toRat - number| ≤ part * |number| := by
    have error := Lawful.fit_error fit
    have scaled := mul_le_mul_of_nonneg_right fine positive.le
    linarith
  refine ⟨result, result.toRat / number, fit, (div_mul_cancel₀ _ nonzero).symm, ?_⟩
  rwa [div_sub_one nonzero, abs_div, div_le_iff₀ positive]

/-- Three roundings over another one, where each is by at most an eighth. -/
private theorem ratio_bounds {part first second third under : Rat} (partLe : 8 * part ≤ 1)
    (firstNear : |first - 1| ≤ part) (secondNear : |second - 1| ≤ part)
    (thirdNear : |third - 1| ≤ part) (underNear : |under - 1| ≤ part) :
    1 / 2 ≤ first * second * third / under ∧ first * second * third / under ≤ 2 := by
  have eighth : ∀ ratio : Rat, |ratio - 1| ≤ part → 7 / 8 ≤ ratio ∧ ratio ≤ 9 / 8 := by
    intro ratio near
    constructor <;> linarith [(abs_le.1 near).1, (abs_le.1 near).2]
  obtain ⟨firstGe, firstLe⟩ := eighth first firstNear
  obtain ⟨secondGe, secondLe⟩ := eighth second secondNear
  obtain ⟨thirdGe, thirdLe⟩ := eighth third thirdNear
  obtain ⟨underGe, underLe⟩ := eighth under underNear
  have low : (7 / 8 : Rat) * (7 / 8) * (7 / 8) ≤ first * second * third := by gcongr
  have high : first * second * third ≤ (9 / 8 : Rat) * (9 / 8) * (9 / 8) := by gcongr
  have underPos : 0 < under := by linarith
  rw [le_div_iff₀ underPos, div_le_iff₀ underPos]
  constructor <;> linarith

/-- Five roundings, one of them under the line. -/
private theorem five_ratios {part first second third fourth under : Rat} (partLe : 8 * part ≤ 1)
    (firstNear : |first - 1| ≤ part) (secondNear : |second - 1| ≤ part)
    (thirdNear : |third - 1| ≤ part) (fourthNear : |fourth - 1| ≤ part)
    (underNear : |under - 1| ≤ part) :
    (1 - part) ^ 4 ≤ (1 + part) * (first * second * third / under * fourth) ∧
      (1 - part) * (first * second * third / under * fourth) ≤ (1 + part) ^ 4 := by
  have close : ∀ ratio : Rat, |ratio - 1| ≤ part → 1 - part ≤ ratio ∧ ratio ≤ 1 + part := by
    intro ratio near
    constructor <;> linarith [(abs_le.1 near).1, (abs_le.1 near).2]
  obtain ⟨firstGe, firstLe⟩ := close first firstNear
  obtain ⟨secondGe, secondLe⟩ := close second secondNear
  obtain ⟨thirdGe, thirdLe⟩ := close third thirdNear
  obtain ⟨fourthGe, fourthLe⟩ := close fourth fourthNear
  obtain ⟨underGe, underLe⟩ := close under underNear
  have lowPos : 0 < 1 - part := by linarith
  have firstNonneg := lowPos.le.trans firstGe
  have secondNonneg := lowPos.le.trans secondGe
  have thirdNonneg := lowPos.le.trans thirdGe
  have fourthNonneg := lowPos.le.trans fourthGe
  have underPos := lowPos.trans_le underGe
  have highNonneg := firstNonneg.trans firstLe
  have low : (1 - part) ^ 4 ≤ first * second * third * fourth := by
    calc (1 - part) ^ 4 = (1 - part) * (1 - part) * (1 - part) * (1 - part) := by ring
      _ ≤ first * second * third * fourth := by gcongr
  have high : first * second * third * fourth ≤ (1 + part) ^ 4 := by
    calc first * second * third * fourth
        ≤ (1 + part) * (1 + part) * (1 + part) * (1 + part) := by gcongr
      _ = (1 + part) ^ 4 := by ring
  have productNonneg : 0 ≤ first * second * third * fourth := by positivity
  rw [div_mul_eq_mul_div, mul_div_assoc', mul_div_assoc', le_div_iff₀ underPos,
    div_le_iff₀ underPos]
  constructor
  · calc (1 - part) ^ 4 * under ≤ (1 - part) ^ 4 * (1 + part) :=
          mul_le_mul_of_nonneg_left underLe (by positivity)
      _ ≤ (first * second * third * fourth) * (1 + part) :=
          mul_le_mul_of_nonneg_right low highNonneg
      _ = (1 + part) * (first * second * third * fourth) := mul_comm _ _
  · calc (1 - part) * (first * second * third * fourth)
        ≤ under * (first * second * third * fourth) :=
          mul_le_mul_of_nonneg_right underGe productNonneg
      _ ≤ under * (1 + part) ^ 4 := mul_le_mul_of_nonneg_left high underPos.le
      _ = (1 + part) ^ 4 * under := mul_comm _ _

namespace Deposit

/-! ## A rounded secant -/

/-- Two points for which no step of a secant is rounded by more than a part of itself: the line through
them rises, all numbers on the way are large against the grain, and none of them is too large to fit.
-/
structure Point.Spans (grain part slope : Rat) (previous current : Point) : Prop where
  part_le : 8 * part ≤ 1
  slope_pos : 0 < slope
  rises : current.residual.toRat - previous.residual.toRat =
    slope * (current.cash.toRat - previous.cash.toRat)
  run_ne : current.cash.toRat - previous.cash.toRat ≠ 0
  residual_ne : current.residual.toRat ≠ 0
  fine : 2 * grain ≤ part
  run_ge : 2 * grain ≤ part * |current.cash.toRat - previous.cash.toRat|
  product_ge : 4 * grain ≤
    part * (|current.residual.toRat| * |current.cash.toRat - previous.cash.toRat|)
  rise_ge : 2 * grain ≤ part * (slope * |current.cash.toRat - previous.cash.toRat|)
  move_ge : 4 * (grain * (1 + |current.cash.toRat|)) ≤ part * (|current.residual.toRat| / slope)
  run_le : |current.cash.toRat - previous.cash.toRat| ≤ 10 ^ 28
  product_le : |current.residual.toRat| * |current.cash.toRat - previous.cash.toRat| ≤ 6 * 10 ^ 28
  rise_le : slope * |current.cash.toRat - previous.cash.toRat| ≤ 10 ^ 28
  move_le : |current.residual.toRat| / slope ≤ 10 ^ 28
  cash_le : |current.cash.toRat| ≤ 10 ^ 27

section Spans

variable [Rounding] {grain part slope : Rat} [Rounding.Lawful grain] [Rounding.Roomy]
  {previous current : Point}

/-- The residual times the distance of the two points, but for the ratios of two roundings. -/
private theorem Point.Spans.exists_product (spans : Point.Spans grain part slope previous current) :
    ∃ run product first second, current.cash.sub previous.cash = .ok run ∧
      current.residual.mul run = .ok product ∧
      product.toRat = first * second *
        (current.residual.toRat * (current.cash.toRat - previous.cash.toRat)) ∧
      |first - 1| ≤ part ∧ |second - 1| ≤ part := by
  have partLe := spans.part_le
  have grainNonneg : 0 ≤ grain := Rounding.Lawful.grain_nonneg
  obtain ⟨run, first, runFit, runIs, firstNear⟩ := Rounding.exists_fit_ratio spans.run_ge
    spans.fine spans.run_ne (spans.run_le.trans (by norm_num))
  obtain ⟨firstGe, firstLe⟩ := abs_le.1 firstNear
  have firstPos : 0 < first := by linarith
  have size : |current.residual.toRat * run.toRat| = first *
      (|current.residual.toRat| * |current.cash.toRat - previous.cash.toRat|) := by
    rw [runIs, abs_mul, abs_mul, abs_of_pos firstPos]
    ring
  have exactNonneg : 0 ≤
      |current.residual.toRat| * |current.cash.toRat - previous.cash.toRat| := by positivity
  have nonzero : current.residual.toRat * run.toRat ≠ 0 := by
    rw [runIs]
    exact mul_ne_zero spans.residual_ne (mul_ne_zero firstPos.ne' spans.run_ne)
  have least := mul_le_mul_of_nonneg_right (by linarith : 7 / 8 ≤ first)
    (mul_nonneg ((abs_nonneg _).trans firstNear) exactNonneg)
  have most := mul_le_mul_of_nonneg_right (by linarith : first ≤ 9 / 8) exactNonneg
  obtain ⟨product, second, productFit, productIs, secondNear⟩ := Rounding.exists_fit_ratio
    (show 2 * grain ≤ part * |current.residual.toRat * run.toRat| by
      rw [size]
      linarith [spans.product_ge])
    spans.fine nonzero (by rw [size]; linarith [spans.product_le])
  refine ⟨run, product, first, second, Decimal.sub_ok.2 runFit, Decimal.mul_ok.2 productFit, ?_,
    firstNear, secondNear⟩
  rw [productIs, runIs]
  ring

/-- The rise between the two points, but for the ratio of one rounding. -/
private theorem Point.Spans.exists_rise (spans : Point.Spans grain part slope previous current) :
    ∃ rise under, current.residual.sub previous.residual = .ok rise ∧
      rise.toRat = under * (slope * (current.cash.toRat - previous.cash.toRat)) ∧ rise ≠ 0 ∧
      |under - 1| ≤ part := by
  have size : |slope * (current.cash.toRat - previous.cash.toRat)| =
      slope * |current.cash.toRat - previous.cash.toRat| := by
    rw [abs_mul, abs_of_pos spans.slope_pos]
  have nonzero : slope * (current.cash.toRat - previous.cash.toRat) ≠ 0 :=
    mul_ne_zero spans.slope_pos.ne' spans.run_ne
  obtain ⟨rise, under, fit, riseIs, underNear⟩ := Rounding.exists_fit_ratio
    (size ▸ spans.rise_ge) spans.fine nonzero (size.trans_le (spans.rise_le.trans (by norm_num)))
  rw [← spans.rises] at fit
  refine ⟨rise, under, Decimal.sub_ok.2 fit, riseIs, ?_, underNear⟩
  rintro rfl
  have underPos : 0 < under := by linarith [(abs_le.1 underNear).1, spans.part_le]
  rw [Decimal.toRat_zero] at riseIs
  exact mul_ne_zero underPos.ne' nonzero riseIs.symm

/-- What a secant moves by, before it is subtracted: the residual over the slope, but for the ratios
of four roundings. -/
private theorem Point.Spans.exists_step (spans : Point.Spans grain part slope previous current) :
    ∃ run product rise step first second third under, current.cash.sub previous.cash = .ok run ∧
      current.residual.mul run = .ok product ∧
      current.residual.sub previous.residual = .ok rise ∧ product.div rise = .ok step ∧
      rise ≠ 0 ∧
      step.toRat = first * second * third / under * (current.residual.toRat / slope) ∧
      |first - 1| ≤ part ∧ |second - 1| ≤ part ∧ |third - 1| ≤ part ∧ |under - 1| ≤ part := by
  obtain ⟨run, product, first, second, runIs, productIs, productFactors, firstNear, secondNear⟩ :=
    spans.exists_product
  obtain ⟨rise, under, riseIs, riseFactors, riseNonzero, underNear⟩ := spans.exists_rise
  have grainNonneg : 0 ≤ grain := Rounding.Lawful.grain_nonneg
  have slopePos := spans.slope_pos
  have partNonneg : 0 ≤ part := (abs_nonneg _).trans underNear
  have unitNear : |(1 : Rat) - 1| ≤ part := by rwa [sub_self, abs_zero]
  obtain ⟨half, twice⟩ := ratio_bounds spans.part_le firstNear secondNear unitNear underNear
  have quotient : product.toRat / rise.toRat =
      first * second * 1 / under * (current.residual.toRat / slope) := by
    rw [productFactors, riseFactors]
    have nonzero := spans.run_ne
    field_simp
  have size : |product.toRat / rise.toRat| =
      first * second * 1 / under * (|current.residual.toRat| / slope) := by
    rw [quotient, abs_mul, abs_of_pos (by linarith), abs_div, abs_of_pos slopePos]
  have nonzero : product.toRat / rise.toRat ≠ 0 := by
    rw [quotient]
    exact mul_ne_zero (by linarith) (div_ne_zero spans.residual_ne slopePos.ne')
  have moveNonneg : 0 ≤ |current.residual.toRat| / slope := by positivity
  have least := mul_le_mul_of_nonneg_right half (mul_nonneg partNonneg moveNonneg)
  have most := mul_le_mul_of_nonneg_right twice moveNonneg
  have wide := mul_nonneg grainNonneg (abs_nonneg current.cash.toRat)
  obtain ⟨step, third, stepFit, stepIs, thirdNear⟩ := Rounding.exists_fit_ratio
    (show 2 * grain ≤ part * |product.toRat / rise.toRat| by
      rw [size]
      linarith [spans.move_ge])
    spans.fine nonzero (by rw [size]; linarith [spans.move_le])
  refine ⟨run, product, rise, step, first, second, third, under, runIs, productIs, riseIs,
    Decimal.div_ok.2 ⟨riseNonzero, stepFit⟩, riseNonzero, ?_, firstNear, secondNear, thirdNear,
    underNear⟩
  rw [stepIs, quotient]
  ring

/-- Where a step leads, but for the ratio of the last rounding. -/
private theorem Point.Spans.exists_candidate (spans : Point.Spans grain part slope previous current)
    {step : Decimal} (stepGe : 1 / 2 * (|current.residual.toRat| / slope) ≤ |step.toRat|)
    (stepLe : |step.toRat| ≤ 2 * (|current.residual.toRat| / slope)) :
    ∃ candidate ratio, current.cash.sub step = .ok candidate ∧
      candidate.toRat = current.cash.toRat - ratio * step.toRat ∧ |ratio - 1| ≤ part := by
  have grainNonneg : 0 ≤ grain := Rounding.Lawful.grain_nonneg
  have partNonneg : 0 ≤ part := by linarith [spans.fine]
  have moveNonneg : 0 < |current.residual.toRat| / slope :=
    div_pos (abs_pos.2 spans.residual_ne) spans.slope_pos
  have nonzero : step.toRat ≠ 0 := abs_pos.1 (by linarith)
  have sizes := abs_sub current.cash.toRat step.toRat
  have room : (7 : Rat) * 10 ^ 28 + 1 ≤ coefficientLimit := by
    exact_mod_cast (by decide : 7 * 10 ^ 28 + 1 ≤ coefficientLimit)
  obtain ⟨candidate, fit⟩ := Rounding.Roomy.exists_fit
    (show |current.cash.toRat - step.toRat| + 1 ≤ coefficientLimit by
      linarith [spans.cash_le, spans.move_le])
  refine ⟨candidate, (current.cash.toRat - candidate.toRat) / step.toRat, Decimal.sub_ok.2 fit, ?_,
    ?_⟩
  · rw [div_mul_cancel₀ _ nonzero, sub_sub_cancel]
  · -- What the last rounding moves is a part of the move.
    rw [div_sub_one nonzero, abs_div, div_le_iff₀ (abs_pos.2 nonzero), sub_right_comm, abs_sub_comm]
    have error := Rounding.Lawful.fit_error fit
    have wide := mul_le_mul_of_nonneg_left sizes grainNonneg
    have onMove := mul_le_mul_of_nonneg_left stepGe partNonneg
    have onStep := mul_le_mul_of_nonneg_right spans.fine (abs_nonneg step.toRat)
    linarith [spans.move_ge]

/-- **A secant moves the last point against its residual, by the residual over the slope.** Rounding
changes that by the ratios of five roundings. -/
theorem Point.Spans.exists_secant (spans : Point.Spans grain part slope previous current) :
    ∃ candidate share, secant? previous current = .ok (some candidate) ∧
      candidate.toRat = current.cash.toRat - share * current.residual.toRat ∧
      (1 - part) ^ 4 ≤ (1 + part) * (share * slope) ∧
      (1 - part) * (share * slope) ≤ (1 + part) ^ 4 := by
  obtain ⟨run, product, rise, step, first, second, third, under, runIs, productIs, riseIs, stepIs,
    riseNonzero, moves, firstNear, secondNear, thirdNear, underNear⟩ := spans.exists_step
  have slopePos := spans.slope_pos
  have moveNonneg : 0 ≤ |current.residual.toRat| / slope := by positivity
  obtain ⟨half, twice⟩ := ratio_bounds spans.part_le firstNear secondNear thirdNear underNear
  have stepSize : |step.toRat| =
      first * second * third / under * (|current.residual.toRat| / slope) := by
    rw [moves, abs_mul, abs_of_pos (by linarith), abs_div, abs_of_pos slopePos]
  have stepGe := mul_le_mul_of_nonneg_right half moveNonneg
  have stepLe := mul_le_mul_of_nonneg_right twice moveNonneg
  rw [← stepSize] at stepGe stepLe
  obtain ⟨candidate, fourth, candidateIs, moved, fourthNear⟩ :=
    spans.exists_candidate stepGe stepLe
  have differs : current.residual ≠ previous.residual := by
    intro same
    refine riseNonzero (Rounding.fit_eq ?_ (Decimal.sub_ok.1 riseIs))
    rw [same, sub_self, Decimal.toRat_zero]
  refine ⟨candidate, first * second * third / under * fourth / slope, ?_, ?_, ?_⟩
  · simp only [secant?, if_neg differs, runIs, productIs, riseIs, stepIs, candidateIs, bind,
      Except.bind, Functor.map, Except.map]
  · rw [moved, moves]
    ring
  · rw [div_mul_cancel₀ _ slopePos.ne']
    exact five_ratios spans.part_le firstNear secondNear thirdNear fourthNear underNear

end Spans

/-! ## A residual that rises -/

/-- Within reach, a residual rises no slower than the ascent and no faster than the steepness, but for
a noise. -/
def Ascends (residual : Decimal → Except Failure Decimal) (reach ascent steepness noise : Rat) :
    Prop :=
  ∀ ⦃fewer more found found' : Decimal⦄, |fewer.toRat| ≤ reach → |more.toRat| ≤ reach →
    fewer.toRat ≤ more.toRat → residual fewer = .ok found → residual more = .ok found' →
    ascent * (more.toRat - fewer.toRat) - noise ≤ found'.toRat - found.toRat ∧
      found'.toRat - found.toRat ≤ steepness * (more.toRat - fewer.toRat) + noise

/-- The line through two points rises like the residual, where the noise is small against their
distance. -/
theorem Ascends.slope {residual : Decimal → Except Failure Decimal}
    {reach ascent steepness noise part : Rat} (ascends : Ascends residual reach ascent steepness noise)
    {previous current : Point} (previousEvaluated : previous.Evaluated residual)
    (currentEvaluated : current.Evaluated residual) (previousWithin : |previous.cash.toRat| ≤ reach)
    (currentWithin : |current.cash.toRat| ≤ reach)
    (distance : 0 < |current.cash.toRat - previous.cash.toRat|)
    (small : noise ≤ part * |current.cash.toRat - previous.cash.toRat|) :
    ∃ slope, ascent - part ≤ slope ∧ slope ≤ steepness + part ∧
      current.residual.toRat - previous.residual.toRat =
        slope * (current.cash.toRat - previous.cash.toRat) := by
  refine ⟨(current.residual.toRat - previous.residual.toRat) /
    (current.cash.toRat - previous.cash.toRat), ?_, ?_, (div_mul_cancel₀ _ (abs_pos.1 distance)).symm⟩
  all_goals rcases le_total previous.cash.toRat current.cash.toRat with forward | backward
  · rw [abs_of_nonneg (sub_nonneg.2 forward)] at distance small
    rw [le_div_iff₀ distance]
    linarith [(ascends previousWithin currentWithin forward previousEvaluated currentEvaluated).1]
  · rw [abs_of_nonpos (sub_nonpos.2 backward), neg_sub] at distance small
    rw [← neg_div_neg_eq, neg_sub, neg_sub, le_div_iff₀ distance]
    linarith [(ascends currentWithin previousWithin backward currentEvaluated previousEvaluated).1]
  · rw [abs_of_nonneg (sub_nonneg.2 forward)] at distance small
    rw [div_le_iff₀ distance]
    linarith [(ascends previousWithin currentWithin forward previousEvaluated currentEvaluated).2]
  · rw [abs_of_nonpos (sub_nonpos.2 backward), neg_sub] at distance small
    rw [← neg_div_neg_eq, neg_sub, neg_sub, div_le_iff₀ distance]
    linarith [(ascends currentWithin previousWithin backward currentEvaluated previousEvaluated).2]

/-! ## The gauge of a search -/

/-- Bounds on a search: how slowly and how fast its residual rises, what rounding and flat balances
may add to that, how far its points may lie, how large residuals are there, how far the first two
points lie and how large their residuals are, and the accepted residual. -/
structure Gauge (grain : Rat) where
  ascent : Rat
  steepness : Rat
  slack : Rat
  reach : Rat
  high : Rat
  start : Rat
  opening : Rat
  accepted : Rat
  ascent_pos : 0 < ascent
  ascent_le : ascent ≤ 1
  steepness_ge : 1 ≤ steepness
  slack_pos : 0 < slack
  slack_le : 8 * slack ≤ ascent
  accepted_ge : 32 * (steepness * slack) ≤ ascent * accepted
  grain_le : 16 * (grain * (1 + 4 * reach)) ≤ slack
  grain_le_sq : grain ≤ slack ^ 2
  start_nonneg : 0 ≤ start
  start_le : start + 3 * ((opening + slack) / ascent) ≤ reach
  opening_nonneg : 0 ≤ opening
  reach_le : reach ≤ 10 ^ 27
  high_le : high ≤ ascent * 10 ^ 27
  product_le : high * reach ≤ 10 ^ 28

namespace Gauge

variable {grain : Rat} (gauge : Gauge grain)

/-- How far two points of a search lie apart. -/
def apart : Rat :=
  4 * gauge.slack / gauge.ascent

theorem ascent_mul_apart : gauge.ascent * gauge.apart = 4 * gauge.slack := by
  have nonzero := gauge.ascent_pos.ne'
  unfold apart
  field_simp

theorem slack_le_apart : 4 * gauge.slack ≤ gauge.apart := by
  have scaled := mul_le_mul_of_nonneg_right gauge.ascent_le
    (div_nonneg (mul_nonneg zero_le_four gauge.slack_pos.le) gauge.ascent_pos.le)
  have product := gauge.ascent_mul_apart
  unfold apart at product ⊢
  linarith

theorem apart_pos : 0 < gauge.apart :=
  (mul_pos four_pos gauge.slack_pos).trans_le gauge.slack_le_apart

theorem start_le_reach : gauge.start ≤ gauge.reach := by
  have rise := div_nonneg (add_nonneg gauge.opening_nonneg gauge.slack_pos.le) gauge.ascent_pos.le
  linarith [gauge.start_le]

theorem reach_nonneg : 0 ≤ gauge.reach :=
  gauge.start_nonneg.trans gauge.start_le_reach

/-- A rejected residual, in units of the slope, is far above what points lie apart. -/
theorem apart_le_accepted : 8 * (gauge.steepness * gauge.apart) ≤ gauge.accepted := by
  have product := gauge.ascent_mul_apart
  have positive := gauge.ascent_pos
  have scaled : gauge.ascent * (8 * (gauge.steepness * gauge.apart)) ≤
      gauge.ascent * gauge.accepted := by
    calc gauge.ascent * (8 * (gauge.steepness * gauge.apart))
        = 8 * (gauge.steepness * (gauge.ascent * gauge.apart)) := by ring
      _ = 32 * (gauge.steepness * gauge.slack) := by rw [product]; ring
      _ ≤ gauge.ascent * gauge.accepted := gauge.accepted_ge
  exact le_of_mul_le_mul_left scaled positive

theorem apart_le_accepted' : 8 * gauge.apart ≤ gauge.accepted := by
  have scaled := mul_le_mul_of_nonneg_right gauge.steepness_ge gauge.apart_pos.le
  linarith [gauge.apart_le_accepted]

/-- What a residual is within a gauge. -/
structure Bounds (residual : Decimal → Except Failure Decimal) : Prop where
  evaluates : ∀ cash : Decimal, |cash.toRat| ≤ gauge.reach →
    ∃ found, residual cash = .ok found ∧ |found.toRat| ≤ gauge.high
  ascends : ∀ {fewer more found found' : Decimal}, |fewer.toRat| ≤ gauge.reach →
    |more.toRat| ≤ gauge.reach → fewer.toRat ≤ more.toRat → residual fewer = .ok found →
    residual more = .ok found' →
    gauge.ascent * (more.toRat - fewer.toRat) - gauge.slack ≤ found'.toRat - found.toRat ∧
      found'.toRat - found.toRat ≤ gauge.steepness * (more.toRat - fewer.toRat) + gauge.slack

/-- A point of a search: evaluated, and within reach. -/
structure Holds (residual : Decimal → Except Failure Decimal) (point : Point) : Prop where
  evaluated : point.Evaluated residual
  within : |point.cash.toRat| ≤ gauge.reach

/-- A point of a search the residual of which was not accepted. -/
structure Rejects (residual : Decimal → Except Failure Decimal) (point : Point) : Prop extends
    gauge.Holds residual point where
  rejected : gauge.accepted < |point.residual.toRat|

end Gauge

namespace Gauge

variable {grain : Rat} {gauge : Gauge grain} {residual : Decimal → Except Failure Decimal}
  {previous current : Point}

theorem Bounds.abs_residual_le (bounds : gauge.Bounds residual)
    (holds : gauge.Holds residual current) : |current.residual.toRat| ≤ gauge.high := by
  obtain ⟨found, evaluated, foundLe⟩ := bounds.evaluates current.cash holds.within
  rwa [Except.ok.inj (holds.evaluated.symm.trans evaluated)]

/-! ## The secant -/

/-- The line through two points that lie apart rises, and not too fast. -/
theorem Bounds.slope (bounds : gauge.Bounds residual) (previousHolds : gauge.Holds residual previous)
    (currentHolds : gauge.Holds residual current)
    (apart : gauge.apart ≤ |current.cash.toRat - previous.cash.toRat|) :
    ∃ slope, 3 * gauge.ascent ≤ 4 * slope ∧ slope ≤ 2 * gauge.steepness ∧
      current.residual.toRat - previous.residual.toRat =
        slope * (current.cash.toRat - previous.cash.toRat) := by
  have ascends : Ascends residual gauge.reach gauge.ascent gauge.steepness gauge.slack :=
    @bounds.ascends
  have small : gauge.slack ≤
      gauge.ascent / 4 * |current.cash.toRat - previous.cash.toRat| := by
    linarith [mul_le_mul_of_nonneg_left apart gauge.ascent_pos.le, gauge.ascent_mul_apart]
  obtain ⟨slope, least, most, rises⟩ := ascends.slope previousHolds.evaluated
    currentHolds.evaluated previousHolds.within currentHolds.within
    (gauge.apart_pos.trans_le apart) small
  exact ⟨slope, by linarith, by linarith [gauge.ascent_le, gauge.steepness_ge], rises⟩

section Secant

variable [Rounding] [Rounding.Lawful grain] [Rounding.Roomy]

omit [Rounding.Roomy] in
theorem grain_le_slack (gauge : Gauge grain) : 16 * grain ≤ gauge.slack := by
  have grainNonneg : 0 ≤ grain := Rounding.Lawful.grain_nonneg
  have more : grain * 1 ≤ grain * (1 + 4 * gauge.reach) :=
    mul_le_mul_of_nonneg_left (by linarith [gauge.reach_nonneg]) grainNonneg
  linarith [gauge.grain_le]

omit [Rounding.Roomy] in
/-- What one rounding moves where the points of a search lie. -/
theorem fit_near (gauge : Gauge grain) {number : Rat} {result : Decimal}
    (fit : Rounding.fit number = some result) (within : |number| ≤ 4 * gauge.reach + 1) :
    |result.toRat - number| ≤ gauge.slack / 8 := by
  have grainNonneg : 0 ≤ grain := Rounding.Lawful.grain_nonneg
  have wide : grain * (1 + |number|) ≤ grain * (1 + 4 * gauge.reach) + grain := by
    rw [← mul_add_one]
    exact mul_le_mul_of_nonneg_left (by linarith) grainNonneg
  linarith [Rounding.Lawful.fit_error fit, gauge.grain_le, grain_le_slack gauge]

omit [Rounding] [Rounding.Lawful grain] [Rounding.Roomy] in
/-- A residual moves a rejected point by more than points lie apart, and by a number that fits. -/
private theorem move_bounds (bounds : gauge.Bounds residual)
    (currentRejects : gauge.Rejects residual current) {slope : Rat} (least : 3 * gauge.ascent ≤ 4 * slope)
    (most : slope ≤ 2 * gauge.steepness) :
    4 * gauge.apart ≤ |current.residual.toRat| / slope ∧
      |current.residual.toRat| / slope ≤ 2 * 10 ^ 27 := by
  have ascentPos := gauge.ascent_pos
  have slopePos : 0 < slope := by linarith
  have apartPos := gauge.apart_pos
  constructor
  · rw [le_div_iff₀ slopePos]
    have scaled := mul_le_mul_of_nonneg_left most apartPos.le
    linarith [gauge.apart_le_accepted, currentRejects.rejected]
  · rw [div_le_iff₀ slopePos]
    linarith [gauge.high_le, bounds.abs_residual_le currentRejects.toHolds]

omit [Rounding.Roomy] in
/-- A secant through two points that lie apart, the last one of them rejected, is rounded by little. -/
theorem Bounds.spans (bounds : gauge.Bounds residual) (previousHolds : gauge.Holds residual previous)
    (currentRejects : gauge.Rejects residual current)
    (apart : gauge.apart ≤ |current.cash.toRat - previous.cash.toRat|) {part slope : Rat}
    (partLe : 8 * part ≤ 1) (coarse : 2 * (grain * (1 + 4 * gauge.reach)) ≤ part * gauge.slack)
    (coarseSq : grain ≤ 8 * (part * gauge.slack ^ 2)) (least : 3 * gauge.ascent ≤ 4 * slope)
    (most : slope ≤ 2 * gauge.steepness)
    (rises : current.residual.toRat - previous.residual.toRat =
      slope * (current.cash.toRat - previous.cash.toRat)) :
    Point.Spans grain part slope previous current := by
  have grainNonneg : 0 ≤ grain := Rounding.Lawful.grain_nonneg
  have slackPos := gauge.slack_pos
  have slackLe : 8 * gauge.slack ≤ 1 := gauge.slack_le.trans gauge.ascent_le
  have apartPos := gauge.apart_pos
  have slackApart := gauge.slack_le_apart
  have reachNonneg := gauge.reach_nonneg
  have slopePos : 0 < slope := by linarith [gauge.ascent_pos]
  have grainLe : 2 * grain ≤ part * gauge.slack := by
    linarith [mul_nonneg grainNonneg reachNonneg]
  have partNonneg : 0 ≤ part := by
    by_contra negative
    linarith [mul_neg_of_neg_of_pos (not_le.1 negative) slackPos]
  have rejected : 8 * gauge.apart ≤ |current.residual.toRat| :=
    gauge.apart_le_accepted'.trans currentRejects.rejected.le
  have residualLe := bounds.abs_residual_le currentRejects.toHolds
  have residualLe' := bounds.abs_residual_le previousHolds
  have highLe : gauge.high ≤ 10 ^ 27 := gauge.high_le.trans
    (mul_le_of_le_one_left (by norm_num) gauge.ascent_le)
  have runLe : |current.cash.toRat - previous.cash.toRat| ≤ 2 * gauge.reach := by
    linarith [abs_sub current.cash.toRat previous.cash.toRat, previousHolds.within,
      currentRejects.within]
  have riseGe : 3 * gauge.slack ≤ slope * |current.cash.toRat - previous.cash.toRat| := by
    have scaled : 3 * gauge.ascent * gauge.apart ≤
        4 * slope * |current.cash.toRat - previous.cash.toRat| :=
      mul_le_mul least apart apartPos.le (by linarith)
    linarith [gauge.ascent_mul_apart]
  have riseIs : slope * |current.cash.toRat - previous.cash.toRat| =
      |current.residual.toRat - previous.residual.toRat| := by
    rw [rises, abs_mul, abs_of_pos slopePos]
  obtain ⟨moveGe, moveLe⟩ := move_bounds bounds currentRejects least most
  have onRun := mul_le_mul_of_nonneg_left (slackApart.trans apart) partNonneg
  have onRise := mul_le_mul_of_nonneg_left riseGe partNonneg
  have onMove := mul_le_mul_of_nonneg_left moveGe partNonneg
  have onSlack := mul_le_mul_of_nonneg_left slackLe partNonneg
  have onApart := mul_le_mul_of_nonneg_left slackApart partNonneg
  have partSlack := mul_nonneg partNonneg slackPos.le
  exact {
    part_le := partLe
    slope_pos := slopePos
    rises := rises
    run_ne := abs_pos.1 (apartPos.trans_le apart)
    residual_ne := abs_pos.1 (by linarith)
    fine := by linarith
    run_ge := by linarith
    product_ge := by
      have product : 8 * (4 * gauge.slack) * (4 * gauge.slack) ≤
          |current.residual.toRat| * |current.cash.toRat - previous.cash.toRat| :=
        mul_le_mul (by linarith) (slackApart.trans apart) (by linarith) (by positivity)
      have onProduct := mul_le_mul_of_nonneg_left product partNonneg
      linarith [mul_nonneg partNonneg (sq_nonneg gauge.slack)]
    rise_ge := by linarith
    move_ge := by
      have wide := mul_le_mul_of_nonneg_left currentRejects.within grainNonneg
      linarith [mul_nonneg grainNonneg reachNonneg]
    run_le := by linarith [gauge.reach_le]
    product_le := by
      have product := mul_le_mul residualLe runLe (abs_nonneg _) (by linarith)
      linarith [gauge.product_le]
    rise_le := by
      rw [riseIs]
      linarith [abs_sub current.residual.toRat previous.residual.toRat]
    move_le := by linarith
    cash_le := currentRejects.within.trans gauge.reach_le }

/-- **The secant moves the last point against its residual.** It moves it by a share of the residual
that is bounded from both sides. -/
theorem exists_secant (bounds : gauge.Bounds residual)
    (previousHolds : gauge.Holds residual previous) (currentRejects : gauge.Rejects residual current)
    (apart : gauge.apart ≤ |current.cash.toRat - previous.cash.toRat|) :
    ∃ candidate share, secant? previous current = .ok (some candidate) ∧
      candidate.toRat = current.cash.toRat - share * current.residual.toRat ∧
      1 ≤ 5 * (gauge.steepness * share) ∧ 2 * (gauge.ascent * share) ≤ 5 := by
  obtain ⟨slope, least, most, rises⟩ := bounds.slope previousHolds currentRejects.toHolds apart
  have spans : Point.Spans grain (1 / 8) slope previous current :=
    bounds.spans previousHolds currentRejects apart (by norm_num) (by linarith [gauge.grain_le])
      (by linarith [gauge.grain_le_sq]) least most rises
  obtain ⟨candidate, share, secantIs, moves, shareGe, shareLe⟩ := spans.exists_secant
  have slopePos := spans.slope_pos
  have sharePos : 0 < share := by
    by_contra notPositive
    linarith [mul_nonpos_of_nonpos_of_nonneg (not_lt.1 notPositive) slopePos.le]
  have onMost := mul_le_mul_of_nonneg_left most sharePos.le
  have onLeast := mul_le_mul_of_nonneg_left least sharePos.le
  exact ⟨candidate, share, secantIs, moves, by linarith, by linarith⟩

end Secant

/-! ## The midpoint -/

section Midpoint

variable [Rounding] [Rounding.Lawful grain] [Rounding.Roomy]

/-- The midpoint of two amounts within reach, but for rounding. -/
theorem exists_midpoint (gauge : Gauge grain) {first second : Decimal}
    (firstWithin : |first.toRat| ≤ gauge.reach) (secondWithin : |second.toRat| ≤ gauge.reach) :
    ∃ middle, midpoint first second = .ok middle ∧
      |middle.toRat - (first.toRat + second.toRat) / 2| ≤ gauge.slack := by
  have reachLe := gauge.reach_le
  have reachNonneg := gauge.reach_nonneg
  have sizes := abs_add_le first.toRat second.toRat
  obtain ⟨sum, sumFit⟩ := Rounding.exists_fit_of_le (sizes.trans (by linarith))
  have sumNear := fit_near gauge sumFit (by linarith)
  have sumSize : |sum.toRat| ≤ 2 * gauge.reach + 1 := by
    have parts := abs_add_le (sum.toRat - (first.toRat + second.toRat)) (first.toRat + second.toRat)
    rw [sub_add_cancel] at parts
    linarith [gauge.slack_le, gauge.ascent_le]
  have halfSize : |sum.toRat / 2| = |sum.toRat| / 2 := by rw [abs_div, abs_two]
  obtain ⟨middle, middleFit⟩ := Rounding.exists_fit_of_le (halfSize.trans_le (by linarith))
  have middleNear := fit_near gauge middleFit (halfSize.trans_le (by linarith))
  have halved : sum.div 2 = .ok middle :=
    Decimal.div_ok.2 ⟨by decide, by rwa [Decimal.toRat_two]⟩
  refine ⟨middle, Outcome.bind_ok.2 ⟨sum, Decimal.add_ok.2 sumFit, halved⟩, ?_⟩
  have halves : |sum.toRat / 2 - (first.toRat + second.toRat) / 2| ≤ gauge.slack / 16 := by
    rw [← sub_div, abs_div, abs_two]
    linarith
  have steps := abs_sub_le middle.toRat (sum.toRat / 2) ((first.toRat + second.toRat) / 2)
  linarith [gauge.slack_pos]

end Midpoint

end Gauge

end Deposit

end Collateral
