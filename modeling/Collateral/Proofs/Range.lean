import Collateral.Proofs.Ascent
import Collateral.Proofs.BoundedSearch

/-!
Contract: problems whose search has room.

Sizes are in range when the residual rises fast enough for how fast it may rise, when the balances are
not too large for both slopes, and when the accepted residual is not too small for them. Then the two
slopes and the size of the book make up a gauge, in which the residual is bounded by what it is
exactly, and the search of the problem comes to a conclusion.

Owns: problems in range, the gauge of one, and the conclusion of its search.
-/

namespace Collateral.Deposit

variable [Rounding]

/-! ## What is accepted -/

/-- The residual that is accepted is the tolerance at the size of the book, but for a small part. -/
theorem exists_acceptance {grain : Rat} [Rounding.Lawful grain] [Rounding.Roomy]
    (fine : grain ≤ 1 / 10 ^ 28) {tolerance total margin : Decimal}
    (toleranceNonneg : 0 ≤ tolerance.toRat) (toleranceLe : tolerance.toRat ≤ 1000)
    (marginNonneg : 0 ≤ margin.toRat) (sized : |total.toRat| + margin.toRat ≤ 10 ^ 13)
    (coarse : 1 ≤ 10 ^ 6 * (tolerance.toRat * max (|total.toRat| + margin.toRat) 1)) :
    ∃ accepted, acceptance tolerance total margin = .ok accepted ∧
      97 / 100 * (tolerance.toRat * max (|total.toRat| + margin.toRat) 1) ≤ accepted.toRat := by
  have sumNonneg : 0 ≤ |total.toRat| + margin.toRat := add_nonneg (abs_nonneg _) marginNonneg
  have sumLe : |total.abs.toRat + margin.toRat| ≤ ((10 ^ 13 : Nat) : Rat) := by
    rw [Decimal.toRat_abs, abs_of_nonneg sumNonneg]
    exact_mod_cast sized
  obtain ⟨sum, added, sumSize⟩ := Decimal.exists_add (by decide) sumLe
  push_cast at sumSize
  have scaleIs : (max sum 1).toRat = max sum.toRat 1 := by rw [Decimal.toRat_max, Decimal.toRat_one]
  have scaleLe : (max sum 1).toRat ≤ 10 ^ 13 :=
    scaleIs.trans_le (max_le (le_of_abs_le sumSize) (by norm_num))
  have scaleNonneg : 0 ≤ (max sum 1).toRat :=
    scaleIs ▸ zero_le_one.trans (le_max_right sum.toRat 1)
  have scale : max (|total.toRat| + margin.toRat) 1 ≤ 100 / 99 * (max sum 1).toRat := by
    have error := Rounding.Lawful.fit_error (Decimal.add_ok.1 added)
    rw [Decimal.toRat_abs, abs_of_nonneg sumNonneg] at error
    have small := mul_le_mul_of_nonneg_right fine
      (by positivity : 0 ≤ 1 + (|total.toRat| + margin.toRat))
    rw [scaleIs]
    apply max_le
    · linarith [(abs_le.1 error).1, le_max_left sum.toRat 1, le_max_right sum.toRat 1]
    · linarith [le_max_right sum.toRat 1]
  have productNonneg := mul_nonneg toleranceNonneg scaleNonneg
  have productLe : |tolerance.toRat * (max sum 1).toRat| ≤ ((10 ^ 16 : Nat) : Rat) := by
    rw [abs_of_nonneg productNonneg]
    push_cast
    linarith [mul_le_mul toleranceLe scaleLe scaleNonneg (by norm_num)]
  obtain ⟨accepted, scaled, -⟩ := Decimal.exists_mul (by decide) productLe
  refine ⟨accepted, acceptance_ok.2 ⟨sum, added, scaled⟩, ?_⟩
  -- One hundredth goes to rounding the size, and two to rounding its product.
  have error := Rounding.Lawful.fit_error (Decimal.mul_ok.1 scaled)
  rw [abs_of_nonneg productNonneg] at error
  have small := mul_le_mul_of_nonneg_right fine
    (by positivity : 0 ≤ 1 + tolerance.toRat * (max sum 1).toRat)
  linarith [(abs_le.1 error).1, mul_le_mul_of_nonneg_left scale toleranceNonneg]

/-! ## Sizes -/

/-- Sizes for which no operation of a search leaves the range of decimals. The residual rises not too
slowly for how fast it may rise, the balances are not too large for both slopes, and the accepted
residual is not too small for what flat balances can move. -/
structure InRange (terms : Terms) (book : Book) (factor tolerance total margin : Decimal) : Prop
    extends Margin.Moderate terms book where
  scaled_le : factor.toRat * terms.multiplier.toRat ≤ 1000
  tolerance_le : tolerance.toRat ≤ 1000
  ascends : steepness terms factor.toRat ≤ 10 ^ 4 * ascent terms factor.toRat
  sized : steepness terms factor.toRat ^ 3 *
      (1 + book.gross terms.spot terms.domestic + margin.toRat) ≤
    10 ^ 12 * ascent terms factor.toRat
  coarse : steepness terms factor.toRat ^ 2 ≤ 10 ^ 4 * (ascent terms factor.toRat *
    (tolerance.toRat * max (|total.toRat| + margin.toRat) 1))

/-- A problem in range, together with what targets and margins keep to. -/
structure Ready (terms : Terms) (book : Book) (factor tolerance total margin : Decimal) : Prop
    extends InRange terms book factor tolerance total margin where
  factor_nonneg : 0 ≤ factor.toRat
  factor_le : factor.toRat ≤ 11
  margin_nonneg : 0 ≤ margin.toRat

/-- How far a search may lie from nothing, but for a factor. -/
def span (terms : Terms) (book : Book) (factor margin : Decimal) : Rat :=
  steepness terms factor.toRat * (1 + book.gross terms.spot terms.domestic + margin.toRat) /
    ascent terms factor.toRat

namespace Ready

variable {terms : Terms} {book : Book} {factor tolerance total margin : Decimal}

section Sizes

variable (ready : Ready terms book factor tolerance total margin)

include ready

theorem steepness_ge : 1 ≤ steepness terms factor.toRat :=
  one_le_steepness ready.multiplier_nonneg ready.factor_nonneg

theorem ascent_le : ascent terms factor.toRat ≤ 1 :=
  ascent_le_one ready.multiplier_nonneg ready.factor_nonneg

theorem ascent_ge : 1 / 10 ^ 4 ≤ ascent terms factor.toRat := by
  linarith [ready.ascends, ready.steepness_ge]

theorem ascent_pos : 0 < ascent terms factor.toRat :=
  lt_of_lt_of_le (by norm_num) ready.ascent_ge

theorem ascent_mul_span :
    ascent terms factor.toRat * span terms book factor margin = steepness terms factor.toRat *
      (1 + book.gross terms.spot terms.domestic + margin.toRat) :=
  mul_div_cancel₀ _ ready.ascent_pos.ne'

theorem le_span :
    1 + book.gross terms.spot terms.domestic + margin.toRat ≤ span terms book factor margin := by
  have grossNonneg := book.gross_nonneg terms.spot terms.domestic
  have marginNonneg := ready.margin_nonneg
  rw [span, le_div_iff₀ ready.ascent_pos, mul_comm]
  exact mul_le_mul_of_nonneg_right (ready.ascent_le.trans ready.steepness_ge) (by positivity)

theorem span_ge : 1 ≤ span terms book factor margin := by
  linarith [ready.le_span, ready.margin_nonneg, book.gross_nonneg terms.spot terms.domestic]

theorem steepness_mul_span_le :
    steepness terms factor.toRat * span terms book factor margin ≤ 10 ^ 12 := by
  have steep := ready.steepness_ge
  have product : 0 ≤ steepness terms factor.toRat * span terms book factor margin :=
    mul_nonneg (zero_le_one.trans steep) (zero_le_one.trans ready.span_ge)
  have squared : steepness terms factor.toRat *
      (steepness terms factor.toRat * span terms book factor margin) ≤ 10 ^ 12 := by
    have sized := ready.sized
    rw [← mul_assoc, span, mul_div_assoc', div_le_iff₀ ready.ascent_pos]
    linarith
  exact (le_mul_of_one_le_left product steep).trans squared

theorem span_le : span terms book factor margin ≤ 10 ^ 12 :=
  (le_mul_of_one_le_left (zero_le_one.trans ready.span_ge) ready.steepness_ge).trans
    ready.steepness_mul_span_le

/-- What the balances and the cash of a search come to. -/
theorem peak_le {cash : Rat} (within : |cash| ≤ 19 * span terms book factor margin) :
    steepness terms factor.toRat * (book.gross terms.spot terms.domestic + |cash|) ≤
      2 * 10 ^ 13 := by
  have both : book.gross terms.spot terms.domestic + |cash| ≤
      20 * span terms book factor margin := by
    linarith [ready.le_span, ready.margin_nonneg]
  have scaled := mul_le_mul_of_nonneg_left both (zero_le_one.trans ready.steepness_ge)
  linarith [ready.steepness_mul_span_le]

end Sizes

variable {grain : Rat} [Rounding.Lawful grain]

omit [Rounding.Lawful grain] in
private theorem steepness_le (ready : Ready terms book factor tolerance total margin) :
    steepness terms factor.toRat ≤ 10 ^ 4 := by
  linarith [ready.ascends, ready.ascent_le]

omit [Rounding.Lawful grain] in
/-- What one balance adds to the size of a margin, at a factor. -/
private theorem entrySize_bounds (ready : Ready terms book factor tolerance total margin)
    {cash : Rat} (within : |cash| ≤ 19 * span terms book factor margin) :
    0 ≤ factor.toRat * terms.multiplier.toRat * (1 + terms.haircuts.highest *
        (1 + 2 * (1 + 3 * (book.gross terms.spot terms.domestic + |cash|)))) ∧
      factor.toRat * terms.multiplier.toRat * (1 + terms.haircuts.highest *
        (1 + 2 * (1 + 3 * (book.gross terms.spot terms.domestic + |cash|)))) ≤ 13 * 10 ^ 13 := by
  have peakNonneg : 0 ≤ book.gross terms.spot terms.domestic + |cash| :=
    add_nonneg (book.gross_nonneg terms.spot terms.domestic) (abs_nonneg cash)
  constructor
  · have topNonneg := terms.haircuts.highest_nonneg
    have scaledNonneg := mul_nonneg ready.factor_nonneg ready.multiplier_nonneg
    positivity
  · have saving : factor.toRat * (terms.multiplier.toRat * terms.haircuts.highest) =
        steepness terms factor.toRat - 1 := by
      rw [steepness]
      ring
    have savings := mul_le_mul_of_nonneg_right (sub_le_self (steepness terms factor.toRat)
      zero_le_one) peakNonneg
    calc factor.toRat * terms.multiplier.toRat * (1 + terms.haircuts.highest *
          (1 + 2 * (1 + 3 * (book.gross terms.spot terms.domestic + |cash|))))
        = factor.toRat * terms.multiplier.toRat +
            factor.toRat * (terms.multiplier.toRat * terms.haircuts.highest) *
              (3 + 6 * (book.gross terms.spot terms.domestic + |cash|)) := by ring
      _ = factor.toRat * terms.multiplier.toRat + (steepness terms factor.toRat - 1) *
              (3 + 6 * (book.gross terms.spot terms.domestic + |cash|)) := by rw [saving]
      _ ≤ 13 * 10 ^ 13 := by
          linarith [ready.scaled_le, ready.steepness_le, ready.peak_le within]

omit [Rounding.Lawful grain] in
private theorem residualSize_le (ready : Ready terms book factor tolerance total margin)
    {cash : Rat} (within : |cash| ≤ 19 * span terms book factor margin) :
    residualSize terms book factor.toRat cash ≤ 2 * 10 ^ 17 := by
  have peakNonneg : 0 ≤ book.gross terms.spot terms.domestic + |cash| :=
    add_nonneg (book.gross_nonneg terms.spot terms.domestic) (abs_nonneg cash)
  have peakLe := (le_mul_of_one_le_left peakNonneg ready.steepness_ge).trans (ready.peak_le within)
  have entries : ((book.balances.entries.length + 1 : Nat) : Rat) ≤ 1001 := by
    exact_mod_cast Nat.succ_le_succ ready.entries_le
  obtain ⟨eachNonneg, eachLe⟩ := ready.entrySize_bounds within
  have size : factor.toRat * Margin.size terms (book.balances.entries.length + 1)
      (1 + 3 * (book.gross terms.spot terms.domestic + |cash|)) =
      factor.toRat + factor.toRat * terms.multiplier.toRat +
        ((book.balances.entries.length + 1 : Nat) : Rat) * (factor.toRat * terms.multiplier.toRat *
          (1 + terms.haircuts.highest * (1 + 2 * (1 + 3 *
            (book.gross terms.spot terms.domestic + |cash|))))) := by
    rw [Margin.size, Netting.chargeSize]
    ring
  rw [residualSize, size]
  linarith [ready.factor_le, ready.scaled_le, mul_le_mul entries eachLe eachNonneg (by norm_num)]

/-- How far rounding can move the residual of an amount within reach. -/
theorem blur_le (ready : Ready terms book factor tolerance total margin)
    (fine : grain ≤ 1 / 10 ^ 28) {cash : Rat}
    (within : |cash| ≤ 19 * span terms book factor margin) :
    blur grain terms book factor.toRat cash ≤ 1 / 10 ^ 7 := by
  have blurLe := blur_le_of_residualSize_le fine ready.entries_le (by norm_num)
    (ready.residualSize_le within)
  linarith

/-! ## The residual within reach -/

section Residual

variable {cash found : Decimal}

omit [Rounding.Lawful grain] in
private theorem holdings_le (ready : Ready terms book factor tolerance total margin)
    (within : |cash.toRat| ≤ 19 * span terms book factor margin) :
    book.gross terms.spot terms.domestic + |cash.toRat| ≤ 10 ^ 14 := by
  have peakNonneg : 0 ≤ book.gross terms.spot terms.domestic + |cash.toRat| :=
    add_nonneg (book.gross_nonneg terms.spot terms.domestic) (abs_nonneg _)
  linarith [le_mul_of_one_le_left peakNonneg ready.steepness_ge, ready.peak_le within]

/-- A residual is bounded by all balances and the cash, at the steeper slope. -/
theorem abs_residual_le [SummationOrder] (ready : Ready terms book factor tolerance total margin)
    (fine : grain ≤ 1 / 10 ^ 28) (par : terms.AtPar)
    (totaled : book.totalIn terms.domestic terms.spot = .ok total)
    (within : |cash.toRat| ≤ 19 * span terms book factor margin)
    (evaluated : (Problem.ofTerms terms book).residual total factor cash = .ok found) :
    |found.toRat| ≤ steepness terms factor.toRat *
      (2 * book.gross terms.spot terms.domestic + |cash.toRat| + 2) := by
  obtain ⟨others, balance, built, added, exactNonneg, near⟩ := residual_near
    (fine.trans (by norm_num)) par ready.multiplier_nonneg ready.factor_nonneg totaled evaluated
  have exactLe := abs_exactResidual_le par ready.multiplier_nonneg ready.factor_nonneg fine built
    (ready.holdings_le within) added exactNonneg
  have parts := abs_add_le
    (found.toRat - exactResidual terms book others factor.toRat cash.toRat balance)
    (exactResidual terms book others factor.toRat cash.toRat balance)
  rw [sub_add_cancel] at parts
  linarith [ready.blur_le fine within, ready.steepness_ge]

/-- A residual rises between its two slopes, but for what is flat and for rounding. -/
theorem residual_sub [SummationOrder] (ready : Ready terms book factor tolerance total margin)
    (fine : grain ≤ 1 / 10 ^ 28) (par : terms.AtPar)
    (totaled : book.totalIn terms.domestic terms.spot = .ok total) {fewer more found' : Decimal}
    (fewerWithin : |fewer.toRat| ≤ 19 * span terms book factor margin)
    (moreWithin : |more.toRat| ≤ 19 * span terms book factor margin)
    (ordered : fewer.toRat ≤ more.toRat)
    (evaluated : (Problem.ofTerms terms book).residual total factor fewer = .ok found)
    (evaluated' : (Problem.ofTerms terms book).residual total factor more = .ok found') :
    ascent terms factor.toRat * (more.toRat - fewer.toRat) -
          3 * steepness terms factor.toRat / 10 ^ 6 ≤ found'.toRat - found.toRat ∧
      found'.toRat - found.toRat ≤ steepness terms factor.toRat * (more.toRat - fewer.toRat) +
        3 * steepness terms factor.toRat / 10 ^ 6 := by
  have small : grain ≤ 1 := fine.trans (by norm_num)
  obtain ⟨others, balance, built, added, -, near⟩ := residual_near small par
    ready.multiplier_nonneg ready.factor_nonneg totaled evaluated
  obtain ⟨others', balance', built', added', -, near'⟩ := residual_near small par
    ready.multiplier_nonneg ready.factor_nonneg totaled evaluated'
  -- Both amounts meet the same foreign buckets, so their exact residuals compare.
  obtain rfl := Except.ok.inj (built.symm.trans built')
  obtain ⟨least, most⟩ := exactResidual_sub par ready.multiplier_nonneg ready.factor_nonneg fine
    built (ready.holdings_le fewerWithin) (ready.holdings_le moreWithin) ordered added added'
  obtain ⟨nearGe, nearLe⟩ := abs_le.1 (near.trans (ready.blur_le fine fewerWithin))
  obtain ⟨nearGe', nearLe'⟩ := abs_le.1 (near'.trans (ready.blur_le fine moreWithin))
  have steep := ready.steepness_ge
  constructor <;> linarith

theorem abs_total_le [SummationOrder] (ready : Ready terms book factor tolerance total margin)
    (fine : grain ≤ 1 / 10 ^ 28)
    (totaled : book.totalIn terms.domestic terms.spot = .ok total) :
    |total.toRat| ≤ 2 * (1 + book.gross terms.spot terms.domestic) := by
  have grainNonneg : 0 ≤ grain := Rounding.Lawful.grain_nonneg
  have grossNonneg := book.gross_nonneg terms.spot terms.domestic
  have drifts := drift_le_of_thousand grainNonneg fine
    (ready.entries_le.trans (by decide : 1000 ≤ 1005))
  have scaled := mul_le_mul_of_nonneg_right (drifts.trans (by norm_num : _ ≤ (1 : Rat)))
    (by positivity : 0 ≤ 1 + book.gross terms.spot terms.domestic)
  linarith [(Book.near_totalIn totaled).abs_le, book.abs_worth_le_gross terms.spot terms.domestic]

/-- Every amount within reach has a residual. -/
theorem exists_residual [SummationOrder] [Rounding.Roomy]
    (ready : Ready terms book factor tolerance total margin)
    (fine : grain ≤ 1 / 10 ^ 28) (par : terms.AtPar)
    (totaled : book.totalIn terms.domestic terms.spot = .ok total)
    (margined : Margin.ofBook terms book = .ok margin)
    (within : |cash.toRat| ≤ 19 * span terms book factor margin) :
    ∃ found, (Problem.ofTerms terms book).residual total factor cash = .ok found := by
  have holdings := ready.holdings_le within
  have cashNonneg := abs_nonneg cash.toRat
  have grossNonneg := book.gross_nonneg terms.spot terms.domestic
  have balanceSum : |(book.balance terms.domestic).toRat + cash.toRat| ≤ ((10 ^ 14 : Nat) : Rat) := by
    push_cast
    linarith [abs_add_le (book.balance terms.domestic).toRat cash.toRat,
      Margin.abs_balance_le_gross par book]
  obtain ⟨balance, added, balanceLe⟩ := Decimal.exists_add (by decide) balanceSum
  push_cast at balanceLe
  have worthSum : |total.toRat + cash.toRat| ≤ ((10 ^ 15 : Nat) : Rat) := by
    push_cast
    linarith [abs_add_le total.toRat cash.toRat, ready.abs_total_le fine totaled]
  obtain ⟨worth, summed, worthLe⟩ := Decimal.exists_add (by decide) worthSum
  push_cast at worthLe
  obtain ⟨others, built⟩ := Margin.foreign_of_ofBook margined
  have peak : book.gross terms.spot terms.domestic + |balance.toRat| ≤ 10 ^ 15 := by linarith
  obtain ⟨after, afterMargined, afterLe⟩ := ready.toModerate.exists_ofBook par built peak
  have product : |factor.toRat * after.toRat| ≤ ((10 ^ 27 : Nat) : Rat) := by
    rw [abs_mul, abs_of_nonneg ready.factor_nonneg]
    push_cast
    calc factor.toRat * |after.toRat| ≤ 11 * 10 ^ 25 :=
          mul_le_mul ready.factor_le afterLe (abs_nonneg _) (by norm_num)
      _ ≤ 10 ^ 27 := by norm_num
  obtain ⟨required, scaled, requiredLe⟩ := Decimal.exists_mul (by decide) product
  push_cast at requiredLe
  have difference : |worth.toRat - required.toRat| ≤ ((10 ^ 28 : Nat) : Rat) := by
    push_cast
    linarith [abs_sub worth.toRat required.toRat]
  obtain ⟨found, subtracted, -⟩ := Decimal.exists_sub (by decide) difference
  exact ⟨found, residual_eq_ok added summed afterMargined scaled subtracted⟩

end Residual

/-! ## The gauge -/

omit [Rounding.Lawful grain] in
/-- The gauge of a problem in range. Flat balances move a residual by two millionths at the steeper
slope, and rounding by less than another one. -/
def gauge (ready : Ready terms book factor tolerance total margin) (fine : grain ≤ 1 / 10 ^ 28)
    {accepted : Rat} (acceptedGe : 96 * steepness terms factor.toRat ^ 2 ≤
      10 ^ 6 * (ascent terms factor.toRat * accepted)) : Gauge grain where
  ascent := ascent terms factor.toRat
  steepness := steepness terms factor.toRat
  slack := 3 * steepness terms factor.toRat / 10 ^ 6
  reach := 19 * span terms book factor margin
  high := 21 * (steepness terms factor.toRat * span terms book factor margin)
  start := 3 * (1 + book.gross terms.spot terms.domestic + margin.toRat)
  opening := 5 * (steepness terms factor.toRat *
    (1 + book.gross terms.spot terms.domestic + margin.toRat))
  accepted := accepted
  ascent_pos := ready.ascent_pos
  ascent_le := ready.ascent_le
  steepness_ge := ready.steepness_ge
  slack_pos := by linarith [ready.steepness_ge]
  slack_le := by linarith [ready.ascends, ready.ascent_pos]
  accepted_ge := by linarith
  grain_le := by
    have wide : grain * (1 + 4 * (19 * span terms book factor margin)) ≤
        1 / 10 ^ 28 * (1 + 4 * (19 * 10 ^ 12)) := by
      have spanGe := ready.span_ge
      gcongr
      exact ready.span_le
    linarith [ready.steepness_ge]
  grain_le_sq := by
    have least : 3 * 1 / 10 ^ 6 ≤ 3 * steepness terms factor.toRat / 10 ^ 6 := by
      gcongr
      exact ready.steepness_ge
    linarith [pow_le_pow_left₀ (by norm_num) least 2]
  start_nonneg := by linarith [book.gross_nonneg terms.spot terms.domestic, ready.margin_nonneg]
  start_le := by
    have rise : (5 * (steepness terms factor.toRat *
          (1 + book.gross terms.spot terms.domestic + margin.toRat)) +
        3 * steepness terms factor.toRat / 10 ^ 6) / ascent terms factor.toRat ≤
          5 * span terms book factor margin + 1 / 10 := by
      rw [div_le_iff₀ ready.ascent_pos]
      linarith [ready.ascent_mul_span, ready.ascends, ready.ascent_pos]
    linarith [ready.le_span, ready.span_ge]
  opening_nonneg := by
    have steep := ready.steepness_ge
    have marginNonneg := ready.margin_nonneg
    have grossNonneg := book.gross_nonneg terms.spot terms.domestic
    positivity
  reach_le := by linarith [ready.span_le]
  high_le := by linarith [ready.steepness_mul_span_le, ready.ascent_ge]
  product_le := by
    have product := mul_le_mul ready.steepness_mul_span_le ready.span_le
      (zero_le_one.trans ready.span_ge) (by norm_num)
    linarith

/-- The residual of a problem in range keeps to its gauge. -/
theorem bounds [SummationOrder] [Rounding.Roomy]
    (ready : Ready terms book factor tolerance total margin)
    (fine : grain ≤ 1 / 10 ^ 28) (par : terms.AtPar)
    (totaled : book.totalIn terms.domestic terms.spot = .ok total)
    (margined : Margin.ofBook terms book = .ok margin) {accepted : Rat}
    (acceptedGe : 96 * steepness terms factor.toRat ^ 2 ≤
      10 ^ 6 * (ascent terms factor.toRat * accepted)) :
    (ready.gauge fine acceptedGe).Bounds ((Problem.ofTerms terms book).residual total factor) where
  evaluates := by
    intro cash within
    obtain ⟨found, evaluated⟩ := ready.exists_residual fine par totaled margined within
    refine ⟨found, evaluated, (ready.abs_residual_le fine par totaled within evaluated).trans ?_⟩
    have reach : |cash.toRat| ≤ 19 * span terms book factor margin := within
    calc steepness terms factor.toRat *
          (2 * book.gross terms.spot terms.domestic + |cash.toRat| + 2)
        ≤ steepness terms factor.toRat * (21 * span terms book factor margin) := by
          apply mul_le_mul_of_nonneg_left _ (zero_le_one.trans ready.steepness_ge)
          linarith [ready.le_span, ready.margin_nonneg]
      _ = 21 * (steepness terms factor.toRat * span terms book factor margin) := by ring
  ascends := fun fewerWithin moreWithin ordered evaluated evaluated' =>
    ready.residual_sub fine par totaled fewerWithin moreWithin ordered evaluated evaluated'

/-- **The search of a problem in range comes to a conclusion.** -/
theorem seek_concludes [SummationOrder] [Rounding.Roomy]
    (ready : Ready terms book factor tolerance total margin)
    (fine : grain ≤ 1 / 10 ^ 28) (par : terms.AtPar)
    (totaled : book.totalIn terms.domestic terms.spot = .ok total)
    (margined : Margin.ofBook terms book = .ok margin) {accepted : Decimal}
    (acceptedGe : 96 * steepness terms factor.toRat ^ 2 ≤
      10 ^ 6 * (ascent terms factor.toRat * accepted.toRat)) (maxIterations : Nat) :
    Concludes (seek ((Problem.ofTerms terms book).residual total factor) accepted margin
      maxIterations) := by
  have within := (ready.gauge fine acceptedGe).start_le_reach
  have grossNonneg := book.gross_nonneg terms.spot terms.domestic
  refine Deposit.seek_concludes (ready.bounds fine par totaled margined acceptedGe) le_rfl ?_ ?_ _
  · rw [abs_of_nonneg ready.margin_nonneg]
    change _ ≤ 3 * (1 + book.gross terms.spot terms.domestic + margin.toRat)
    linarith
  · intro cash found cashLe evaluated
    have start : |cash.toRat| ≤ 3 * (1 + book.gross terms.spot terms.domestic + margin.toRat) :=
      cashLe
    refine (ready.abs_residual_le fine par totaled (cashLe.trans within) evaluated).trans ?_
    change _ ≤ 5 * (steepness terms factor.toRat *
      (1 + book.gross terms.spot terms.domestic + margin.toRat))
    rw [mul_left_comm]
    apply mul_le_mul_of_nonneg_left _ (zero_le_one.trans ready.steepness_ge)
    linarith [ready.margin_nonneg]

/-! ## The accepted residual -/

omit [Rounding.Lawful grain] in
private theorem acceptance_pos (ready : Ready terms book factor tolerance total margin) :
    1 ≤ 10 ^ 4 * (tolerance.toRat * max (|total.toRat| + margin.toRat) 1) := by
  have ascentPos := ready.ascent_pos
  have squared : 1 ≤ steepness terms factor.toRat ^ 2 := one_le_pow₀ ready.steepness_ge
  have scaled : 1 ≤ ascent terms factor.toRat *
      (10 ^ 4 * (tolerance.toRat * max (|total.toRat| + margin.toRat) 1)) := by
    linarith [ready.coarse]
  have positive : 0 ≤ 10 ^ 4 * (tolerance.toRat * max (|total.toRat| + margin.toRat) 1) :=
    (pos_of_mul_pos_right (zero_lt_one.trans_le scaled) ascentPos.le).le
  exact scaled.trans (mul_le_of_le_one_left positive ready.ascent_le)

omit [Rounding.Lawful grain] in
private theorem tolerance_nonneg (ready : Ready terms book factor tolerance total margin) :
    0 ≤ tolerance.toRat := by
  have positive := ready.acceptance_pos
  by_contra negative
  have product := mul_nonpos_of_nonpos_of_nonneg (not_le.1 negative).le
    (zero_le_one.trans (le_max_right (|total.toRat| + margin.toRat) 1))
  linarith

/-- A problem in range accepts residuals that are large enough for its gauge. -/
theorem exists_acceptance [SummationOrder] [Rounding.Roomy]
    (ready : Ready terms book factor tolerance total margin)
    (fine : grain ≤ 1 / 10 ^ 28)
    (totaled : book.totalIn terms.domestic terms.spot = .ok total) :
    ∃ accepted, acceptance tolerance total margin = .ok accepted ∧
      96 * steepness terms factor.toRat ^ 2 ≤
        10 ^ 6 * (ascent terms factor.toRat * accepted.toRat) := by
  have sized : |total.toRat| + margin.toRat ≤ 10 ^ 13 := by
    linarith [ready.abs_total_le fine totaled, ready.le_span, ready.span_le, ready.margin_nonneg,
      book.gross_nonneg terms.spot terms.domestic]
  obtain ⟨accepted, acceptedIs, acceptedGe⟩ := Deposit.exists_acceptance fine ready.tolerance_nonneg
    ready.tolerance_le ready.margin_nonneg sized (by linarith [ready.acceptance_pos])
  refine ⟨accepted, acceptedIs, ?_⟩
  linarith [mul_le_mul_of_nonneg_left acceptedGe ready.ascent_pos.le, ready.coarse,
    sq_nonneg (steepness terms factor.toRat)]

end Ready

/-! ## The deposit -/

variable {grain : Rat} [Rounding.Lawful grain] {terms : Terms} {book : Book} {target : Float}
  {effort : Effort} {decimal total margin factor : Decimal}

include grain in
/-- A target from nought to ten has a factor. -/
theorem exists_factor [Rounding.Roomy] (decimalNonneg : 0 ≤ decimal.toRat)
    (decimalLe : decimal.toRat ≤ 10) :
    ∃ factor, Decimal.add 1 decimal = .ok factor ∧ 0 ≤ factor.toRat ∧ factor.toRat ≤ 11 := by
  have sumNonneg : 0 ≤ (1 : Decimal).toRat + decimal.toRat := by
    rw [Decimal.toRat_one]
    linarith
  have sum : |(1 : Decimal).toRat + decimal.toRat| ≤ ((11 : Nat) : Rat) := by
    rw [abs_of_nonneg sumNonneg, Decimal.toRat_one]
    push_cast
    linarith
  obtain ⟨factor, factored, factorLe⟩ := Decimal.exists_add (by decide) sum
  exact ⟨factor, factored, Rounding.fit_nonneg sumNonneg (Decimal.add_ok.1 factored),
    (le_abs_self _).trans factorLe⟩

/-- The factor of a target from nought to ten is one more than it, within a rounding. -/
theorem factor_bounds [Rounding.Roomy] (fine : grain ≤ 1 / 10 ^ 28)
    (decimalNonneg : 0 ≤ decimal.toRat) (decimalLe : decimal.toRat ≤ 10)
    (factored : Decimal.add 1 decimal = .ok factor) :
    1 ≤ factor.toRat ∧ factor.toRat ≤ 11 ∧ factor.toRat ≤ 1 + decimal.toRat + 12 / 10 ^ 28 := by
  obtain ⟨found, added, -, le⟩ := exists_factor decimalNonneg decimalLe
  obtain rfl := Except.ok.inj (factored.symm.trans added)
  have factorFit := Decimal.add_ok.1 factored
  have error := Rounding.Lawful.fit_error factorFit
  rw [Decimal.toRat_one, abs_of_nonneg (by linarith : 0 ≤ 1 + decimal.toRat)] at error
  have scaled := mul_le_mul_of_nonneg_right fine (by positivity : 0 ≤ 1 + (1 + decimal.toRat))
  have ge : (1 : Decimal).toRat ≤ factor.toRat := Rounding.le_fit (by linarith) factorFit
  rw [Decimal.toRat_one] at ge
  exact ⟨ge, le, by linarith [(abs_le.1 error).2]⟩

/-- **The deposit of a problem in range comes to a conclusion.** -/
theorem InRange.solve_concludes [SummationOrder] [Rounding.Roomy]
    (inRange : InRange terms book factor effort.tolerance total margin)
    (fine : grain ≤ 1 / 10 ^ 28) (par : terms.AtPar) (targetIs : target? target = some decimal)
    (decimalNonneg : 0 ≤ decimal.toRat) (decimalLe : decimal.toRat ≤ 10)
    (totaled : book.totalIn terms.domestic terms.spot = .ok total)
    (margined : Margin.ofBook terms book = .ok margin)
    (factored : Decimal.add 1 decimal = .ok factor) :
    Concludes (solve (Problem.ofTerms terms book) target effort) := by
  obtain ⟨found, added, factorNonneg, factorLe⟩ := exists_factor decimalNonneg decimalLe
  obtain rfl := Except.ok.inj (factored.symm.trans added)
  have ready : Ready terms book factor effort.tolerance total margin :=
    ⟨inRange, factorNonneg, factorLe, Margin.ofBook_nonneg inRange.multiplier_nonneg margined⟩
  obtain ⟨accepted, acceptedIs, acceptedGe⟩ := ready.exists_acceptance fine totaled
  rw [solve_eq targetIs totaled margined factored, acceptedIs]
  split
  · exact .inl ⟨0, rfl⟩
  · exact ready.seek_concludes fine par totaled margined acceptedGe _

end Collateral.Deposit
