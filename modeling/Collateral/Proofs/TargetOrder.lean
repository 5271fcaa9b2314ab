import Collateral.Proofs.BinaryDecimal
import Collateral.Proofs.Range
import Collateral.Proofs.Timeline
import Collateral.Settings.Basic

/-!
Contract: the deposits for two targets of one book.

Where a unit of domestic cash costs less than one unit in margin, the exact residual rises with the
cash. So of two accepted amounts the one for the lower target exceeds the other by no more than what
both searches accept, what is flat and what rounding moves. Nothing of the way in which a search comes
to its answer enters, and for one target the answers of any two searches lie as close together.

Owns: the distance of accepted amounts at two factors, and of solved deposits for two targets.
-/

namespace Collateral.Deposit

section Accepted

variable [Rounding] {grain : Rat} [Rounding.Lawful grain] {terms : Terms} {book : Book}
  {factor factor' accepted accepted' cash cash' : Decimal}

/-- **The amount accepted at the smaller factor exceeds the other by little,** in proportion to how
fast the residual rises. -/
theorem Accepted.ascent_mul_sub_le (small : grain ≤ 1) (par : terms.AtPar)
    (multiplierNonneg : 0 ≤ terms.multiplier.toRat) (factorNonneg : 0 ≤ factor.toRat)
    (factorLe : factor.toRat ≤ factor'.toRat) (holds : Accepted terms book factor accepted cash)
    (holds' : Accepted terms book factor' accepted' cash') (ordered : cash'.toRat ≤ cash.toRat) :
    ascent terms factor.toRat * (cash.toRat - cash'.toRat) ≤
      accepted.toRat + accepted'.toRat + coverCost terms factor.toRat * (1 / 10 ^ 6) +
        (1 + coverCost terms factor.toRat) * (blur grain terms book factor.toRat cash.toRat +
          blur grain terms book factor'.toRat cash'.toRat) := by
  have factorNonneg' := factorNonneg.trans factorLe
  obtain ⟨others, balance, built, added, -, -, above⟩ :=
    holds.exact small par multiplierNonneg factorNonneg
  obtain ⟨others', balance', built', added', exactNonneg', -, below⟩ :=
    holds'.exact small par multiplierNonneg factorNonneg'
  -- Both amounts meet the same foreign buckets.
  obtain rfl := Except.ok.inj (built.symm.trans built')
  have balances : balance'.toRat ≤ balance.toRat :=
    Rounding.Lawful.fit_mono (add_le_add_right ordered _) (Decimal.add_ok.1 added')
      (Decimal.add_ok.1 added)
  have moved : balance.toRat - balance'.toRat ≤ cash.toRat - cash'.toRat +
      (blur grain terms book factor.toRat cash.toRat +
        blur grain terms book factor'.toRat cash'.toRat) := by
    have near := (abs_le.1 ((balance_near par added).trans
      (grain_le_blur book multiplierNonneg factorNonneg _))).2
    have near' := (abs_le.1 ((balance_near par added').trans
      (grain_le_blur book multiplierNonneg factorNonneg' _))).1
    linarith
  have rise : factor.toRat * Margin.exactAt terms others balance ≤
      factor.toRat * Margin.exactAt terms others balance' +
        coverCost terms factor.toRat * (balance.toRat - balance'.toRat + 1 / 10 ^ 6) := by
    have scaled := mul_le_mul_of_nonneg_left
      (Margin.exactAt_le_rate multiplierNonneg built balances) factorNonneg
    rwa [mul_add, ← mul_assoc factor.toRat, ← coverCost] at scaled
  have cost := mul_le_mul_of_nonneg_left moved (coverCost_nonneg multiplierNonneg factorNonneg)
  have demanded := mul_le_mul_of_nonneg_right factorLe exactNonneg'
  have aboveLe := (abs_le.1 above).2
  have belowLe := (abs_le.1 below).1
  unfold exactResidual at aboveLe belowLe
  unfold ascent
  linarith

end Accepted

/-! ## Sizes -/

/-- The residual that an effort accepts as zero, before it is rounded. -/
def Effort.accepts (effort : Effort) (total margin : Decimal) : Rat :=
  effort.tolerance.toRat * max (|total.toRat| + margin.toRat) 1

/-- Sizes of books and terms with which rounding hardly moves a residual. -/
structure Modest (terms : Terms) (book : Book) : Prop where
  entries_le : book.balances.entries.length ≤ 1000
  highest_le : terms.haircuts.highest ≤ 1
  multiplier_pos : 0 < terms.multiplier.toRat
  multiplier_le : terms.multiplier.toRat ≤ 10

section Sizes

variable [Rounding] {grain : Rat} [Rounding.Lawful grain] {terms : Terms} {book : Book}

omit [Rounding.Lawful grain] in
/-- What keeps all numbers in a residual within `7 * 10 ^ 17`. -/
private theorem Modest.residualSize_le (modest : Modest terms book) {factor cash : Rat}
    (factorLe : factor ≤ 11) (held : book.gross terms.spot terms.domestic + |cash| ≤ 10 ^ 12) :
    residualSize terms book factor cash ≤ 7 * 10 ^ 17 := by
  have entries : ((book.balances.entries.length + 1 : Nat) : Rat) ≤ 1001 := by
    exact_mod_cast Nat.succ_le_succ modest.entries_le
  have peakNonneg : 0 ≤ book.gross terms.spot terms.domestic + |cash| :=
    add_nonneg (book.gross_nonneg _ _) (abs_nonneg _)
  have highestLe := modest.highest_le
  have multiplierNonneg := modest.multiplier_pos.le
  have multiplierLe := modest.multiplier_le
  have highestNonneg := terms.haircuts.highest_nonneg
  calc residualSize terms book factor cash
      = 2 + (book.gross terms.spot terms.domestic + |cash|) + factor *
          (1 + terms.multiplier.toRat * (1 + ((book.balances.entries.length + 1 : Nat) : Rat) *
            (1 + terms.haircuts.highest *
              (1 + 2 * (1 + 3 * (book.gross terms.spot terms.domestic + |cash|)))))) := by
        rw [residualSize, Margin.size, Netting.chargeSize, ← add_assoc]
    _ ≤ 2 + 10 ^ 12 + 11 * (1 + 10 * (1 + 1001 * (1 + 1 * (1 + 2 * (1 + 3 * 10 ^ 12))))) := by
        gcongr
    _ ≤ 7 * 10 ^ 17 := by norm_num

private theorem Modest.blur_le (modest : Modest terms book) (fine : grain ≤ 1 / 10 ^ 28)
    {factor cash : Rat} (factorLe : factor ≤ 11)
    (held : book.gross terms.spot terms.domestic + |cash| ≤ 10 ^ 12) :
    blur grain terms book factor cash ≤ 15 / 10 ^ 8 := by
  have blurLe := blur_le_of_residualSize_le fine modest.entries_le (by norm_num)
    (modest.residualSize_le factorLe held)
  linarith

/-- An accepted residual is not much more than what the effort accepts, unless that is large. -/
private theorem acceptance_le {effort : Effort} {total margin accepted : Decimal}
    (fine : grain ≤ 1 / 10 ^ 28) (toleranceNonneg : 0 ≤ effort.tolerance.toRat)
    (marginNonneg : 0 ≤ margin.toRat) (sized : effort.accepts total margin ≤ 10 ^ 12)
    (acceptedIs : acceptance effort.tolerance total margin = .ok accepted) :
    accepted.toRat ≤ effort.accepts total margin + 1 / 10 ^ 15 := by
  obtain ⟨sum, added, scaled⟩ := acceptance_ok.1 acceptedIs
  have sizeNonneg : 0 ≤ |total.toRat| + margin.toRat := add_nonneg (abs_nonneg _) marginNonneg
  have scaleGe := le_max_right (|total.toRat| + margin.toRat) 1
  have sizeLe := le_max_left (|total.toRat| + margin.toRat) 1
  have sumError := Rounding.Lawful.fit_error (Decimal.add_ok.1 added)
  rw [Decimal.toRat_abs, abs_of_nonneg sizeNonneg] at sumError
  have sumGrain := mul_le_mul_of_nonneg_right fine
    (by positivity : 0 ≤ 1 + (|total.toRat| + margin.toRat))
  have scaleLe : (max sum 1).toRat ≤
      (1 + 2 / 10 ^ 28) * max (|total.toRat| + margin.toRat) 1 := by
    rw [Decimal.toRat_max, Decimal.toRat_one]
    apply max_le
    · linarith [(abs_le.1 sumError).2]
    · linarith
  have product := mul_le_mul_of_nonneg_left scaleLe toleranceNonneg
  have productNonneg : 0 ≤ effort.tolerance.toRat * (max sum 1).toRat := by
    apply mul_nonneg toleranceNonneg
    rw [Decimal.toRat_max, Decimal.toRat_one]
    exact zero_le_one.trans (le_max_right _ _)
  have error := Rounding.Lawful.fit_error (Decimal.mul_ok.1 scaled)
  rw [abs_of_nonneg productNonneg] at error
  have errorGrain := mul_le_mul_of_nonneg_right fine
    (by positivity : 0 ≤ 1 + effort.tolerance.toRat * (max sum 1).toRat)
  unfold Effort.accepts at sized ⊢
  linarith [(abs_le.1 error).2]

end Sizes

/-! ## Two solved deposits -/

section Solved

variable [Rounding] [SummationOrder] {grain : Rat} [Rounding.Lawful grain] [Rounding.Roomy]
  {terms : Terms} {book : Book} {target target' : Float} {effort effort' : Effort}
  {decimal decimal' total margin cash cash' : Decimal}

omit [Rounding.Roomy] in
/-- A solved deposit of a book with a margin has been accepted at the factor of its target. -/
private theorem accepted_of_solve (targetIs : target? target = some decimal)
    (totaled : book.totalIn terms.domestic terms.spot = .ok total)
    (margined : Margin.ofBook terms book = .ok margin) (some : margin ≠ 0)
    (solved : solve (Problem.ofTerms terms book) target effort = .ok cash) :
    ∃ factor accepted, Decimal.add 1 decimal = .ok factor ∧
      acceptance effort.tolerance total margin = .ok accepted ∧
      Accepted terms book factor accepted cash := by
  obtain ⟨margin', margined', outcome⟩ := sought_of_solve solved
  obtain rfl := Except.ok.inj (margined.symm.trans margined')
  rcases outcome with ⟨none, -⟩ | ⟨-, total', factor, accepted, sought, holds⟩
  · exact absurd none some
  · obtain ⟨decimal', targetIs', factored⟩ := sought.factored
    obtain rfl := Option.some.inj (targetIs.symm.trans targetIs')
    obtain rfl := Except.ok.inj (totaled.symm.trans sought.totaled)
    exact ⟨factor, accepted, factored, sought.accepted_eq, holds⟩

/-- One direction: how much the deposit for the lower target can exceed the other. -/
private theorem Modest.solve_sub_le (modest : Modest terms book) (fine : grain ≤ 1 / 10 ^ 28)
    (par : terms.AtPar) (targetIs : target? target = some decimal)
    (targetIs' : target? target' = some decimal') (decimalNonneg : 0 ≤ decimal.toRat)
    (decimalsLe : decimal.toRat ≤ decimal'.toRat) (decimalLe' : decimal'.toRat ≤ 10)
    (ascends : coverCost terms (1 + decimal.toRat) < 1)
    (totaled : book.totalIn terms.domestic terms.spot = .ok total)
    (margined : Margin.ofBook terms book = .ok margin) (some : margin ≠ 0)
    (toleranceNonneg : 0 ≤ effort.tolerance.toRat)
    (toleranceNonneg' : 0 ≤ effort'.tolerance.toRat)
    (solved : solve (Problem.ofTerms terms book) target effort = .ok cash)
    (solved' : solve (Problem.ofTerms terms book) target' effort' = .ok cash')
    (held : book.gross terms.spot terms.domestic + |cash.toRat| + |cash'.toRat| ≤ 10 ^ 12) :
    (1 - coverCost terms (1 + decimal.toRat)) * (cash.toRat - cash'.toRat) ≤
      effort.accepts total margin + effort'.accepts total margin + 2 / 10 ^ 6 := by
  have multiplierNonneg := modest.multiplier_pos.le
  have marginNonneg := Margin.ofBook_nonneg multiplierNonneg margined
  have scaleNonneg : 0 ≤ max (|total.toRat| + margin.toRat) 1 :=
    zero_le_one.trans (le_max_right _ _)
  have acceptsNonneg : 0 ≤ effort.accepts total margin := mul_nonneg toleranceNonneg scaleNonneg
  have acceptsNonneg' : 0 ≤ effort'.accepts total margin :=
    mul_nonneg toleranceNonneg' scaleNonneg
  have grossNonneg := book.gross_nonneg terms.spot terms.domestic
  have costNonneg : 0 ≤ coverCost terms (1 + decimal.toRat) :=
    coverCost_nonneg multiplierNonneg (by linarith)
  rcases le_total cash.toRat cash'.toRat with fewer | more
  · linarith [mul_nonneg (sub_nonneg.2 ascends.le) (sub_nonneg.2 fewer)]
  have apartNonneg : 0 ≤ cash.toRat - cash'.toRat := sub_nonneg.2 more
  have apartLe : cash.toRat - cash'.toRat ≤ 10 ^ 12 := by
    linarith [le_abs_self cash.toRat, neg_le_abs cash'.toRat]
  -- An effort that accepts as much as all the cash has nothing to answer for.
  rcases le_total (10 ^ 12) (effort.accepts total margin + effort'.accepts total margin) with
    coarse | fineEnough
  · linarith [mul_nonneg costNonneg apartNonneg]
  obtain ⟨factor, accepted, factored, acceptedIs, holds⟩ :=
    accepted_of_solve targetIs totaled margined some solved
  obtain ⟨factor', accepted', factored', acceptedIs', holds'⟩ :=
    accepted_of_solve targetIs' totaled margined some solved'
  obtain ⟨factorGe, factorLe, factorNear⟩ :=
    factor_bounds fine decimalNonneg (decimalsLe.trans decimalLe') factored
  obtain ⟨factorGe', factorLe', -⟩ :=
    factor_bounds fine (decimalNonneg.trans decimalsLe) decimalLe' factored'
  have factorNonneg := zero_le_one.trans factorGe
  have factorNonneg' := zero_le_one.trans factorGe'
  have factors : factor.toRat ≤ factor'.toRat :=
    Rounding.Lawful.fit_mono (add_le_add_right decimalsLe _) (Decimal.add_ok.1 factored)
      (Decimal.add_ok.1 factored')
  have apart := holds.ascent_mul_sub_le (fine.trans (by norm_num)) par multiplierNonneg
    factorNonneg factors holds' more
  have acceptedLe := acceptance_le fine toleranceNonneg marginNonneg (by linarith) acceptedIs
  have acceptedLe' := acceptance_le fine toleranceNonneg' marginNonneg (by linarith) acceptedIs'
  have blurLe := modest.blur_le fine factorLe
    (by linarith [abs_nonneg cash'.toRat] :
      book.gross terms.spot terms.domestic + |cash.toRat| ≤ 10 ^ 12)
  have blurLe' := modest.blur_le fine factorLe'
    (by linarith [abs_nonneg cash.toRat] :
      book.gross terms.spot terms.domestic + |cash'.toRat| ≤ 10 ^ 12)
  have coverLe : coverCost terms factor.toRat ≤
      coverCost terms (1 + decimal.toRat) + 12 / 10 ^ 27 := by
    have unit : terms.multiplier.toRat * (Margin.slot terms).rate.toRat ≤ 10 * 1 := by
      apply mul_le_mul modest.multiplier_le _ (Margin.slot_rate_bounds terms).1 (by norm_num)
      exact (Margin.slot_rate_bounds terms).2.trans modest.highest_le
    have unitNonneg := mul_nonneg multiplierNonneg (Margin.slot_rate_bounds terms).1
    have scaled := mul_le_mul_of_nonneg_right factorNear unitNonneg
    unfold coverCost
    linarith
  have coverMoved := mul_le_mul_of_nonneg_right coverLe apartNonneg
  have blurred : (1 + coverCost terms factor.toRat) *
      (blur grain terms book factor.toRat cash.toRat +
        blur grain terms book factor'.toRat cash'.toRat) ≤ (1 + 2) * (3 / 10 ^ 7) := by
    apply mul_le_mul _ (by linarith) _ (by norm_num)
    · linarith
    · exact add_nonneg (blur_nonneg multiplierNonneg factorNonneg _)
        (blur_nonneg multiplierNonneg factorNonneg' _)
  unfold ascent at apart
  linarith

end Solved

variable {terms : Terms} {book : Book} {target target' : Float} {effort effort' : Effort}
  {decimal total margin cash cash' : Decimal}

/-- **A higher target asks for no less cash, whatever the efforts of the two searches.** The deposit
for the lower target exceeds the other by no more than what both efforts accept, at the rate at which
the residual rises. For one target, that bounds how far any two answers are apart. -/
theorem solve_sub_le_of_target_le [SummationOrder] (modest : Modest terms book)
    (par : terms.AtPar) (nonneg : (0 : Float) ≤ target) (ordered : target ≤ target')
    (le : target' ≤ 10) (targetIs : target? target = some decimal)
    (ascends : coverCost terms (1 + decimal.toRat) < 1)
    (totaled : book.totalIn terms.domestic terms.spot = .ok total)
    (margined : Margin.ofBook terms book = .ok margin) (some : margin ≠ 0)
    (tolerancePos : 0 < effort.tolerance.toRat) (tolerancePos' : 0 < effort'.tolerance.toRat)
    (solved : solve (Problem.ofTerms terms book) target effort = .ok cash)
    (solved' : solve (Problem.ofTerms terms book) target' effort' = .ok cash')
    (held : book.gross terms.spot terms.domestic + |cash.toRat| + |cash'.toRat| ≤ 10 ^ 12) :
    (1 - coverCost terms (1 + decimal.toRat)) * (cash.toRat - cash'.toRat) ≤
        effort.accepts total margin + effort'.accepts total margin + 2 / 10 ^ 6 ∧
      (target = target' →
        (1 - coverCost terms (1 + decimal.toRat)) * |cash.toRat - cash'.toRat| ≤
          effort.accepts total margin + effort'.accepts total margin + 2 / 10 ^ 6) := by
  have zeroIs : target? 0 = Option.some 0 := by decide +kernel
  have tenIs : target? 10 = Option.some (.signed false 10 0 (by decide) (by decide)) := by
    decide +kernel
  obtain ⟨decimal', -, -, targetIs', -⟩ := solve_ok solved'
  have least := Decimal.le_iff.1 (target?_mono nonneg zeroIs targetIs)
  have targets := Decimal.le_iff.1 (target?_mono ordered targetIs targetIs')
  have most := Decimal.le_iff.1 (target?_mono le targetIs' tenIs)
  rw [Decimal.toRat_zero] at least
  rw [Decimal.toRat_signed] at most
  have decimalLe' : decimal'.toRat ≤ 10 := by simpa using most
  have apart := modest.solve_sub_le le_rfl par targetIs targetIs' least targets decimalLe' ascends
    totaled margined some tolerancePos.le tolerancePos'.le solved solved' held
  refine ⟨apart, fun same => ?_⟩
  subst same
  have apart' := modest.solve_sub_le le_rfl par targetIs targetIs least le_rfl
    (targets.trans decimalLe') ascends totaled margined some tolerancePos'.le tolerancePos.le
    solved' solved (by linarith)
  rcases abs_cases (cash.toRat - cash'.toRat) with ⟨same, -⟩ | ⟨flipped, -⟩
  · rwa [same]
  · rw [flipped]
    linarith

/-! ## Two searches for one book -/

open Projection (poundHaircuts whole)

/-- Euros stand at two dollars, and a fifth is their haircut. -/
private def twoDollarEuros : Terms :=
  ⟨⟨"USD"⟩, Spot.quotes ⟨⟨"USD"⟩, Table.ofList [(⟨⟨"EUR"⟩, ⟨"USD"⟩⟩, 2)]⟩, poundHaircuts, 1⟩

/-- The dollars do not cover the euros. -/
private def owingTwoHundred : Book :=
  ⟨Table.ofList [(⟨"USD"⟩, whole 150), (⟨"EUR"⟩, -whole 100)]⟩

/-- An effort that accepts five eighths of the size of a book. -/
private def rough : Effort := ⟨Figure.value ⟨false, 625, 3, by decide +kernel⟩, 20⟩

private def precise : Effort := ({} : Settings).search.effort

/-- The rough search stops at sixty for the higher target, where the precise one finds a hundred for
the lower target. The residual rises by three quarters, and fifty were acceptable. -/
theorem solve_sub_le_of_target_le_rough :
    solve (Problem.ofTerms twoDollarEuros owingTwoHundred) 0.25 precise = .ok (whole 100) ∧
      solve (Problem.ofTerms twoDollarEuros owingTwoHundred) 0.5 rough = .ok (whole 60) ∧
      precise.accepts (-whole 50) (whole 30) = 8 / 10 ^ 5 ∧
      rough.accepts (-whole 50) (whole 30) = 50 ∧
      (1 - 1 / 4) * (100 - 60 : Rat) ≤ 8 / 10 ^ 5 + 50 + 2 / 10 ^ 6 := by
  have par : twoDollarEuros.AtPar := Spot.quotes_atPar (by rw [twoDollarEuros])
  have modest : Modest twoDollarEuros owingTwoHundred :=
    ⟨by decide +kernel, by decide +kernel, by decide +kernel, by decide +kernel⟩
  have solved : solve (Problem.ofTerms twoDollarEuros owingTwoHundred) 0.25 precise =
    .ok (whole 100) := by decide +kernel
  have solved' : solve (Problem.ofTerms twoDollarEuros owingTwoHundred) 0.5 rough =
    .ok (whole 60) := by decide +kernel
  have targetIs : target? 0.25 = some (Figure.value ⟨false, 25, 2, by decide⟩) := by decide +kernel
  have figures : precise.accepts (-whole 50) (whole 30) = 8 / 10 ^ 5 ∧
      rough.accepts (-whole 50) (whole 30) = 50 ∧ (whole 100).toRat = 100 ∧
      (whole 60).toRat = 60 ∧
      coverCost twoDollarEuros (1 + (Figure.value ⟨false, 25, 2, by decide⟩).toRat) = 1 / 4 := by
    decide +kernel
  obtain ⟨accepts, accepts', cash, cash', cost⟩ := figures
  have apart := (solve_sub_le_of_target_le modest par (by decide +kernel) (by decide +kernel)
    (by decide +kernel) targetIs (by rw [cost]; norm_num)
    (by decide +kernel : owingTwoHundred.totalIn twoDollarEuros.domestic twoDollarEuros.spot =
      .ok (-whole 50))
    (by decide +kernel : Margin.ofBook twoDollarEuros owingTwoHundred = .ok (whole 30))
    (by decide +kernel) (by decide +kernel) (by decide +kernel) solved solved'
    (by rw [cash, cash']; decide +kernel)).1
  rw [cost, cash, cash', accepts, accepts'] at apart
  exact ⟨solved, solved', accepts, accepts', apart⟩

end Collateral.Deposit
