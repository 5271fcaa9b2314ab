import Collateral.Proofs.BoundedSearch

/-!
Contract: searches that converge.

Where the residual rises at least as fast as the cash and hardly more than half as fast again, every
step moves the current point against its residual by a share that is near one. A secant moves it by one
over a slope. A midpoint is only taken where the secant would have left the bracket, so the other end is
no further than that, and no nearer than one over the steepest slope. Either way no more than four
fifths of the residual remain, and the steps that a search needs grow with the logarithm of its second
residual.

Owns: tame residuals, the share of one step, what it leaves of the residual, and the steps that suffice.

Does not own: why a residual is tame.
-/

namespace Collateral.Deposit

namespace Gauge

variable {grain : Rat} {gauge : Gauge grain} {residual : Decimal → Except Failure Decimal}
  {previous current other : Point}

/-! ## Tame residuals -/

/-- A residual that rises at least as fast as the cash and hardly more than half as fast again, with a
noise that is small against the distance of the points of its search, as the grain is. -/
structure Tame (gauge : Gauge grain) (residual : Decimal → Except Failure Decimal) : Prop where
  rises : Ascends residual gauge.reach 1 (1501 / 1000) (gauge.slack / 50)
  coarse : 200 * (grain * (1 + 4 * gauge.reach)) ≤ gauge.slack
  coarse_sq : 100 * grain ≤ 8 * gauge.slack ^ 2

/-- The line through two points that lie apart rises almost as tamely. -/
theorem Tame.slope (tame : gauge.Tame residual) (previousHolds : gauge.Holds residual previous)
    (currentHolds : gauge.Holds residual current)
    (apart : gauge.apart ≤ |current.cash.toRat - previous.cash.toRat|) :
    ∃ slope, 199 / 200 ≤ slope ∧ slope ≤ 753 / 500 ∧
      current.residual.toRat - previous.residual.toRat =
        slope * (current.cash.toRat - previous.cash.toRat) := by
  have small : gauge.slack / 50 ≤ 1 / 200 * |current.cash.toRat - previous.cash.toRat| := by
    linarith [gauge.slack_le_apart]
  obtain ⟨slope, least, most, rises⟩ := tame.rises.slope previousHolds.evaluated
    currentHolds.evaluated previousHolds.within currentHolds.within
    (gauge.apart_pos.trans_le apart) small
  exact ⟨slope, by linarith, by linarith, rises⟩

/-! ## The share of a step -/

/-- A secant moves the current point by six to eleven tenths of its residual. -/
theorem Tame.exists_secant [Rounding] [Rounding.Lawful grain] [Rounding.Roomy]
    (tame : gauge.Tame residual) (bounds : gauge.Bounds residual)
    (previousHolds : gauge.Holds residual previous)
    (currentRejects : gauge.Rejects residual current)
    (apart : gauge.apart ≤ |current.cash.toRat - previous.cash.toRat|) :
    ∃ candidate share, secant? previous current = .ok (some candidate) ∧
      candidate.toRat = current.cash.toRat - share * current.residual.toRat ∧
      3 / 5 ≤ share ∧ share ≤ 11 / 10 := by
  obtain ⟨slope, least, most, rises⟩ := tame.slope previousHolds currentRejects.toHolds apart
  have spans : Point.Spans grain (1 / 100) slope previous current :=
    bounds.spans previousHolds currentRejects apart (by norm_num) (by linarith [tame.coarse])
      (by linarith [tame.coarse_sq]) (by linarith [gauge.ascent_le])
      (by linarith [gauge.steepness_ge]) rises
  obtain ⟨candidate, share, secantIs, moves, shareGe, shareLe⟩ := spans.exists_secant
  have sharePos : 0 < share := by
    by_contra notPositive
    linarith [mul_nonpos_of_nonpos_of_nonneg (not_lt.1 notPositive) spans.slope_pos.le]
  have onMost := mul_le_mul_of_nonneg_left most sharePos.le
  have onLeast := mul_le_mul_of_nonneg_left least sharePos.le
  exact ⟨candidate, share, secantIs, moves, by linarith, by linarith⟩

/-- The other end of a bracket lies against the residual of the current one, and not near. -/
private theorem Tame.exists_crossing (tame : gauge.Tame residual)
    (currentHolds : gauge.Holds residual current) (otherHolds : gauge.Holds residual other)
    (opposite : current.residual.toRat * other.residual.toRat < 0)
    (apart : gauge.apart ≤ |current.cash.toRat - other.cash.toRat|) :
    ∃ crossing, other.cash.toRat = current.cash.toRat - crossing * current.residual.toRat ∧
      663 / 1000 ≤ crossing := by
  obtain ⟨slope, least, most, rises⟩ := tame.slope otherHolds currentHolds apart
  have nonzero : current.residual.toRat ≠ 0 := left_ne_zero_of_mul opposite.ne
  have slopePos : 0 < slope := by linarith
  have ratio : other.residual.toRat / current.residual.toRat ≤ 0 := by
    rw [div_nonpos_iff]
    rcases mul_neg_iff.1 opposite with ⟨positive, negative⟩ | ⟨negative, positive⟩
    · exact .inr ⟨negative.le, positive.le⟩
    · exact .inl ⟨positive.le, negative.le⟩
  refine ⟨(1 - other.residual.toRat / current.residual.toRat) / slope, ?_, ?_⟩
  · rw [div_mul_eq_mul_div, sub_mul, div_mul_cancel₀ _ nonzero, one_mul, rises,
      mul_div_cancel_left₀ _ slopePos.ne', sub_sub_cancel]
  · rw [le_div_iff₀ slopePos]
    linarith

/-- An amount short of the other end lies strictly within the bracket. -/
private theorem between_of_short {x y candidate residual share crossing : Rat} (sharePos : 0 < share)
    (short : share < crossing) (nonzero : residual ≠ 0)
    (candidateIs : candidate = x - share * residual) (otherIs : y = x - crossing * residual) :
    min x y < candidate ∧ candidate < max x y := by
  rcases lt_or_gt_of_ne nonzero with negative | positive
  · have near := mul_neg_of_pos_of_neg sharePos negative
    have far := mul_lt_mul_of_neg_right short negative
    exact ⟨min_lt_iff.2 (.inl (by linarith)), lt_max_iff.2 (.inr (by linarith))⟩
  · have near := mul_pos sharePos positive
    have far := mul_lt_mul_of_pos_right short positive
    exact ⟨min_lt_iff.2 (.inr (by linarith)), lt_max_iff.2 (.inl (by linarith))⟩

/-- A midpoint that takes the place of a secant outside the bracket moves the current point by three to
six tenths of its residual. -/
private theorem Tame.midpoint_share (tame : gauge.Tame residual)
    (currentRejects : gauge.Rejects residual current) (otherHolds : gauge.Holds residual other)
    (opposite : current.residual.toRat * other.residual.toRat < 0)
    (apart : gauge.apart ≤ |current.cash.toRat - other.cash.toRat|) {candidate middle : Decimal}
    {share : Rat} (candidateIs : candidate.toRat = current.cash.toRat - share * current.residual.toRat)
    (shareGe : 3 / 5 ≤ share) (shareLe : share ≤ 11 / 10)
    (outside : ¬(min current.cash.toRat other.cash.toRat < candidate.toRat ∧
      candidate.toRat < max current.cash.toRat other.cash.toRat))
    (near : |middle.toRat - (current.cash.toRat + other.cash.toRat) / 2| ≤ gauge.slack) :
    ∃ share, 3 / 10 ≤ share ∧ share ≤ 6 / 10 ∧
      middle.toRat = current.cash.toRat - share * current.residual.toRat := by
  obtain ⟨crossing, otherIs, crossingGe⟩ :=
    tame.exists_crossing currentRejects.toHolds otherHolds opposite apart
  have nonzero : current.residual.toRat ≠ 0 := left_ne_zero_of_mul opposite.ne
  have crossingLe : crossing ≤ share := by
    by_contra short
    exact outside (between_of_short (by linarith) (not_le.1 short) nonzero candidateIs otherIs)
  have rounded : |(middle.toRat - (current.cash.toRat + other.cash.toRat) / 2) /
      current.residual.toRat| ≤ 1 / 32 := by
    rw [abs_div, div_le_iff₀ (abs_pos.2 nonzero)]
    linarith [gauge.apart_le_accepted', gauge.slack_le_apart, currentRejects.rejected]
  obtain ⟨roundedGe, roundedLe⟩ := abs_le.1 rounded
  refine ⟨crossing / 2 - (middle.toRat - (current.cash.toRat + other.cash.toRat) / 2) /
    current.residual.toRat, by linarith, by linarith, ?_⟩
  rw [sub_mul, div_mul_cancel₀ _ nonzero, otherIs]
  ring

/-! ## What a step leaves -/

/-- A step by such a share leaves no more than four fifths of the residual. -/
theorem Tame.abs_residual_le (tame : gauge.Tame residual)
    (previousRejects : gauge.Rejects residual previous) (currentHolds : gauge.Holds residual current)
    {share : Rat} (shareGe : 3 / 10 ≤ share) (shareLe : share ≤ 11 / 10)
    (moves : current.cash.toRat = previous.cash.toRat - share * previous.residual.toRat) :
    |current.residual.toRat| ≤ 4 / 5 * |previous.residual.toRat| := by
  have moved : current.cash.toRat - previous.cash.toRat = -(share * previous.residual.toRat) := by
    rw [moves]
    ring
  have apart : gauge.apart ≤ |current.cash.toRat - previous.cash.toRat| := by
    rw [moved, abs_neg, abs_mul, abs_of_nonneg (by linarith)]
    have scaled := mul_le_mul_of_nonneg_right shareGe (abs_nonneg previous.residual.toRat)
    linarith [gauge.apart_le_accepted', gauge.apart_pos, previousRejects.rejected]
  obtain ⟨slope, least, most, rises⟩ :=
    tame.slope previousRejects.toHolds currentHolds apart
  have remains : current.residual.toRat = (1 - slope * share) * previous.residual.toRat := by
    rw [moved] at rises
    linarith
  have least' : 199 / 200 * (3 / 10) ≤ slope * share :=
    mul_le_mul least shareGe (by norm_num) (by linarith)
  have most' : slope * share ≤ 753 / 500 * (11 / 10) :=
    mul_le_mul most shareLe (by linarith) (by norm_num)
  rw [remains, abs_mul]
  exact mul_le_mul_of_nonneg_right (abs_le.2 ⟨by linarith, by linarith⟩) (abs_nonneg _)

end Gauge

/-! ## The search -/

section Search

variable [Rounding] {grain : Rat} [Rounding.Lawful grain] [Rounding.Roomy] {gauge : Gauge grain}
  {residual : Decimal → Except Failure Decimal} {first second : Point} {search : Search}
  {accepted : Decimal}

omit [Rounding] [Rounding.Lawful grain] [Rounding.Roomy] in
/-- A known bracket has the current point at one end, and at the other a point on the other side of
zero. -/
private theorem Search.Within.exists_other (within : search.Within gauge residual first second)
    (bounds : gauge.Bounds residual) (rejected : gauge.accepted < |search.current.residual.toRat|)
    {low high : Decimal} (lowIs : search.bracket.below = some low)
    (highIs : search.bracket.above = some high) :
    ∃ other, gauge.Holds residual other ∧
      search.current.residual.toRat * other.residual.toRat < 0 ∧
      gauge.apart ≤ |search.current.cash.toRat - other.cash.toRat| ∧
      (low = search.current.cash ∧ high = other.cash ∨
        low = other.cash ∧ high = search.current.cash) := by
  have brackets := within.brackets rejected
  obtain ⟨below, belowRejects, rfl, negative⟩ := brackets.below low lowIs
  obtain ⟨above, aboveRejects, rfl, positive⟩ := brackets.above high highIs
  have width := bounds.width belowRejects aboveRejects negative positive
  have apart : gauge.apart ≤ |above.cash.toRat - below.cash.toRat| := by
    linarith [gauge.apart_pos]
  have current : residual search.current.cash = .ok search.current.residual :=
    within.current.evaluated
  rcases within.observed rejected lowIs highIs with same | same
  · have residualIs : search.current.residual = below.residual :=
      Except.ok.inj (current.symm.trans (same ▸ belowRejects.evaluated))
    refine ⟨above, aboveRejects.toHolds, ?_, ?_, .inl ⟨same.symm, rfl⟩⟩
    · rw [residualIs]
      exact mul_neg_of_neg_of_pos negative positive
    · rwa [same, abs_sub_comm]
  · have residualIs : search.current.residual = above.residual :=
      Except.ok.inj (current.symm.trans (same ▸ aboveRejects.evaluated))
    refine ⟨below, belowRejects.toHolds, ?_, ?_, .inr ⟨rfl, same.symm⟩⟩
    · rw [residualIs]
      exact mul_neg_of_pos_of_neg positive negative
    · rwa [same]

/-- **Every step moves against the residual, by a share near one.** -/
theorem Search.Within.exists_share (within : search.Within gauge residual first second)
    (bounds : gauge.Bounds residual) (tame : gauge.Tame residual)
    (rejected : gauge.accepted < |search.current.residual.toRat|) {cash : Decimal}
    (nextIs : next? search.bracket search.previous search.current = .ok (some cash)) :
    ∃ share, 3 / 10 ≤ share ∧ share ≤ 11 / 10 ∧
      cash.toRat = search.current.cash.toRat - share * search.current.residual.toRat := by
  have rejects : gauge.Rejects residual search.current := ⟨within.current, rejected⟩
  obtain ⟨candidate, share, secantIs, moves, shareGe, shareLe⟩ :=
    tame.exists_secant bounds within.previous rejects within.apart
  have byCandidate : candidate = cash → ∃ share, 3 / 10 ≤ share ∧ share ≤ 11 / 10 ∧
      cash.toRat = search.current.cash.toRat - share * search.current.residual.toRat := by
    rintro rfl
    exact ⟨share, by linarith, shareLe, moves⟩
  cases boundsIs : search.bracket.bounds? with
  | none =>
    rw [next?_of_unknown boundsIs, secantIs] at nextIs
    exact byCandidate (Option.some.inj (Except.ok.inj nextIs))
  | some ends =>
    obtain ⟨low, high⟩ := ends
    obtain ⟨lowIs, highIs⟩ := Bracket.bounds?_eq_some.1 boundsIs
    obtain ⟨other, otherHolds, opposite, apart, ends⟩ :=
      within.exists_other bounds rejected lowIs highIs
    obtain ⟨_, same, chooses⟩ := (next?_of_known boundsIs).1 nextIs
    obtain rfl := Option.some.inj same
    cases chooses with
    | secant candidateIs _ =>
      exact byCandidate (Option.some.inj (Except.ok.inj (secantIs.symm.trans candidateIs)))
    | midpoint candidateIs outside middleIs =>
      obtain rfl := Except.ok.inj (secantIs.symm.trans candidateIs)
      have notBetween := outside candidate rfl
      -- The bracket is the same from either end.
      have sameEnds : min low.toRat high.toRat =
            min search.current.cash.toRat other.cash.toRat ∧
          max low.toRat high.toRat = max search.current.cash.toRat other.cash.toRat ∧
          low.toRat + high.toRat = search.current.cash.toRat + other.cash.toRat := by
        rcases ends with ⟨rfl, rfl⟩ | ⟨rfl, rfl⟩
        · exact ⟨rfl, rfl, rfl⟩
        · exact ⟨min_comm _ _, max_comm _ _, add_comm _ _⟩
      have bothWithin : |low.toRat| ≤ gauge.reach ∧ |high.toRat| ≤ gauge.reach := by
        rcases ends with ⟨rfl, rfl⟩ | ⟨rfl, rfl⟩
        · exact ⟨within.current.within, otherHolds.within⟩
        · exact ⟨otherHolds.within, within.current.within⟩
      obtain ⟨middle, found, near⟩ := gauge.exists_midpoint bothWithin.1 bothWithin.2
      obtain rfl := Except.ok.inj (found.symm.trans middleIs)
      rw [strictlyBetween_iff, sameEnds.1, sameEnds.2.1] at notBetween
      rw [sameEnds.2.2] at near
      obtain ⟨half, halfGe, halfLe, halfMoves⟩ := tame.midpoint_share rejects otherHolds opposite
        apart moves shareGe shareLe notBetween near
      exact ⟨half, halfGe, by linarith, halfMoves⟩

/-- One more step leaves no more than four fifths of the residual. -/
theorem Search.Within.exists_contraction (within : search.Within gauge residual first second)
    (bounds : gauge.Bounds residual) (opens : gauge.Opens residual first second)
    (tame : gauge.Tame residual) (rejected : gauge.accepted < |search.current.residual.toRat|) :
    ∃ next, search.step? residual = .ok (some next) ∧ next.Within gauge residual first second ∧
      |next.current.residual.toRat| ≤ 4 / 5 * |search.current.residual.toRat| := by
  obtain ⟨next, stepped, nextWithin⟩ := within.exists_step bounds opens rejected
  obtain ⟨point, nextIs, -, rfl⟩ := Search.step?_ok.1 stepped
  obtain ⟨share, shareGe, shareLe, moves⟩ := within.exists_share bounds tame rejected nextIs
  exact ⟨_, stepped, nextWithin, tame.abs_residual_le ⟨within.current, rejected⟩
    nextWithin.current shareGe shareLe moves⟩

/-- **A tame search converges.** Its steps suffice if they bring the present residual, by a fifth each,
to what is accepted. -/
theorem Search.Within.run_ok (within : search.Within gauge residual first second)
    (bounds : gauge.Bounds residual) (opens : gauge.Opens residual first second)
    (tame : gauge.Tame residual) (acceptedIs : gauge.accepted ≤ accepted.toRat) (maxIterations : Nat)
    {left : Nat} (near : |search.current.residual.toRat| ≤ (5 / 4) ^ left * accepted.toRat) :
    ∃ cash, Search.run residual accepted maxIterations (left + 1) search = .ok cash := by
  -- The steps left pay for the residual: each takes a factor of five fourths off both.
  induction left generalizing search with
  | zero =>
    rw [pow_zero, one_mul, ← Decimal.toRat_abs, ← Decimal.le_iff] at near
    exact ⟨search.current.cash, by rw [Search.run, if_pos near]; rfl⟩
  | succ left inductionHypothesis =>
    unfold Search.run
    split
    next => exact ⟨_, rfl⟩
    next large =>
      rw [Decimal.le_iff, Decimal.toRat_abs, not_le] at large
      obtain ⟨next, stepped, nextWithin, contracted⟩ :=
        within.exists_contraction bounds opens tame (acceptedIs.trans_lt large)
      rw [stepped]
      apply inductionHypothesis nextWithin
      rw [pow_succ] at near
      linarith

/-- **A tame search from its first amounts converges,** with enough steps for its second residual. -/
theorem seek_ok_of_tame (bounds : gauge.Bounds residual) (tame : gauge.Tame residual)
    {margin : Decimal} (acceptedIs : gauge.accepted ≤ accepted.toRat)
    (start : 3 * (1 + |margin.toRat|) ≤ gauge.start)
    (opening : ∀ cash found : Decimal, |cash.toRat| ≤ gauge.start → residual cash = .ok found →
      |found.toRat| ≤ gauge.opening) {left : Nat}
    (near : ∀ first second, Opening residual accepted margin first second →
      |second.residual.toRat| ≤ (5 / 4) ^ left * accepted.toRat) :
    ∃ cash, seek residual accepted margin (left + 1) = .ok cash := by
  obtain answered | ⟨first, second, opened, opens, within⟩ :=
    exists_opening bounds acceptedIs start opening (left + 1)
  · exact answered
  · rw [opened.seek_eq]
    exact within.run_ok bounds opens tame acceptedIs _ (near first second opened)

end Search

end Collateral.Deposit
