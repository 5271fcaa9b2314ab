import Collateral.Proofs.Secant

/-!
Contract: a search that stays within bounds.

The points of a search stay within reach, because a secant moves against the residual by no more than
the slope allows, and they stay apart, because it moves by no less. That holds as long as the
residuals are rejected, which keeps them above what flat balances and rounding can move. No operation
of such a search overflows.

Owns: brackets of rejected points, the invariant of the points of a search, and its outcome.
-/

namespace Collateral

namespace Deposit

namespace Gauge

variable {grain : Rat} {gauge : Gauge grain} {residual : Decimal → Except Failure Decimal}
  {previous current : Point}

/-! ## Brackets -/

/-- The ends of a bracket are rejected points with residuals of their signs. -/
structure Brackets (gauge : Gauge grain) (residual : Decimal → Except Failure Decimal)
    (bracket : Bracket) : Prop where
  below : ∀ cash ∈ bracket.below, ∃ point, gauge.Rejects residual point ∧ point.cash = cash ∧
    point.residual.toRat < 0
  above : ∀ cash ∈ bracket.above, ∃ point, gauge.Rejects residual point ∧ point.cash = cash ∧
    0 < point.residual.toRat

theorem Brackets.observe {bracket : Bracket} (brackets : gauge.Brackets residual bracket)
    (rejects : gauge.Rejects residual current) :
    gauge.Brackets residual (bracket.observe current) := by
  rcases bracket.observe_cases current with
    ⟨negative, observed⟩ | ⟨positive, observed⟩ | ⟨-, observed⟩ <;> rw [observed]
  · refine ⟨fun cash found => ?_, brackets.above⟩
    obtain rfl := Option.some.inj found
    exact ⟨current, rejects, rfl, by simpa using Decimal.lt_iff.1 negative⟩
  · refine ⟨brackets.below, fun cash found => ?_⟩
    obtain rfl := Option.some.inj found
    exact ⟨current, rejects, rfl, by simpa using Decimal.lt_iff.1 positive⟩
  · exact brackets

/-- A bracket knows no upper side as long as no residual was positive. -/
theorem above_of_observe {bracket : Bracket} (unknown : (bracket.observe current).above = none) :
    bracket.above = none ∧ current.residual.toRat ≤ 0 := by
  rcases bracket.observe_cases current with
    ⟨negative, observed⟩ | ⟨-, observed⟩ | ⟨zero, observed⟩ <;> rw [observed] at unknown
  · exact ⟨unknown, by simpa using (Decimal.lt_iff.1 negative).le⟩
  · contradiction
  · exact ⟨unknown, (Decimal.toRat_eq_zero.2 zero).le⟩

theorem below_of_observe {bracket : Bracket} (unknown : (bracket.observe current).below = none) :
    bracket.below = none ∧ 0 ≤ current.residual.toRat := by
  rcases bracket.observe_cases current with
    ⟨-, observed⟩ | ⟨positive, observed⟩ | ⟨zero, observed⟩ <;> rw [observed] at unknown
  · contradiction
  · exact ⟨unknown, by simpa using (Decimal.lt_iff.1 positive).le⟩
  · exact ⟨unknown, (Decimal.toRat_eq_zero.2 zero).ge⟩

/-- The point observed last is an end of the bracket. -/
theorem mem_observe {bracket : Bracket} (nonzero : current.residual.toRat ≠ 0) :
    current.cash ∈ (bracket.observe current).below ∨
      current.cash ∈ (bracket.observe current).above := by
  rcases bracket.observe_cases current with ⟨-, observed⟩ | ⟨-, observed⟩ | ⟨zero, -⟩
  · exact .inl (observed ▸ rfl)
  · exact .inr (observed ▸ rfl)
  · exact absurd (Decimal.toRat_eq_zero.2 zero) nonzero

/-! ## A step within a bracket -/

section Bracketed

variable {below above : Point}

/-- The ends of a bracket lie far apart. -/
theorem Bounds.width (bounds : gauge.Bounds residual) (belowRejects : gauge.Rejects residual below)
    (aboveRejects : gauge.Rejects residual above) (negative : below.residual.toRat < 0)
    (positive : 0 < above.residual.toRat) :
    8 * gauge.apart ≤ |above.cash.toRat - below.cash.toRat| := by
  have belowRejected := belowRejects.rejected
  have aboveRejected := aboveRejects.rejected
  rw [abs_of_neg negative] at belowRejected
  rw [abs_of_pos positive] at aboveRejected
  have steepPos : 0 < gauge.steepness := by linarith [gauge.steepness_ge]
  have rise : 2 * gauge.accepted ≤
      gauge.steepness * |above.cash.toRat - below.cash.toRat| + gauge.slack := by
    rcases le_total below.cash.toRat above.cash.toRat with forward | backward
    · rw [abs_of_nonneg (sub_nonneg.2 forward)]
      have most := (bounds.ascends belowRejects.within aboveRejects.within forward
        belowRejects.evaluated aboveRejects.evaluated).2
      linarith
    · -- A residual that rises cannot be positive on the left, unless by the slack.
      have least := (bounds.ascends aboveRejects.within belowRejects.within backward
        aboveRejects.evaluated belowRejects.evaluated).1
      have rises := mul_nonneg gauge.ascent_pos.le (sub_nonneg.2 backward)
      linarith [mul_nonneg steepPos.le (abs_nonneg (above.cash.toRat - below.cash.toRat))]
  have scaled : gauge.steepness * (8 * gauge.apart) ≤
      gauge.steepness * |above.cash.toRat - below.cash.toRat| := by
    linarith [gauge.apart_le_accepted, gauge.apart_le_accepted', gauge.slack_le_apart,
      gauge.apart_pos]
  exact le_of_mul_le_mul_left scaled steepPos

variable [Rounding] [Rounding.Lawful grain] [Rounding.Roomy]

/-- The midpoint of a bracket is within reach, and apart from both ends. -/
theorem Bounds.exists_midpoint_apart (bounds : gauge.Bounds residual)
    (belowRejects : gauge.Rejects residual below) (aboveRejects : gauge.Rejects residual above)
    (negative : below.residual.toRat < 0) (positive : 0 < above.residual.toRat) :
    ∃ middle, midpoint below.cash above.cash = .ok middle ∧ |middle.toRat| ≤ gauge.reach ∧
      gauge.apart ≤ |middle.toRat - below.cash.toRat| ∧
      gauge.apart ≤ |middle.toRat - above.cash.toRat| := by
  obtain ⟨middle, middleIs, near⟩ :=
    exists_midpoint gauge belowRejects.within aboveRejects.within
  have width := bounds.width belowRejects aboveRejects negative positive
  have apartPos := gauge.apart_pos
  have slackLe := gauge.slack_le_apart
  obtain ⟨nearGe, nearLe⟩ := abs_le.1 near
  obtain ⟨belowGe, belowLe⟩ := abs_le.1 belowRejects.within
  obtain ⟨aboveGe, aboveLe⟩ := abs_le.1 aboveRejects.within
  refine ⟨middle, middleIs, abs_le.2 ?_, ?_, ?_⟩ <;>
    rcases le_total below.cash.toRat above.cash.toRat with forward | backward
  · rw [abs_of_nonneg (sub_nonneg.2 forward)] at width
    constructor <;> linarith
  · rw [abs_of_nonpos (sub_nonpos.2 backward)] at width
    constructor <;> linarith
  · rw [abs_of_nonneg (sub_nonneg.2 forward)] at width
    exact le_abs.2 (.inl (by linarith))
  · rw [abs_of_nonpos (sub_nonpos.2 backward)] at width
    exact le_abs.2 (.inr (by linarith))
  · rw [abs_of_nonneg (sub_nonneg.2 forward)] at width
    exact le_abs.2 (.inr (by linarith))
  · rw [abs_of_nonpos (sub_nonpos.2 backward)] at width
    exact le_abs.2 (.inl (by linarith))

omit [Rounding] [Rounding.Lawful grain] [Rounding.Roomy] in
/-- A rejected point is moved further than points lie apart. -/
private theorem apart_le_move (currentRejects : gauge.Rejects residual current) {share : Rat}
    (shareGe : 1 ≤ 5 * (gauge.steepness * share)) :
    0 < share ∧ gauge.apart ≤ share * |current.residual.toRat| := by
  have steepPos : 0 < gauge.steepness := by linarith [gauge.steepness_ge]
  have sharePos : 0 < share := by
    by_contra notPositive
    linarith [mul_nonpos_of_nonneg_of_nonpos steepPos.le (not_lt.1 notPositive)]
  have least := mul_le_mul_of_nonneg_right shareGe (abs_nonneg current.residual.toRat)
  have apartPos := mul_pos steepPos gauge.apart_pos
  have scaled : gauge.steepness * gauge.apart ≤
      gauge.steepness * (share * |current.residual.toRat|) := by
    linarith [gauge.apart_le_accepted, currentRejects.rejected]
  exact ⟨sharePos, le_of_mul_le_mul_left scaled steepPos⟩

/-- With both sides known, the next amount lies within the bracket. -/
theorem Bounds.exists_next_within (bounds : gauge.Bounds residual) {bracket : Bracket}
    (brackets : gauge.Brackets residual bracket) {low high : Decimal}
    (lowIs : bracket.below = some low) (highIs : bracket.above = some high)
    (observed : current.cash = low ∨ current.cash = high)
    (previousHolds : gauge.Holds residual previous) (currentRejects : gauge.Rejects residual current)
    (apart : gauge.apart ≤ |current.cash.toRat - previous.cash.toRat|) :
    ∃ cash, next? bracket previous current = .ok (some cash) ∧ |cash.toRat| ≤ gauge.reach ∧
      gauge.apart ≤ |cash.toRat - current.cash.toRat| := by
  obtain ⟨candidate, share, secantIs, moves, shareGe, -⟩ :=
    exists_secant bounds previousHolds currentRejects apart
  obtain ⟨below, belowRejects, rfl, negative⟩ := brackets.below low lowIs
  obtain ⟨above, aboveRejects, rfl, positive⟩ := brackets.above high highIs
  have chosen : ∀ cash, Chooses below.cash above.cash previous current cash →
      next? bracket previous current = .ok (some cash) := fun cash chooses =>
    (next?_of_known (Bracket.bounds?_eq_some.2 ⟨lowIs, highIs⟩)).2 ⟨cash, rfl, chooses⟩
  by_cases between : strictlyBetween candidate below.cash above.cash
  · obtain ⟨sharePos, moved⟩ := apart_le_move currentRejects shareGe
    refine ⟨candidate, chosen _ (.secant secantIs between), ?_, ?_⟩
    · obtain ⟨least, most⟩ := strictlyBetween_iff.1 between
      obtain ⟨belowGe, belowLe⟩ := abs_le.1 belowRejects.within
      obtain ⟨aboveGe, aboveLe⟩ := abs_le.1 aboveRejects.within
      exact abs_le.2 ⟨(le_min belowGe aboveGe).trans least.le, most.le.trans (max_le belowLe aboveLe)⟩
    · rwa [moves, sub_sub_cancel_left, abs_neg, abs_mul, abs_of_pos sharePos]
  · obtain ⟨middle, middleIs, within, belowApart, aboveApart⟩ :=
      bounds.exists_midpoint_apart belowRejects aboveRejects negative positive
    refine ⟨middle, chosen _ (.midpoint secantIs (by simpa using between) middleIs), within, ?_⟩
    rcases observed with same | same
    · rwa [same]
    · rwa [same]

end Bracketed

/-! ## A step towards the other side -/

section Unbracketed

variable {first second : Point}

/-- The first two points of a search, in their order. -/
structure Opens (gauge : Gauge grain) (residual : Decimal → Except Failure Decimal)
    (first second : Point) : Prop where
  first_holds : gauge.Holds residual first
  second_holds : gauge.Holds residual second
  ordered : first.cash.toRat ≤ second.cash.toRat
  first_cash : |first.cash.toRat| ≤ gauge.start
  second_cash : |second.cash.toRat| ≤ gauge.start
  first_residual : |first.residual.toRat| ≤ gauge.opening
  second_residual : |second.residual.toRat| ≤ gauge.opening

theorem mul_start_le (gauge : Gauge grain) : gauge.ascent * gauge.start +
    3 * (gauge.opening + gauge.slack) ≤ gauge.ascent * gauge.reach := by
  have scaled := mul_le_mul_of_nonneg_left gauge.start_le gauge.ascent_pos.le
  have cleared : gauge.ascent * (3 * ((gauge.opening + gauge.slack) / gauge.ascent)) =
      3 * (gauge.opening + gauge.slack) := by
    have nonzero := gauge.ascent_pos.ne'
    field_simp
  rwa [mul_add, cleared] at scaled

/-- A residual below zero to the right of the first point: a secant from there stays within reach. -/
theorem Bounds.rightward (bounds : gauge.Bounds residual) (opens : gauge.Opens residual first second)
    (currentRejects : gauge.Rejects residual current) (negative : current.residual.toRat < 0)
    (right : first.cash.toRat ≤ current.cash.toRat) {share : Rat} (sharePos : 0 < share)
    (shareLe : 2 * (gauge.ascent * share) ≤ 5) :
    current.cash.toRat ≤ current.cash.toRat - share * current.residual.toRat ∧
      |current.cash.toRat - share * current.residual.toRat| ≤ gauge.reach := by
  have ascentPos := gauge.ascent_pos
  have moved : share * current.residual.toRat ≤ 0 :=
    mul_nonpos_of_nonneg_of_nonpos sharePos.le negative.le
  have least := (bounds.ascends opens.first_holds.within currentRejects.within right
    opens.first_holds.evaluated currentRejects.evaluated).1
  have opening := (abs_le.1 opens.first_residual).1
  have run := mul_nonneg ascentPos.le (sub_nonneg.2 right)
  have step := mul_le_mul_of_nonneg_right shareLe (neg_nonneg.2 negative.le)
  have start := mul_le_mul_of_nonneg_left (le_of_abs_le opens.first_cash) ascentPos.le
  have scaled : gauge.ascent * (current.cash.toRat - share * current.residual.toRat) ≤
      gauge.ascent * gauge.reach := by
    linarith [mul_start_le gauge]
  refine ⟨by linarith, abs_le.2 ⟨?_, le_of_mul_le_mul_left scaled ascentPos⟩⟩
  linarith [(abs_le.1 currentRejects.within).1]

/-- A residual above zero to the left of the second point: a secant from there stays within reach. -/
theorem Bounds.leftward (bounds : gauge.Bounds residual) (opens : gauge.Opens residual first second)
    (currentRejects : gauge.Rejects residual current) (positive : 0 < current.residual.toRat)
    (left : current.cash.toRat ≤ second.cash.toRat) {share : Rat} (sharePos : 0 < share)
    (shareLe : 2 * (gauge.ascent * share) ≤ 5) :
    current.cash.toRat - share * current.residual.toRat ≤ current.cash.toRat ∧
      |current.cash.toRat - share * current.residual.toRat| ≤ gauge.reach := by
  have ascentPos := gauge.ascent_pos
  have moved : 0 ≤ share * current.residual.toRat := mul_nonneg sharePos.le positive.le
  have least := (bounds.ascends currentRejects.within opens.second_holds.within left
    currentRejects.evaluated opens.second_holds.evaluated).1
  have opening := (abs_le.1 opens.second_residual).2
  have run := mul_nonneg ascentPos.le (sub_nonneg.2 left)
  have step := mul_le_mul_of_nonneg_right shareLe positive.le
  have start := mul_le_mul_of_nonneg_left (neg_le_of_abs_le opens.second_cash) ascentPos.le
  have scaled : gauge.ascent * -gauge.reach ≤
      gauge.ascent * (current.cash.toRat - share * current.residual.toRat) := by
    linarith [mul_start_le gauge]
  refine ⟨by linarith, abs_le.2 ⟨le_of_mul_le_mul_left scaled ascentPos, ?_⟩⟩
  linarith [(abs_le.1 currentRejects.within).2]

end Unbracketed

end Gauge

/-! ## The search -/

section Search

variable [Rounding] {grain : Rat} [Rounding.Lawful grain] [Rounding.Roomy] {gauge : Gauge grain}
  {residual : Decimal → Except Failure Decimal} {first second : Point} {search : Search}

/-- The invariant of a search within a gauge: its last two points lie apart, its bracket was made by
rejected points before the current one was observed, and as long as one side is not known the search
moves away from the other. -/
structure Search.Within (gauge : Gauge grain) (residual : Decimal → Except Failure Decimal)
    (first second : Point) (search : Search) : Prop where
  previous : gauge.Holds residual search.previous
  current : gauge.Holds residual search.current
  apart : gauge.apart ≤ |search.current.cash.toRat - search.previous.cash.toRat|
  bracket : ∃ older, search.bracket = older.observe search.current ∧ gauge.Brackets residual older
  rightward : search.bracket.above = none → first.cash.toRat ≤ search.current.cash.toRat
  leftward : search.bracket.below = none → search.current.cash.toRat ≤ second.cash.toRat

omit [Rounding] [Rounding.Lawful grain] [Rounding.Roomy] in
/-- The bracket of a search that goes on was made by rejected points. -/
theorem Search.Within.brackets (within : search.Within gauge residual first second)
    (rejected : gauge.accepted < |search.current.residual.toRat|) :
    gauge.Brackets residual search.bracket := by
  obtain ⟨older, bracketIs, olderBrackets⟩ := within.bracket
  exact bracketIs ▸ olderBrackets.observe ⟨within.current, rejected⟩

omit [Rounding] [Rounding.Lawful grain] [Rounding.Roomy] in
/-- The current point is an end of a known bracket. -/
theorem Search.Within.observed (within : search.Within gauge residual first second)
    (rejected : gauge.accepted < |search.current.residual.toRat|) {low high : Decimal}
    (lowIs : search.bracket.below = some low) (highIs : search.bracket.above = some high) :
    search.current.cash = low ∨ search.current.cash = high := by
  obtain ⟨older, bracketIs, -⟩ := within.bracket
  have residualPos : 0 < |search.current.residual.toRat| := by
    linarith [gauge.apart_le_accepted', gauge.apart_pos]
  have ends : search.current.cash ∈ (older.observe search.current).below ∨
      search.current.cash ∈ (older.observe search.current).above :=
    Gauge.mem_observe (abs_pos.1 residualPos)
  rw [← bracketIs, lowIs, highIs] at ends
  exact ends.imp (fun same => (Option.some.inj same).symm) fun same => (Option.some.inj same).symm

/-- A search within its gauge finds a next amount within reach. -/
theorem Search.Within.exists_next (within : search.Within gauge residual first second)
    (bounds : gauge.Bounds residual) (opens : gauge.Opens residual first second)
    (rejected : gauge.accepted < |search.current.residual.toRat|) :
    ∃ cash, next? search.bracket search.previous search.current = .ok (some cash) ∧
      |cash.toRat| ≤ gauge.reach ∧ gauge.apart ≤ |cash.toRat - search.current.cash.toRat| ∧
      (search.bracket.above = none → first.cash.toRat ≤ cash.toRat) ∧
      (search.bracket.below = none → cash.toRat ≤ second.cash.toRat) := by
  have rejects : gauge.Rejects residual search.current := ⟨within.current, rejected⟩
  obtain ⟨older, bracketIs, -⟩ := within.bracket
  have brackets := within.brackets rejected
  have residualPos : 0 < |search.current.residual.toRat| := by
    linarith [gauge.apart_le_accepted', gauge.apart_pos]
  obtain ⟨candidate, share, secantIs, moves, shareGe, shareLe⟩ :=
    Gauge.exists_secant bounds within.previous rejects within.apart
  obtain ⟨sharePos, moved⟩ := Gauge.apart_le_move rejects shareGe
  have apart : gauge.apart ≤ |candidate.toRat - search.current.cash.toRat| := by
    rwa [moves, sub_sub_cancel_left, abs_neg, abs_mul, abs_of_pos sharePos]
  cases belowIs : search.bracket.below with
  | none =>
    have nonneg := (Gauge.below_of_observe (bracketIs ▸ belowIs)).2
    have positive := lt_of_le_of_ne nonneg (abs_pos.1 residualPos).symm
    have onlyAbove : search.bracket.above ≠ none := fun aboveIs =>
      absurd (Gauge.above_of_observe (bracketIs ▸ aboveIs)).2 (not_le.2 positive)
    obtain ⟨further, reached⟩ := bounds.leftward opens rejects positive (within.leftward belowIs)
      sharePos shareLe
    rw [← moves] at further reached
    have unknown : search.bracket.bounds? = none := by simp [Bracket.bounds?, belowIs]
    exact ⟨candidate, (next?_of_unknown unknown).trans secantIs, reached, apart,
      fun aboveIs => absurd aboveIs onlyAbove,
      fun _ => further.trans (within.leftward belowIs)⟩
  | some low =>
    cases aboveIs : search.bracket.above with
    | none =>
      have notPositive := (Gauge.above_of_observe (bracketIs ▸ aboveIs)).2
      have negative := lt_of_le_of_ne notPositive (abs_pos.1 residualPos)
      obtain ⟨further, reached⟩ := bounds.rightward opens rejects negative
        (within.rightward aboveIs) sharePos shareLe
      rw [← moves] at further reached
      have unknown : search.bracket.bounds? = none := by simp [Bracket.bounds?, belowIs, aboveIs]
      exact ⟨candidate, (next?_of_unknown unknown).trans secantIs, reached, apart,
        fun _ => (within.rightward aboveIs).trans further, by simp⟩
    | some high =>
      have observed := within.observed rejected belowIs aboveIs
      obtain ⟨cash, nextIs, reached, further⟩ := bounds.exists_next_within brackets belowIs aboveIs
        observed within.previous rejects within.apart
      exact ⟨cash, nextIs, reached, further, by simp, by simp⟩

/-- One more step of a search within its gauge, and the search is within it again. -/
theorem Search.Within.exists_step (within : search.Within gauge residual first second)
    (bounds : gauge.Bounds residual) (opens : gauge.Opens residual first second)
    (rejected : gauge.accepted < |search.current.residual.toRat|) :
    ∃ next, search.step? residual = .ok (some next) ∧ next.Within gauge residual first second := by
  obtain ⟨cash, nextIs, reached, apart, rightward, leftward⟩ :=
    within.exists_next bounds opens rejected
  obtain ⟨found, evaluated, -⟩ := bounds.evaluates cash reached
  refine ⟨⟨search.current, ⟨cash, found⟩, search.bracket.observe ⟨cash, found⟩⟩, ?_,
    within.current, ⟨evaluated, reached⟩, apart, ⟨search.bracket, rfl, ?_⟩, fun unknown => ?_,
    fun unknown => ?_⟩
  · exact Search.step?_ok.2 ⟨⟨cash, found⟩, nextIs, evaluated, rfl⟩
  · exact within.brackets rejected
  · exact rightward (Gauge.above_of_observe unknown).1
  · exact leftward (Gauge.below_of_observe unknown).1

/-- The outcome of a search that no operation has stopped: an amount, or no convergence. -/
def Concludes (outcome : Except Failure Decimal) : Prop :=
  (∃ cash, outcome = .ok cash) ∨
    ∃ iterations found, outcome = .error (.noConvergence iterations found)

/-- **A search within its gauge comes to a conclusion.** -/
theorem Search.Within.concludes (within : search.Within gauge residual first second)
    (bounds : gauge.Bounds residual) (opens : gauge.Opens residual first second)
    {accepted : Decimal} (acceptedIs : gauge.accepted ≤ accepted.toRat) (maxIterations left : Nat) :
    Concludes (Search.run residual accepted maxIterations left search) := by
  induction left generalizing search with
  | zero => exact .inr ⟨_, _, rfl⟩
  | succ left inductionHypothesis =>
    unfold Search.run
    split
    next => exact .inl ⟨_, rfl⟩
    next large =>
      rw [Decimal.le_iff, Decimal.toRat_abs, not_le] at large
      obtain ⟨next, stepped, nextWithin⟩ :=
        within.exists_step bounds opens (acceptedIs.trans_lt large)
      rw [stepped]
      exact inductionHypothesis nextWithin

/-! ## The first two points -/

/-- Twice a margin fits, and lies within the start of the search. -/
private theorem exists_firstGuess (gauge : Gauge grain) {margin : Decimal}
    (start : 3 * (1 + |margin.toRat|) ≤ gauge.start) :
    ∃ cash, firstGuess margin = .ok cash ∧ |cash.toRat| ≤ 2 * |margin.toRat| + gauge.slack := by
  have startLe := gauge.start_le_reach
  have size : |(2 : Decimal).toRat * margin.toRat| = 2 * |margin.toRat| := by
    rw [Decimal.toRat_two, abs_mul, abs_two]
  have marginNonneg := abs_nonneg margin.toRat
  obtain ⟨cash, fit⟩ := Rounding.exists_fit_of_le
    (size.trans_le (by linarith [gauge.reach_le]))
  refine ⟨cash, Decimal.mul_ok.2 fit, ?_⟩
  have near := gauge.fit_near fit (by linarith)
  have parts := abs_add_le (cash.toRat - (2 : Decimal).toRat * margin.toRat)
    ((2 : Decimal).toRat * margin.toRat)
  rw [sub_add_cancel] at parts
  linarith [gauge.slack_pos]

omit [Rounding] in
theorem toRat_thousandth : Figure.thousandth.value.toRat = 1 / 1000 := by
  rw [Figure.value, Decimal.toRat_signed]
  norm_num [Figure.thousandth]

/-- The second amount to try fits, and lies to the right of the first one. -/
private theorem exists_secondGuess (gauge : Gauge grain) {first : Decimal}
    (start : 3 / 2 * |first.toRat| + 2 ≤ gauge.start) :
    ∃ cash, secondGuess first = .ok cash ∧ |cash.toRat| ≤ gauge.start ∧
      gauge.apart ≤ cash.toRat - first.toRat := by
  have startLe := gauge.start_le_reach
  have firstNonneg := abs_nonneg first.toRat
  have slackPos := gauge.slack_pos
  have slackLe : 8 * gauge.slack ≤ 1 := gauge.slack_le.trans gauge.ascent_le
  have apartLe : gauge.apart ≤ 1 / 2 := by
    have scaled : gauge.ascent * gauge.apart ≤ gauge.ascent * (1 / 2) := by
      linarith [gauge.ascent_mul_apart, gauge.slack_le]
    exact le_of_mul_le_mul_left scaled gauge.ascent_pos
  have part : first.abs.toRat * Figure.thousandth.value.toRat = |first.toRat| / 1000 := by
    rw [Decimal.toRat_abs, toRat_thousandth, mul_one_div]
  have partSize : |first.abs.toRat * Figure.thousandth.value.toRat| = |first.toRat| / 1000 := by
    rw [part, abs_of_nonneg (by linarith)]
  obtain ⟨thousandth, thousandthFit⟩ := Rounding.exists_fit_of_le
    (partSize.trans_le (by linarith [gauge.reach_le]))
  obtain ⟨-, thousandthLe⟩ := abs_le.1 (gauge.fit_near thousandthFit (by linarith))
  have jump : (max thousandth 1).toRat = max thousandth.toRat 1 := by
    rw [Decimal.toRat_max, Decimal.toRat_one]
  have jumpGe : 1 ≤ (max thousandth 1).toRat := jump ▸ le_max_right _ _
  have jumpLe : (max thousandth 1).toRat ≤ |first.toRat| / 1000 + 1 + gauge.slack :=
    jump ▸ max_le (by linarith) (by linarith)
  have sumLe : |first.toRat + (max thousandth 1).toRat| ≤ 3 / 2 * |first.toRat| + 5 / 4 := by
    have sizes := abs_add_le first.toRat (max thousandth 1).toRat
    rw [abs_of_nonneg (zero_le_one.trans jumpGe)] at sizes
    linarith
  obtain ⟨cash, cashFit⟩ := Rounding.exists_fit_of_le
    (sumLe.trans (by linarith [gauge.reach_le]))
  have near := gauge.fit_near cashFit (sumLe.trans (by linarith))
  have sizes := abs_add_le (cash.toRat - (first.toRat + (max thousandth 1).toRat))
    (first.toRat + (max thousandth 1).toRat)
  rw [sub_add_cancel] at sizes
  obtain ⟨nearGe, -⟩ := abs_le.1 near
  exact ⟨cash, Outcome.bind_ok.2 ⟨thousandth, Decimal.mul_ok.2 thousandthFit,
    Decimal.add_ok.2 cashFit⟩, by linarith, by linarith⟩

/-- **A search in a gauge answers at its first point, or opens within the gauge.** -/
theorem exists_opening (bounds : gauge.Bounds residual) {accepted margin : Decimal}
    (acceptedIs : gauge.accepted ≤ accepted.toRat) (start : 3 * (1 + |margin.toRat|) ≤ gauge.start)
    (opening : ∀ cash found : Decimal, |cash.toRat| ≤ gauge.start → residual cash = .ok found →
      |found.toRat| ≤ gauge.opening) (maxIterations : Nat) :
    (∃ cash, seek residual accepted margin maxIterations = .ok cash) ∨
      ∃ first second, Opening residual accepted margin first second ∧
        gauge.Opens residual first second ∧
        (Search.opened first second).Within gauge residual first second := by
  have startLe := gauge.start_le_reach
  have slackLe : 8 * gauge.slack ≤ 1 := gauge.slack_le.trans gauge.ascent_le
  have marginNonneg := abs_nonneg margin.toRat
  obtain ⟨first, firstIs, firstLe⟩ := exists_firstGuess gauge start
  have firstWithin : |first.toRat| ≤ gauge.start := by linarith
  obtain ⟨found, evaluated, -⟩ := bounds.evaluates first (firstWithin.trans startLe)
  by_cases small : found.abs ≤ accepted
  · refine .inl ⟨first, Outcome.bind_ok.2 ⟨first, Outcome.liftArithmetic_ok.2 firstIs,
      Outcome.bind_ok.2 ⟨found, evaluated, ?_⟩⟩⟩
    simp [small]
  · obtain ⟨second, secondIs, secondWithin, apart⟩ :=
      exists_secondGuess gauge (show 3 / 2 * |first.toRat| + 2 ≤ gauge.start by linarith)
    obtain ⟨found', evaluated', -⟩ := bounds.evaluates second (secondWithin.trans startLe)
    have opens : gauge.Opens residual ⟨first, found⟩ ⟨second, found'⟩ :=
      ⟨⟨evaluated, firstWithin.trans startLe⟩, ⟨evaluated', secondWithin.trans startLe⟩,
        by linarith [gauge.apart_pos], firstWithin, secondWithin,
        opening _ _ firstWithin evaluated, opening _ _ secondWithin evaluated'⟩
    have large := small
    rw [Decimal.le_iff, Decimal.toRat_abs, not_le] at large
    have nothing : gauge.Brackets residual {} := ⟨by simp, by simp⟩
    exact .inr ⟨⟨first, found⟩, ⟨second, found'⟩, ⟨firstIs, evaluated, small, secondIs, evaluated'⟩,
      opens, opens.first_holds, opens.second_holds, apart.trans (le_abs_self _),
      ⟨_, rfl, nothing.observe ⟨opens.first_holds, acceptedIs.trans_lt large⟩⟩,
      fun _ => opens.ordered, fun _ => le_rfl⟩

/-- **A search in a gauge comes to a conclusion.** -/
theorem seek_concludes (bounds : gauge.Bounds residual) {accepted margin : Decimal}
    (acceptedIs : gauge.accepted ≤ accepted.toRat) (start : 3 * (1 + |margin.toRat|) ≤ gauge.start)
    (opening : ∀ cash found : Decimal, |cash.toRat| ≤ gauge.start → residual cash = .ok found →
      |found.toRat| ≤ gauge.opening) (maxIterations : Nat) :
    Concludes (seek residual accepted margin maxIterations) := by
  obtain answered | ⟨first, second, opened, opens, within⟩ :=
    exists_opening bounds acceptedIs start opening maxIterations
  · exact .inl answered
  · rw [opened.seek_eq]
    exact within.concludes bounds opens acceptedIs _ _

end Search

end Deposit

end Collateral
