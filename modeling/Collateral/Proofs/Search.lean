import Collateral.Deposit.Solver
import Collateral.Proofs.Drift
import Collateral.Proofs.Outcome

/-!
Contract: how a search for a deposit goes on, how it ends, and what a solved deposit is.

A search carries every amount together with the residual found there. It steps on from points that it
has tested and refused, and it answers only with a point that it has tested and accepted. Two more
ways out are left to it: there is no further amount to try, or its iterations are used up, and then
the current point has not been tested at all.

Owns: the choice of the next amount, the steps of a search, the ways in which it starts and ends, the
points at which it answers, and the ways in which an attempt at a problem goes.
-/

namespace Collateral.Deposit

variable [Rounding]

/-- A point that was evaluated. -/
def Point.Evaluated (residual : Decimal → Except Failure Decimal) (point : Point) : Prop :=
  residual point.cash = .ok point.residual

omit [Rounding] in
/-- A bracket has bounds where both its sides are known. -/
theorem Bracket.bounds?_eq_some {bracket : Bracket} {low high : Decimal} :
    bracket.bounds? = some (low, high) ↔ bracket.below = some low ∧ bracket.above = some high := by
  unfold Bracket.bounds?
  cases bracket.below <;> cases bracket.above <;> simp

omit [Rounding] in
theorem strictlyBetween_iff {number first second : Decimal} :
    strictlyBetween number first second = true ↔
      min first.toRat second.toRat < number.toRat ∧ number.toRat < max first.toRat second.toRat := by
  rw [strictlyBetween, Bool.and_eq_true_iff, decide_eq_true_iff, decide_eq_true_iff,
    Decimal.lt_iff, Decimal.lt_iff, Decimal.toRat_min, Decimal.toRat_max]

omit [Rounding] in
/-- An observed point takes the place of the end of its sign, and without a sign of none. -/
theorem Bracket.observe_cases (bracket : Bracket) (point : Point) :
    point.residual < 0 ∧ bracket.observe point = { bracket with below := some point.cash } ∨
      0 < point.residual ∧ bracket.observe point = { bracket with above := some point.cash } ∨
        point.residual = 0 ∧ bracket.observe point = bracket := by
  unfold Bracket.observe
  split
  next negative => exact .inl ⟨negative, rfl⟩
  next notNegative =>
    split
    next positive => exact .inr (.inl ⟨positive, rfl⟩)
    next notPositive =>
      rw [Decimal.lt_iff, Decimal.toRat_zero, not_lt] at notNegative notPositive
      exact .inr (.inr ⟨Decimal.toRat_eq_zero.1 (le_antisymm notPositive notNegative), rfl⟩)

/-! ## The next amount -/

section Next

variable {bracket : Bracket} {low high cash : Decimal} {previous current : Point}

/-- The amounts that are chosen between two ends, after the last two points. -/
inductive Chooses (low high : Decimal) (previous current : Point) : Decimal → Prop
  /-- The secant, if it lies strictly between the ends. -/
  | secant {candidate : Decimal} (secantIs : secant? previous current = .ok (some candidate))
    (between : strictlyBetween candidate low high) : Chooses low high previous current candidate
  /-- The midpoint of the ends, if there is no such secant. -/
  | midpoint {candidate? : Option Decimal} {middle : Decimal}
    (secantIs : secant? previous current = .ok candidate?)
    (outside : ∀ candidate ∈ candidate?, ¬strictlyBetween candidate low high)
    (middleIs : Deposit.midpoint low high = .ok middle) : Chooses low high previous current middle

/-- As long as one side is not known, the next amount is the secant. -/
theorem next?_of_unknown (unknown : bracket.bounds? = none) :
    next? bracket previous current = secant? previous current := by
  unfold next?
  rw [unknown]
  exact bind_pure _

/-- With both sides known there is always an amount to try, and it is chosen between them. -/
theorem next?_of_known (known : bracket.bounds? = some (low, high)) {next : Option Decimal} :
    next? bracket previous current = .ok next ↔
      ∃ cash, next = some cash ∧ Chooses low high previous current cash := by
  unfold next?
  rw [known]
  constructor
  · intro nextIs
    obtain ⟨candidate?, secantIs, rest⟩ := Outcome.bind_ok.1 nextIs
    cases candidate? with
    | none =>
      obtain ⟨middle, middleIs, rfl⟩ := Outcome.map_ok.1 rest
      exact ⟨middle, rfl, .midpoint secantIs (by simp) middleIs⟩
    | some candidate =>
      dsimp only at rest
      split at rest
      next between => exact ⟨candidate, (Outcome.pure_ok.1 rest).symm, .secant secantIs between⟩
      next outside =>
        obtain ⟨middle, middleIs, rfl⟩ := Outcome.map_ok.1 rest
        exact ⟨middle, rfl, .midpoint secantIs (by simpa using outside) middleIs⟩
  · rintro ⟨cash, rfl, chooses⟩
    cases chooses with
    | secant secantIs between =>
      refine Outcome.bind_ok.2 ⟨some cash, secantIs, ?_⟩
      dsimp only
      rw [if_pos between]
      rfl
    | @midpoint candidate? _ secantIs outside middleIs =>
      refine Outcome.bind_ok.2 ⟨candidate?, secantIs, ?_⟩
      cases candidate? with
      | none => exact Outcome.map_ok.2 ⟨cash, middleIs, rfl⟩
      | some candidate =>
        dsimp only
        rw [if_neg (outside candidate rfl)]
        exact Outcome.map_ok.2 ⟨cash, middleIs, rfl⟩

end Next

section Search

variable {residual : Decimal → Except Failure Decimal} {accepted margin : Decimal}

/-! ## Steps -/

/-- A step evaluates the next amount and observes it. -/
theorem Search.step?_ok {search next : Search} : search.step? residual = .ok (some next) ↔
    ∃ point : Point, next? search.bracket search.previous search.current = .ok (some point.cash) ∧
      point.Evaluated residual ∧ next = ⟨search.current, point, search.bracket.observe point⟩ := by
  constructor
  · intro stepped
    obtain ⟨cash?, nextIs, rest⟩ := Outcome.bind_ok.1 stepped
    cases cash? with
    | none => simp at rest
    | some cash =>
      obtain ⟨found, evaluated, collected⟩ := Outcome.bind_ok.1 rest
      obtain rfl := Option.some.inj (Outcome.pure_ok.1 collected)
      exact ⟨⟨cash, found⟩, Outcome.liftArithmetic_ok.1 nextIs, evaluated, rfl⟩
  · rintro ⟨point, nextIs, evaluated, rfl⟩
    exact Outcome.bind_ok.2 ⟨some point.cash, Outcome.liftArithmetic_ok.2 nextIs,
      Outcome.bind_ok.2 ⟨point.residual, evaluated, rfl⟩⟩

theorem Search.step?_current {search next : Search}
    (stepped : search.step? residual = .ok (some next)) : next.current.Evaluated residual := by
  obtain ⟨point, -, evaluated, rfl⟩ := step?_ok.1 stepped
  exact evaluated

/-- A number of steps of a search, each of them from a point that was tested and refused. -/
inductive Search.Reaches (residual : Decimal → Except Failure Decimal) (accepted : Decimal) :
    Nat → Search → Search → Prop
  | start (search : Search) : Reaches residual accepted 0 search search
  | step {steps : Nat} {before next after : Search}
    (refused : ¬before.current.residual.abs ≤ accepted)
    (stepped : before.step? residual = .ok (some next))
    (onward : Reaches residual accepted steps next after) :
    Reaches residual accepted (steps + 1) before after

namespace Search.Reaches

variable {steps : Nat} {before after : Search}

/-- No step loses the residual of the current point. -/
theorem current (reaches : Search.Reaches residual accepted steps before after)
    (evaluated : before.current.Evaluated residual) : after.current.Evaluated residual := by
  induction reaches with
  | start => exact evaluated
  | step _ stepped _ inductionHypothesis => exact inductionHypothesis (step?_current stepped)

/-- After its steps a search goes on with the iterations that they have left. -/
theorem run_eq (reaches : Search.Reaches residual accepted steps before after)
    (maxIterations left : Nat) :
    Search.run residual accepted maxIterations (steps + left) before =
      Search.run residual accepted maxIterations left after := by
  induction reaches with
  | start => rw [Nat.zero_add]
  | step refused stepped _ inductionHypothesis =>
    rw [Nat.succ_add, Search.run, if_neg refused, stepped]
    exact inductionHypothesis

end Search.Reaches

/-! ## Ends -/

/-- The ways in which a search ends, each with its outcome. -/
inductive Search.Ends (residual : Decimal → Except Failure Decimal) (accepted : Decimal)
    (maxIterations left : Nat) (search : Search) : Except Failure Decimal → Prop
  /-- The current point is accepted. -/
  | accepted {steps : Nat} {last : Search} (within : steps < left)
    (reaches : Search.Reaches residual accepted steps search last)
    (small : last.current.residual.abs ≤ accepted) :
    Ends residual accepted maxIterations left search (.ok last.current.cash)
  /-- The current point is refused, and there is no further amount to try. -/
  | stuck {steps : Nat} {last : Search} (within : steps < left)
    (reaches : Search.Reaches residual accepted steps search last)
    (refused : ¬last.current.residual.abs ≤ accepted)
    (stepped : last.step? residual = .ok none) :
    Ends residual accepted maxIterations left search
      (.error (.noConvergence maxIterations last.current.residual))
  /-- The current point is refused, and the next one cannot be found. -/
  | failed {steps : Nat} {last : Search} {failure : Failure} (within : steps < left)
    (reaches : Search.Reaches residual accepted steps search last)
    (refused : ¬last.current.residual.abs ≤ accepted)
    (stepped : last.step? residual = .error failure) :
    Ends residual accepted maxIterations left search (.error failure)
  /-- All iterations are used up, and the current point is not tested. -/
  | exhausted {last : Search} (reaches : Search.Reaches residual accepted left search last) :
    Ends residual accepted maxIterations left search
      (.error (.noConvergence maxIterations last.current.residual))

/-- A search ends as it would have ended after one more step. -/
private theorem Search.Ends.step {maxIterations left : Nat} {search next : Search}
    {outcome : Except Failure Decimal} (refused : ¬search.current.residual.abs ≤ accepted)
    (stepped : search.step? residual = .ok (some next))
    (ends : next.Ends residual accepted maxIterations left outcome) :
    search.Ends residual accepted maxIterations (left + 1) outcome := by
  cases ends with
  | accepted within reaches small =>
    exact .accepted (Nat.succ_lt_succ within) (.step refused stepped reaches) small
  | stuck within reaches lastRefused last =>
    exact .stuck (Nat.succ_lt_succ within) (.step refused stepped reaches) lastRefused last
  | failed within reaches lastRefused last =>
    exact .failed (Nat.succ_lt_succ within) (.step refused stepped reaches) lastRefused last
  | exhausted reaches => exact .exhausted (.step refused stepped reaches)

/-- Every search ends in one of these ways. -/
theorem Search.run_ends (residual : Decimal → Except Failure Decimal) (accepted : Decimal)
    (maxIterations left : Nat) (search : Search) :
    search.Ends residual accepted maxIterations left
      (Search.run residual accepted maxIterations left search) := by
  induction left generalizing search with
  | zero => exact .exhausted (.start search)
  | succ left inductionHypothesis =>
    rw [Search.run]
    by_cases small : search.current.residual.abs ≤ accepted
    · rw [if_pos small]
      exact .accepted (Nat.succ_pos left) (.start search) small
    · rw [if_neg small]
      cases stepped : search.step? residual with
      | error failure => exact .failed (Nat.succ_pos left) (.start search) small stepped
      | ok next? =>
        cases next? with
        | none => exact .stuck (Nat.succ_pos left) (.start search) small stepped
        | some next => exact (inductionHypothesis next).step small stepped

/-! ## The first two amounts -/

/-- The search that two points open. -/
def Search.opened (first second : Point) : Search :=
  ⟨first, second, (Bracket.observe {} first).observe second⟩

/-- The two points that open a search, the first of which was refused. -/
structure Opening (residual : Decimal → Except Failure Decimal) (accepted margin : Decimal)
    (first second : Point) : Prop where
  first_guess : firstGuess margin = .ok first.cash
  first_evaluated : first.Evaluated residual
  first_refused : ¬first.residual.abs ≤ accepted
  second_guess : secondGuess first.cash = .ok second.cash
  second_evaluated : second.Evaluated residual

theorem Opening.seek_eq {first second : Point}
    (opening : Opening residual accepted margin first second) (maxIterations : Nat) :
    seek residual accepted margin maxIterations =
      Search.run residual accepted maxIterations maxIterations (.opened first second) := by
  have firstEvaluated : residual first.cash = .ok first.residual := opening.first_evaluated
  have secondEvaluated : residual second.cash = .ok second.residual := opening.second_evaluated
  simp only [seek, opening.first_guess, firstEvaluated, if_neg opening.first_refused,
    opening.second_guess, secondEvaluated, Search.opened, bind, Except.bind, liftM, monadLift,
    MonadLift.monadLift, Except.mapError]

/-- The ways in which a search from its first amounts starts, each with its outcome. -/
inductive Starts (residual : Decimal → Except Failure Decimal) (accepted margin : Decimal)
    (maxIterations : Nat) : Except Failure Decimal → Prop
  /-- An amount to try leaves the range of decimals. -/
  | unguessed {error : Decimal.Error} :
    Starts residual accepted margin maxIterations (.error (.arithmetic error))
  /-- The residual of an amount cannot be found. -/
  | failed {cash : Decimal} {failure : Failure} (unfound : residual cash = .error failure) :
    Starts residual accepted margin maxIterations (.error failure)
  /-- The first point is accepted. -/
  | accepted {point : Point} (guess : firstGuess margin = .ok point.cash)
    (evaluated : point.Evaluated residual) (small : point.residual.abs ≤ accepted) :
    Starts residual accepted margin maxIterations (.ok point.cash)
  /-- The first point is refused, and with the second one it opens the search. -/
  | opened {first second : Point} (opening : Opening residual accepted margin first second) :
    Starts residual accepted margin maxIterations
      (Search.run residual accepted maxIterations maxIterations (.opened first second))

/-- Every search starts in one of these ways. -/
theorem seek_starts (residual : Decimal → Except Failure Decimal) (accepted margin : Decimal)
    (maxIterations : Nat) : Starts residual accepted margin maxIterations
      (seek residual accepted margin maxIterations) := by
  unfold seek
  cases guessed : firstGuess margin with
  | error error => exact .unguessed
  | ok cash =>
    change Starts _ _ _ _ (residual cash >>= _)
    cases evaluated : residual cash with
    | error failure => exact .failed evaluated
    | ok found =>
      change Starts _ _ _ _ (if found.abs ≤ accepted then _ else _)
      split
      next small => exact .accepted guessed evaluated small
      next refused =>
        cases guessedMore : secondGuess cash with
        | error error => exact .unguessed
        | ok more =>
          change Starts _ _ _ _ (residual more >>= _)
          cases evaluatedMore : residual more with
          | error failure => exact .failed evaluatedMore
          | ok foundMore =>
            exact .opened ⟨guessed, evaluated, refused, guessedMore, evaluatedMore⟩

/-- The points at which a search from its first amounts may answer. -/
inductive Answers (residual : Decimal → Except Failure Decimal) (accepted margin : Decimal)
    (maxIterations : Nat) : Point → Prop
  /-- The first point, if it is accepted. -/
  | first {point : Point} (guess : firstGuess margin = .ok point.cash)
    (evaluated : point.Evaluated residual) (small : point.residual.abs ≤ accepted) :
    Answers residual accepted margin maxIterations point
  /-- The first later point that is accepted, within the iterations. -/
  | later {first second : Point} {steps : Nat} {last : Search}
    (opening : Opening residual accepted margin first second) (within : steps < maxIterations)
    (reaches : Search.Reaches residual accepted steps (.opened first second) last)
    (small : last.current.residual.abs ≤ accepted) :
    Answers residual accepted margin maxIterations last.current

namespace Answers

variable {maxIterations : Nat} {point : Point}

theorem evaluated (answers : Answers residual accepted margin maxIterations point) :
    point.Evaluated residual := by
  cases answers with
  | first _ evaluated _ => exact evaluated
  | later opening _ reaches _ => exact reaches.current opening.second_evaluated

theorem small (answers : Answers residual accepted margin maxIterations point) :
    point.residual.abs ≤ accepted := by
  cases answers with
  | first _ _ small => exact small
  | later _ _ _ small => exact small

end Answers

/-- **A search answers exactly at these points.** -/
theorem seek_ok_iff {maxIterations : Nat} {cash : Decimal} :
    seek residual accepted margin maxIterations = .ok cash ↔
      ∃ found, Answers residual accepted margin maxIterations ⟨cash, found⟩ := by
  constructor
  · intro answered
    have starts := seek_starts residual accepted margin maxIterations
    generalize seek residual accepted margin maxIterations = outcome at answered starts
    cases starts with
    | unguessed => cases answered
    | failed => cases answered
    | @accepted point guess evaluated small =>
      cases answered
      exact ⟨point.residual, .first guess evaluated small⟩
    | @opened first second opening =>
      have ends := Search.run_ends residual accepted maxIterations maxIterations
        (.opened first second)
      rw [answered] at ends
      cases ends with
      | accepted within reaches small => exact ⟨_, .later opening within reaches small⟩
  · rintro ⟨found, answers⟩
    generalize pointIs : (⟨cash, found⟩ : Point) = point at answers
    obtain rfl : point.cash = cash := congrArg Point.cash pointIs.symm
    cases answers with
    | first guess evaluated small =>
      refine Outcome.bind_ok.2 ⟨point.cash, Outcome.liftArithmetic_ok.2 guess,
        Outcome.bind_ok.2 ⟨point.residual, evaluated, ?_⟩⟩
      simp [small]
    | @later _ _ steps last opening within reaches small =>
      obtain ⟨more, rfl⟩ := Nat.exists_eq_add_of_lt within
      rw [opening.seek_eq, Nat.add_assoc, reaches.run_eq, Search.run, if_pos small]
      rfl

/-- A search that does not converge was opened and did not converge from there, unless a residual said
so by itself. -/
theorem seek_noConvergence {maxIterations iterations : Nat} {found : Decimal}
    (failed : seek residual accepted margin maxIterations =
      .error (.noConvergence iterations found)) :
    (∃ cash, residual cash = .error (.noConvergence iterations found)) ∨
      ∃ first second, Opening residual accepted margin first second ∧
        Search.run residual accepted maxIterations maxIterations (.opened first second) =
          .error (.noConvergence iterations found) := by
  have starts := seek_starts residual accepted margin maxIterations
  generalize seek residual accepted margin maxIterations = outcome at failed starts
  cases starts with
  | unguessed => cases failed
  | accepted => cases failed
  | @failed cash failure unfound =>
    obtain rfl := Except.error.inj failed
    exact .inl ⟨cash, unfound⟩
  | @opened first second opening => exact .inr ⟨first, second, opening, failed⟩

end Search

/-! ## Problems -/

section Problem

variable {problem : Problem} {target : Float} {effort : Effort}
  {total margin factor accepted cash found : Decimal}

/-- The steps of a residual. -/
theorem Problem.residual_ok : problem.residual total factor cash = .ok found ↔
    ∃ paid worth required demanded, problem.book.add problem.domestic cash = .ok paid ∧
      total.add cash = .ok worth ∧ problem.margin paid = .ok required ∧
      factor.mul required = .ok demanded ∧ worth.sub demanded = .ok found := by
  simp only [Problem.residual, Outcome.bind_ok, Outcome.liftArithmetic_ok]
  constructor
  · rintro ⟨paid, added, worth, summed, required, margined, demanded, scaled, subtracted⟩
    exact ⟨paid, worth, required, demanded, added, summed, margined, scaled, subtracted⟩
  · rintro ⟨paid, worth, required, demanded, added, summed, margined, scaled, subtracted⟩
    exact ⟨paid, added, worth, summed, required, margined, demanded, scaled, subtracted⟩

theorem acceptance_ok {tolerance : Decimal} : acceptance tolerance total margin = .ok accepted ↔
    ∃ size, total.abs.add margin = .ok size ∧ tolerance.mul (max size 1) = .ok accepted :=
  Outcome.bind_ok

/-- A residual fails to converge only where the rule for margins says so. -/
theorem Problem.residual_noConvergence {iterations : Nat}
    (failed : problem.residual total factor cash = .error (.noConvergence iterations found)) :
    ∃ book, problem.margin book = .error (.noConvergence iterations found) := by
  simp only [Problem.residual, Outcome.bind_error, Outcome.liftArithmetic_ne_noConvergence,
    Outcome.liftArithmetic_ok, false_or, or_false, and_false, exists_false] at failed
  obtain ⟨book, -, -, -, own⟩ := failed
  exact ⟨book, own⟩

variable [SummationOrder]

/-- What the search for a problem starts from. -/
structure Problem.Sought (problem : Problem) (target : Float)
    (tolerance total margin factor accepted : Decimal) : Prop where
  factored : ∃ decimal, target? target = some decimal ∧ Decimal.add 1 decimal = .ok factor
  totaled : problem.book.totalIn problem.domestic problem.spot = .ok total
  margined : problem.margin problem.book = .ok margin
  margin_ne_zero : margin ≠ 0
  accepted_eq : acceptance tolerance total margin = .ok accepted

/-- The search that a problem comes down to, if its book has a margin. -/
theorem solve_eq {decimal : Decimal} (targetIs : target? target = some decimal)
    (totaled : problem.book.totalIn problem.domestic problem.spot = .ok total)
    (margined : problem.margin problem.book = .ok margin)
    (factored : Decimal.add 1 decimal = .ok factor) :
    solve problem target effort = if margin = 0 then .ok 0 else
      liftM (acceptance effort.tolerance total margin) >>= fun accepted =>
        seek (problem.residual total factor) accepted margin effort.maxIterations := by
  simp only [solve, targetIs, totaled, margined, factored, bind, Except.bind, liftM, monadLift,
    MonadLift.monadLift, Except.mapError, pure, Except.pure]

theorem Problem.Sought.solve_eq
    (sought : problem.Sought target effort.tolerance total margin factor accepted) :
    solve problem target effort =
      seek (problem.residual total factor) accepted margin effort.maxIterations := by
  obtain ⟨decimal, targetIs, factored⟩ := sought.factored
  rw [Deposit.solve_eq targetIs sought.totaled sought.margined factored,
    if_neg sought.margin_ne_zero, sought.accepted_eq]
  rfl

/-- The ways in which an attempt at a problem goes, each with its outcome. -/
inductive Problem.Attempt (problem : Problem) (target : Float) (effort : Effort) :
    Except Failure Decimal → Prop
  /-- There is no such target. -/
  | refused : Attempt problem target effort (.error (.invalidTarget target))
  /-- The book cannot be added up. -/
  | untotaled {error : Spot.ConversionError} :
    Attempt problem target effort (.error (.ofConversion error))
  /-- The book has no margin by the rule. -/
  | unmargined {failure : Failure} (unfound : problem.margin problem.book = .error failure) :
    Attempt problem target effort (.error failure)
  /-- The margin of the book is zero, and so is the deposit. -/
  | idle {decimal total : Decimal} (targeted : target? target = some decimal)
    (totaled : problem.book.totalIn problem.domestic problem.spot = .ok total)
    (margined : problem.margin problem.book = .ok 0) : Attempt problem target effort (.ok 0)
  /-- What the search starts from leaves the range of decimals. -/
  | overflowing {error : Decimal.Error} : Attempt problem target effort (.error (.arithmetic error))
  /-- The deposit is sought. -/
  | sought {total margin factor accepted : Decimal}
    (sought : problem.Sought target effort.tolerance total margin factor accepted) :
    Attempt problem target effort
      (seek (problem.residual total factor) accepted margin effort.maxIterations)

/-- Every attempt goes in one of these ways. -/
theorem solve_attempt (problem : Problem) (target : Float) (effort : Effort) :
    problem.Attempt target effort (solve problem target effort) := by
  unfold solve
  cases targeted : target? target with
  | none => exact .refused
  | some decimal =>
    cases totaled : problem.book.totalIn problem.domestic problem.spot with
    | error error => exact .untotaled
    | ok total =>
      change problem.Attempt _ _ (problem.margin problem.book >>= _)
      cases margined : problem.margin problem.book with
      | error failure => exact .unmargined margined
      | ok margin =>
        change problem.Attempt _ _ (if margin = 0 then _ else _)
        split
        next none => exact .idle targeted totaled (none ▸ margined)
        next some =>
          cases factored : Decimal.add 1 decimal with
          | error error => exact .overflowing
          | ok factor =>
            change problem.Attempt _ _ (liftM (acceptance effort.tolerance total margin) >>= _)
            cases acceptedIs : acceptance effort.tolerance total margin with
            | error error => exact .overflowing
            | ok accepted =>
              exact .sought ⟨⟨decimal, targeted, factored⟩, totaled, margined, some, acceptedIs⟩

/-- **A solved deposit has been accepted.** Unless the book has no margin and needs no cash, it is
where the search from the margin of the book answers. -/
theorem solve_ok (solved : solve problem target effort = .ok cash) :
    ∃ decimal total margin, target? target = some decimal ∧
      problem.book.totalIn problem.domestic problem.spot = .ok total ∧
      problem.margin problem.book = .ok margin ∧
      (margin = 0 ∧ cash = 0 ∨
        margin ≠ 0 ∧ ∃ factor accepted found, Decimal.add 1 decimal = .ok factor ∧
          acceptance effort.tolerance total margin = .ok accepted ∧
          Answers (problem.residual total factor) accepted margin effort.maxIterations
            ⟨cash, found⟩) := by
  have attempt := solve_attempt problem target effort
  generalize solve problem target effort = outcome at solved attempt
  cases attempt with
  | refused => cases solved
  | untotaled => cases solved
  | unmargined => cases solved
  | overflowing => cases solved
  | @idle decimal total targeted totaled margined =>
    cases solved
    exact ⟨decimal, total, 0, targeted, totaled, margined, .inl ⟨rfl, rfl⟩⟩
  | @sought total margin factor accepted sought =>
    obtain ⟨decimal, targeted, factored⟩ := sought.factored
    obtain ⟨found, answers⟩ := seek_ok_iff.1 solved
    exact ⟨decimal, total, margin, targeted, sought.totaled, sought.margined,
      .inr ⟨sought.margin_ne_zero, factor, accepted, found, factored, sought.accepted_eq, answers⟩⟩

/-- A deposit that is not solved for want of convergence was sought without it, unless the rule for
margins reports that by itself. -/
theorem exists_sought_of_noConvergence {iterations : Nat}
    (failed : solve problem target effort = .error (.noConvergence iterations found)) :
    (∃ book, problem.margin book = .error (.noConvergence iterations found)) ∨
      ∃ total margin factor accepted,
        problem.Sought target effort.tolerance total margin factor accepted ∧
        seek (problem.residual total factor) accepted margin effort.maxIterations =
          .error (.noConvergence iterations found) := by
  have attempt := solve_attempt problem target effort
  generalize solve problem target effort = outcome at failed attempt
  cases attempt with
  | refused => cases failed
  | @untotaled error => cases error <;> cases failed
  | idle => cases failed
  | overflowing => cases failed
  | @unmargined failure unfound =>
    obtain rfl := Except.error.inj failed
    exact .inl ⟨problem.book, unfound⟩
  | @sought total margin factor accepted sought =>
    exact .inr ⟨total, margin, factor, accepted, sought, failed⟩

end Problem

end Collateral.Deposit
