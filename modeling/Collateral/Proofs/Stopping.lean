import Collateral.Proofs.Residual
import Collateral.Proofs.Timeline

/-!
Contract: what the two outcomes of a search say about the point at which it stopped.

A deposit is answered only after its own residual was found to be within the tolerance, whatever the
rule for margins may be. A search that does not converge reports the residual of its current point.
If it has stopped for want of a further amount, that point was refused. If it has stopped for want of
iterations, that point was not tested: one more iteration would test it, and answers with it exactly
when it is within the tolerance.

Owns: the equations that a solved deposit satisfies, and what a report of no convergence leaves open.
-/

namespace Collateral.Deposit

section Search

variable [Rounding] {residual : Decimal → Except Failure Decimal} {accepted found : Decimal}
  {iterations : Nat}

/-- A step fails to converge only where a residual says so. -/
theorem Search.step?_noConvergence {search : Search}
    (failed : search.step? residual = .error (.noConvergence iterations found)) :
    ∃ cash, residual cash = .error (.noConvergence iterations found) := by
  rcases Outcome.bind_error.1 failed with unguessed | ⟨cash?, -, rest⟩
  · simp at unguessed
  · cases cash? with
    | none => cases rest
    | some cash =>
      rcases Outcome.bind_error.1 rest with own | ⟨value, -, collected⟩
      · exact ⟨cash, own⟩
      · cases collected

/-- With one iteration, a search answers with its current point or not at all. -/
theorem Search.run_one_ok_iff {maxIterations : Nat} {search : Search} {cash : Decimal} :
    Search.run residual accepted maxIterations 1 search = .ok cash ↔
      search.current.residual.abs ≤ accepted ∧ search.current.cash = cash := by
  rw [Search.run]
  split
  next small => simp [small]
  next refused =>
    simp only [refused, false_and, iff_false]
    intro answered
    obtain ⟨next?, -, rest⟩ := Outcome.bind_ok.1 answered
    cases next? <;> cases rest

/-- **The point at which a search does not converge.** It has been refused, or it is where the
iterations end; and one more iteration answers exactly if the point is within the tolerance. -/
theorem Search.run_noConvergence {maxIterations left : Nat} {search : Search}
    (failed : Search.run residual accepted maxIterations left search =
      .error (.noConvergence iterations found)) :
    (∃ cash, residual cash = .error (.noConvergence iterations found)) ∨
      iterations = maxIterations ∧ ∃ steps last,
        Search.Reaches residual accepted steps search last ∧ last.current.residual = found ∧
        steps ≤ left ∧ (steps < left → ¬found.abs ≤ accepted) ∧
        ∀ maxIterations' cash,
          Search.run residual accepted maxIterations' (left + 1) search = .ok cash ↔
            found.abs ≤ accepted ∧ last.current.cash = cash := by
  have ends := Search.run_ends residual accepted maxIterations left search
  generalize outcomeIs : Search.run residual accepted maxIterations left search = outcome at ends
  rw [failed] at outcomeIs
  cases ends with
  | accepted => cases outcomeIs
  | failed within reaches refused stepped =>
    obtain rfl := Except.error.inj outcomeIs
    exact .inl (Search.step?_noConvergence stepped)
  | @stuck steps last within reaches refused stepped =>
    obtain ⟨rfl, rfl⟩ := Failure.noConvergence.inj (Except.error.inj outcomeIs)
    refine .inr ⟨rfl, steps, last, reaches, rfl, within.le, fun _ => refused, ?_⟩
    intro maxIterations' cash
    -- A search that is stuck stays so, however many iterations it is given.
    obtain ⟨more, leftIs⟩ : ∃ more, left + 1 = steps + (more + 1) := ⟨left - steps, by omega⟩
    have onward : Search.run residual accepted maxIterations' (left + 1) search =
        .error (.noConvergence maxIterations' last.current.residual) := by
      rw [leftIs, reaches.run_eq, Search.run, if_neg refused, stepped]
      rfl
    simp [onward, refused]
  | @exhausted last reaches =>
    obtain ⟨rfl, rfl⟩ := Failure.noConvergence.inj (Except.error.inj outcomeIs)
    refine .inr ⟨rfl, left, last, reaches, rfl, le_rfl, fun early => absurd early (lt_irrefl _), ?_⟩
    intro maxIterations' cash
    rw [reaches.run_eq]
    exact Search.run_one_ok_iff

end Search

/-! ## Dollars and a debt in euros -/

private theorem tenth_nonneg : 0 ≤ Figure.tenth.value := by decide +kernel

/-- A euro for a dollar and a fifth, a tenth for haircut, and a multiplier of two. -/
private def onePairTerms : Terms where
  domestic := ⟨"USD"⟩
  spot := Spot.quotes ⟨⟨"USD"⟩, Table.ofList
    [(⟨⟨"EUR"⟩, ⟨"USD"⟩⟩, (Projection.tenths 12).value)]⟩
  haircuts := .uniform ⟨"broker"⟩ Figure.tenth.value tenth_nonneg
  multiplier := 2

private def owing (dollars : Figure) : Problem :=
  .ofTerms onePairTerms ⟨Table.ofList
    [(⟨"USD"⟩, dollars.value), (⟨"EUR"⟩, -Projection.whole 250000)]⟩

/-- A tolerance of a millionth. -/
private def toMillionth (maxIterations : Nat) : Effort :=
  ⟨Figure.millionth.value, maxIterations⟩

/-! ## Solved deposits -/

section Solved

variable [Rounding] {problem : Problem} {target : Float} {effort : Effort} {cash : Decimal}

/-- **A solved deposit meets its target.** It is zero for a book without margin. Otherwise it is the
cash of a point that was tested, and the worth of the book that was paid differs from the margin of
that book at the factor of the target by no more than the tolerance, for the size of the book. -/
theorem solve_meets [SummationOrder] (solved : solve problem target effort = .ok cash) :
    ∃ decimal total margin, target? target = some decimal ∧
      problem.book.totalIn problem.domestic problem.spot = .ok total ∧
      problem.margin problem.book = .ok margin ∧
      (margin = 0 ∧ cash = 0 ∨
        margin ≠ 0 ∧ ∃ factor size accepted paid worth required demanded found,
          Decimal.add 1 decimal = .ok factor ∧
          (total.abs.add margin = .ok size ∧ effort.tolerance.mul (max size 1) = .ok accepted) ∧
          (problem.book.add problem.domestic cash = .ok paid ∧ total.add cash = .ok worth ∧
            problem.margin paid = .ok required ∧ factor.mul required = .ok demanded ∧
            worth.sub demanded = .ok found) ∧
          found.abs ≤ accepted ∧
          Answers (problem.residual total factor) accepted margin effort.maxIterations
            ⟨cash, found⟩) := by
  obtain ⟨decimal, total, margin, targetIs, totaled, margined, outcome⟩ := solve_ok solved
  refine ⟨decimal, total, margin, targetIs, totaled, margined, ?_⟩
  apply outcome.imp_right
  rintro ⟨some, factor, accepted, found, factored, acceptedIs, answers⟩
  obtain ⟨size, sized, scaled⟩ := acceptance_ok.1 acceptedIs
  obtain ⟨paid, worth, required, demanded, steps⟩ := Problem.residual_ok.1 answers.evaluated
  exact ⟨some, factor, size, accepted, paid, worth, required, demanded, found, factored,
    ⟨sized, scaled⟩, steps, answers.small, answers⟩

end Solved

/-- With a hundred thousand dollars the debt is not covered, and every dollar more raises the margin
by a fifth; so the search takes three steps. -/
theorem solve_meets_rising :
    solve (owing ⟨false, 100000, 0, by decide⟩) 0.5 (toMillionth 100) =
      .ok (Figure.value ⟨false, 290000, 0, by decide⟩) ∧
    ∃ total margin factor accepted found, margin ≠ 0 ∧ found.abs ≤ accepted ∧
      Answers ((owing ⟨false, 100000, 0, by decide⟩).residual total factor) accepted margin 100
        ⟨Figure.value ⟨false, 290000, 0, by decide⟩, found⟩ := by
  have solved : solve (owing ⟨false, 100000, 0, by decide⟩) 0.5 (toMillionth 100) =
    .ok (Figure.value ⟨false, 290000, 0, by decide⟩) := by decide +kernel
  refine ⟨solved, ?_⟩
  obtain ⟨decimal, total, margin, -, -, -, outcome⟩ := solve_meets solved
  rcases outcome with ⟨-, none⟩ | ⟨some, factor, size, accepted, paid, worth, required, demanded,
    found, -, -, -, small, answers⟩
  · exact absurd none (by decide +kernel)
  · exact ⟨total, margin, factor, accepted, found, some, small, answers⟩

/-! ## Searches that do not converge -/

section Unsolved

variable [Rounding] {problem : Problem} {target : Float} {effort : Effort}

/-- The haircut rule does not report a search. -/
theorem ofBook_ne_noConvergence (terms : Terms) (book : Book) (iterations : Nat) (found : Decimal) :
    Margin.ofBook terms book ≠ .error (.noConvergence iterations found) := by
  have other : Outcome.FailsBy (· ≠ Failure.noConvergence iterations found)
      (Margin.ofBook terms book) := by
    have lift : ∀ {α : Type} (step : Except Decimal.Error α), Outcome.FailsBy
        (· ≠ Failure.noConvergence iterations found) (liftM step : Except Failure α) := by
      rintro α step failure failed rfl
      exact Outcome.liftArithmetic_ne_noConvergence failed
    apply Outcome.FailsBy.bind
    · apply Outcome.FailsBy.mapM
      intro entry _
      apply Outcome.FailsBy.bind
      · rintro failure failed rfl
        exact Outcome.liftConversion_ne_noConvergence failed
      · exact fun _ _ => .ok _
    · exact fun _ _ => (lift _).bind fun _ _ => lift _
  exact fun failed => other _ failed rfl

/-- **What no convergence means.** Unless the rule for margins reports it by itself, the residual is
that of the point which the search has reached. A search that could have gone on has refused this
point. With one iteration more the search answers exactly if the point is within the tolerance, and
then with this point. -/
theorem solve_noConvergence [SummationOrder] {iterations : Nat} {found : Decimal}
    (failed : solve problem target effort = .error (.noConvergence iterations found)) :
    (∃ book, problem.margin book = .error (.noConvergence iterations found)) ∨
      iterations = effort.maxIterations ∧
      ∃ total margin factor accepted first second steps last,
        problem.Sought target effort.tolerance total margin factor accepted ∧
        Opening (problem.residual total factor) accepted margin first second ∧
        Search.Reaches (problem.residual total factor) accepted steps (.opened first second) last ∧
        last.current.Evaluated (problem.residual total factor) ∧ last.current.residual = found ∧
        steps ≤ iterations ∧ (steps < iterations → ¬found.abs ≤ accepted) ∧
        ∀ cash, solve problem target { effort with maxIterations := iterations + 1 } = .ok cash ↔
          found.abs ≤ accepted ∧ last.current.cash = cash := by
  rcases exists_sought_of_noConvergence failed with
    own | ⟨total, margin, factor, accepted, sought, unfound⟩
  · exact .inl own
  rcases seek_noConvergence unfound with ⟨cash, own⟩ | ⟨first, second, opening, ended⟩
  · exact .inl (Problem.residual_noConvergence own)
  rcases Search.run_noConvergence ended with
    ⟨cash, own⟩ | ⟨rfl, steps, last, reaches, foundIs, within, refused, onward⟩
  · exact .inl (Problem.residual_noConvergence own)
  refine .inr ⟨rfl, total, margin, factor, accepted, first, second, steps, last, sought, opening,
    reaches, reaches.current opening.second_evaluated, foundIs, within, refused, ?_⟩
  intro cash
  have longer : problem.Sought target
      { effort with maxIterations := effort.maxIterations + 1 }.tolerance total margin factor
      accepted := sought
  rw [longer.solve_eq, opening.seek_eq]
  exact onward _ cash

end Unsolved

/-- After three steps of that search the residual is zero, and its point is not tested. -/
theorem solve_noConvergence_rising :
    solve (owing ⟨false, 100000, 0, by decide⟩) 0.5 (toMillionth 3) = .error (.noConvergence 3 0) ∧
    ∃ total factor accepted first second steps last,
      Search.Reaches ((owing ⟨false, 100000, 0, by decide⟩).residual total factor) accepted steps
        (.opened first second) last ∧
      last.current.residual = 0 ∧ steps ≤ 3 ∧
      solve (owing ⟨false, 100000, 0, by decide⟩) 0.5 (toMillionth 4) = .ok last.current.cash := by
  have failed : solve (owing ⟨false, 100000, 0, by decide⟩) 0.5 (toMillionth 3) =
    .error (.noConvergence 3 0) := by decide +kernel
  have longer : solve (owing ⟨false, 100000, 0, by decide⟩) 0.5 (toMillionth 4) =
    .ok (Figure.value ⟨false, 290000, 0, by decide⟩) := by decide +kernel
  refine ⟨failed, ?_⟩
  rcases solve_noConvergence failed with ⟨book, own⟩ | ⟨-, total, margin, factor, accepted, first,
    second, steps, last, -, -, reaches, -, foundIs, within, -, onward⟩
  · exact absurd own (ofBook_ne_noConvergence _ _ _ _)
  · obtain ⟨-, cashIs⟩ := (onward _).1 longer
    exact ⟨total, factor, accepted, first, second, steps, last, reaches, foundIs, within,
      cashIs ▸ longer⟩

/-- A search is reported not to converge although its last point is within the tolerance. -/
theorem noConvergence_within_tolerance :
    ¬∀ (problem : Problem) (target : Float) (effort : Effort) (total margin accepted : Decimal)
      (iterations : Nat) (found : Decimal), 0 < effort.tolerance → 1 ≤ effort.maxIterations →
      problem.book.totalIn problem.domestic problem.spot = .ok total →
      problem.margin problem.book = .ok margin →
      acceptance effort.tolerance total margin = .ok accepted →
      solve problem target effort = .error (.noConvergence iterations found) →
      accepted < found.abs := by
  intro refused
  -- Ninety thousand dollars may be taken out, and the first step comes to that amount.
  have large := refused (owing ⟨false, 480000, 0, by decide⟩) 0.5 (toMillionth 1)
    (Figure.value ⟨false, 180000, 0, by decide⟩) (Figure.value ⟨false, 60000, 0, by decide⟩)
    (Figure.value ⟨false, 24, 2, by decide⟩) 1 0 (by decide +kernel) (by decide +kernel)
    (by decide +kernel) (by decide +kernel) (by decide +kernel) (by decide +kernel)
  exact absurd large (by decide +kernel)

end Collateral.Deposit
