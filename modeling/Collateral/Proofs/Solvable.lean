import Collateral.Proofs.BinaryDecimal
import Collateral.Proofs.Overflows
import Collateral.Proofs.Range
import Collateral.Settings.Basic

/-!
Contract: what comes of solving a deposit for a book that has a total and a margin.

Only an overflow stops the arithmetic of a search, and none does while the sizes are in range. Out of
range one can: large amounts, a large tolerance, or a residual that falls because every unit of cash
costs more margin than it is worth.

Owns: the outcome of a deposit for targets from nought to ten, and books whose search overflows.
-/

namespace Collateral.Deposit

variable {terms : Terms} {spot : Spot} {book : Book} {target : Float} {total margin : Decimal}

/-- **A deposit is solved, or its search does not converge, or an operation overflows.** In range no
operation does. -/
theorem solve_concludes_or_overflows [SummationOrder] (quoted : terms.spot = spot.quotes)
    (nonneg : (0 : Float) ≤ target) (le : target ≤ 10) (effort : Effort)
    (totaled : book.totalIn terms.domestic terms.spot = .ok total)
    (margined : Margin.ofBook terms book = .ok margin) :
    ∃ decimal factor, target? target = some decimal ∧ Decimal.add 1 decimal = .ok factor ∧
      (Concludes (solve (Problem.ofTerms terms book) target effort) ∨
        ∃ operation, solve (Problem.ofTerms terms book) target effort =
          .error (.arithmetic (.overflow operation))) ∧
      (InRange terms book factor effort.tolerance total margin →
        Concludes (solve (Problem.ofTerms terms book) target effort)) := by
  have par : terms.AtPar := Spot.quotes_atPar quoted
  have fine : (1 / 10 ^ 28 : Rat) ≤ 1 / 10 ^ 28 := le_rfl
  obtain ⟨decimal, targetIs, decimalNonneg, decimalLe⟩ := exists_target nonneg le
  obtain ⟨factor, factored, -⟩ := exists_factor decimalNonneg decimalLe
  refine ⟨decimal, factor, targetIs, factored, ?_, fun inRange => inRange.solve_concludes fine par
    targetIs decimalNonneg decimalLe totaled margined factored⟩
  cases outcome : solve (Problem.ofTerms terms book) target effort with
  | ok cash => exact .inl (.inl ⟨cash, rfl⟩)
  | error failure =>
    rcases solve_failsBy_of_margined par targetIs totaled margined effort failure outcome with
      ⟨operation, rfl⟩ | ⟨iterations, found, rfl⟩
    · exact .inr ⟨operation, rfl⟩
    · exact .inl (.inr ⟨iterations, found, rfl⟩)

/-! ## Books that owe euros -/

/-- One rate of the euro in dollars, one haircut for all pairs, and a multiplier of two. -/
private def euroTerms (rate haircut : Figure) (nonneg : 0 ≤ haircut.value) : Terms where
  domestic := ⟨"USD"⟩
  spot := Spot.quotes ⟨⟨"USD"⟩, Table.ofList [(⟨⟨"EUR"⟩, ⟨"USD"⟩⟩, rate.value)]⟩
  haircuts := ⟨⟨"broker"⟩, haircut.value, .empty, nonneg, List.forall_mem_nil _⟩
  multiplier := 2

private def owingEuros (dollars euros : Figure) : Book :=
  ⟨Table.ofList [(⟨"USD"⟩, dollars.value), (⟨"EUR"⟩, -euros.value)]⟩

/-- A euro for a dollar and a fifth, and a tenth for haircut. -/
private def tenthTerms : Terms :=
  euroTerms ⟨false, 12, 1, by decide⟩ .tenth (by decide +kernel)

/-- Dollars that cover the debt. -/
private def covered : Book :=
  owingEuros ⟨false, 480000, 0, by decide⟩ ⟨false, 250000, 0, by decide⟩

private theorem covered_inRange :
    InRange tenthTerms covered (Figure.value ⟨false, 15, 1, by decide⟩)
      ({} : Settings).search.effort.tolerance (Figure.value ⟨false, 180000, 0, by decide⟩)
      (Figure.value ⟨false, 60000, 0, by decide⟩) :=
  ⟨⟨by decide +kernel, by decide +kernel, by decide +kernel, by decide +kernel⟩,
    by decide +kernel, by decide +kernel, by decide +kernel, by decide +kernel, by decide +kernel⟩

/-- The search for a target of a half concludes: ninety thousand dollars may be taken out. -/
theorem solve_concludes_or_overflows_covered :
    InRange tenthTerms covered (Figure.value ⟨false, 15, 1, by decide⟩)
      ({} : Settings).search.effort.tolerance (Figure.value ⟨false, 180000, 0, by decide⟩)
      (Figure.value ⟨false, 60000, 0, by decide⟩) ∧
    covered.totalIn tenthTerms.domestic tenthTerms.spot =
      .ok (Figure.value ⟨false, 180000, 0, by decide⟩) ∧
    Margin.ofBook tenthTerms covered = .ok (Figure.value ⟨false, 60000, 0, by decide⟩) ∧
    Concludes (solve (Problem.ofTerms tenthTerms covered) 0.5 ({} : Settings).search.effort) ∧
    solve (Problem.ofTerms tenthTerms covered) 0.5 ({} : Settings).search.effort =
      .ok (Figure.value ⟨true, 90000, 0, by decide⟩) := by
  have totaled : covered.totalIn tenthTerms.domestic tenthTerms.spot =
    .ok (Figure.value ⟨false, 180000, 0, by decide⟩) := by decide +kernel
  have margined : Margin.ofBook tenthTerms covered =
    .ok (Figure.value ⟨false, 60000, 0, by decide⟩) := by decide +kernel
  have targetIs : target? 0.5 = some (Figure.value ⟨false, 5, 1, by decide⟩) := by decide +kernel
  have factored : Decimal.add 1 (Figure.value ⟨false, 5, 1, by decide⟩) =
    .ok (Figure.value ⟨false, 15, 1, by decide⟩) := by decide +kernel
  have quoted : tenthTerms.spot =
      Spot.quotes ⟨⟨"USD"⟩, Table.ofList [(⟨⟨"EUR"⟩, ⟨"USD"⟩⟩,
        Figure.value ⟨false, 12, 1, by decide⟩)]⟩ := by
    rw [tenthTerms, euroTerms]
  have nonneg : (0 : Float) ≤ 0.5 := by decide +kernel
  have le : (0.5 : Float) ≤ 10 := by decide +kernel
  obtain ⟨decimal, factor, targetIs', factored', -, concludes⟩ := solve_concludes_or_overflows quoted
    nonneg le ({} : Settings).search.effort totaled margined
  obtain rfl := Option.some.inj (targetIs.symm.trans targetIs')
  obtain rfl := Except.ok.inj (factored.symm.trans factored')
  exact ⟨covered_inRange, totaled, margined, concludes covered_inRange, by decide +kernel⟩

/-! ## Searches that overflow -/

/-- Settings that accept every residual. -/
private def tolerant : Settings :=
  { search := { tolerance := ⟨false, 7 * 10 ^ 28, 0, by decide⟩ } }

/-- A euro for a dollar, and half for haircut. -/
private def halfTerms : Terms :=
  euroTerms 1 ⟨false, 5, 1, by decide⟩ (by decide +kernel)

/-- Twice the margin of this book is more than the largest decimal. -/
private def vast : Book :=
  owingEuros ⟨false, 5 * 10 ^ 28, 0, by decide⟩ ⟨false, 4 * 10 ^ 28, 0, by decide⟩

/-- A unit of cash that covers debt of this book costs one and a half in margin. -/
private def uncovered : Book :=
  owingEuros ⟨false, 100, 0, by decide⟩ ⟨false, 30066666666666666666666666667, 26, by decide⟩

/-- Searches overflow for a tolerance, a book and a cost of cash out of range. -/
theorem solve_overflows :
    (tolerant.check = .ok () ∧ ({} : Settings).check = .ok () ∧ (0 : Float) ≤ 0.5 ∧
      (0.5 : Float) ≤ 10 ∧ 0 < tenthTerms.multiplier.toRat ∧ 0 < halfTerms.multiplier.toRat) ∧
    ((covered.totalIn tenthTerms.domestic tenthTerms.spot).toBool ∧
      (Margin.ofBook tenthTerms covered).toBool ∧
      solve (Problem.ofTerms tenthTerms covered) 0.5 tolerant.search.effort =
        .error (.arithmetic (.overflow .multiplication))) ∧
    ((vast.totalIn halfTerms.domestic halfTerms.spot).toBool ∧
      (Margin.ofBook halfTerms vast).toBool ∧
      solve (Problem.ofTerms halfTerms vast) 0 ({} : Settings).search.effort =
        .error (.arithmetic (.overflow .multiplication))) ∧
    (uncovered.totalIn halfTerms.domestic halfTerms.spot).toBool ∧
      (Margin.ofBook halfTerms uncovered).toBool ∧
      solve (Problem.ofTerms halfTerms uncovered) 0.5 ({} : Settings).search.effort =
        .error (.arithmetic (.overflow .multiplication)) := by
  decide +kernel

end Collateral.Deposit
