import Collateral.Proofs.Headroom
import Collateral.Proofs.Residual

/-!
Contract: the only way in which a deposit can leave the range of decimals.

Every division of the library is by a number that is not zero: the secant divides by the difference of
two residuals that differ, and decimals that differ are far enough apart for their difference not to
be rounded to zero. So arithmetic fails for an overflow alone. A book that has a margin converts all
of its balances, with whatever cash it holds, so no deposit fails for want of a path either.

Owns: the causes for which operations, charges, margins, residuals and deposits fail.
-/

namespace Collateral

open Outcome (FailsBy)

/-! ## Operations -/

namespace Decimal

/-- An operation has left the range of decimals. -/
def Error.IsOverflow (error : Error) : Prop :=
  ∃ operation, error = .overflow operation

section Operations

variable [Rounding] (left right : Decimal)

private theorem fitted_failsBy (operation : Operation) (number : Rat) :
    FailsBy Error.IsOverflow (fitted operation number) :=
  fun _ failed => ⟨operation, fitted_error failed⟩

theorem add_failsBy : FailsBy Error.IsOverflow (left.add right) :=
  fitted_failsBy _ _

theorem sub_failsBy : FailsBy Error.IsOverflow (left.sub right) :=
  fitted_failsBy _ _

theorem mul_failsBy : FailsBy Error.IsOverflow (left.mul right) :=
  fitted_failsBy _ _

theorem div_failsBy {right : Decimal} (notZero : right ≠ 0) :
    FailsBy Error.IsOverflow (left.div right) := by
  rw [div, if_neg notZero]
  exact fitted_failsBy _ _

end Operations

/-- The least decimal above zero. -/
private def least : Decimal :=
  signed false 1 placesLimit (by decide) le_rfl

private theorem toRat_least : least.toRat = 1 / 10 ^ 28 := by
  rw [least, toRat_signed]
  norm_num [placesLimit]

private theorem least_pos : 0 < least.toRat := by
  rw [toRat_least]
  norm_num

/-- A decimal is a whole number of the least one. -/
private theorem exists_units (number : Decimal) :
    ∃ units : Int, number.toRat = units * least.toRat := by
  have placed : number.places ≤ 28 := number.places_le
  have scale : (10 : Rat) ^ 28 = 10 ^ number.places * 10 ^ (28 - number.places) := by
    rw [← pow_add, Nat.add_sub_of_le placed]
  refine ⟨number.coefficient * 10 ^ (28 - number.places), ?_⟩
  rw [toRat_least, toRat_eq, scale]
  push_cast
  field_simp

/-- Decimals that differ lie at least the least one apart. -/
private theorem least_le_abs_sub {left right : Decimal} (differ : left ≠ right) :
    least.toRat ≤ |left.toRat - right.toRat| := by
  obtain ⟨units, leftIs⟩ := exists_units left
  obtain ⟨units', rightIs⟩ := exists_units right
  have unitsDiffer : units - units' ≠ 0 := by
    intro same
    rw [sub_eq_zero] at same
    exact differ (toRat_injective (by rw [leftIs, rightIs, same]))
  have one : (1 : Rat) ≤ |((units - units' : Int) : Rat)| := by
    exact_mod_cast Int.one_le_abs unitsDiffer
  rw [leftIs, rightIs, ← sub_mul, abs_mul, abs_of_pos least_pos, ← Int.cast_sub]
  exact le_mul_of_one_le_left least_pos.le one

variable [Rounding] {grain : Rat} [Rounding.Lawful grain]

include grain in
/-- The difference of two decimals that differ is not rounded to zero. -/
theorem sub_ne_zero {left right difference : Decimal} (differ : left ≠ right)
    (subtracted : left.sub right = .ok difference) : difference ≠ 0 := by
  have fit := sub_ok.1 subtracted
  refine toRat_eq_zero.not.1 ?_
  rcases le_abs.1 (least_le_abs_sub differ) with above | below
  · exact (least_pos.trans_le (Rounding.le_fit above fit)).ne'
  · have low : left.toRat - right.toRat ≤ (-least).toRat := by
      rw [toRat_neg]
      linarith
    have bounded := Rounding.fit_le low fit
    rw [toRat_neg] at bounded
    exact (bounded.trans_lt (neg_neg_of_pos least_pos)).ne

end Decimal

/-! ## Charges -/

namespace Netting

variable [Rounding]

private theorem draw_failsBy (source debt : Bucket) :
    FailsBy Decimal.Error.IsOverflow (draw source debt) :=
  (Decimal.sub_failsBy _ _).bind fun _ _ => (Decimal.sub_failsBy _ _).bind fun _ _ => .ok _

private theorem cover_failsBy (debt : Bucket) (pool : List Bucket) :
    FailsBy Decimal.Error.IsOverflow (cover debt pool) := by
  induction pool generalizing debt with
  | nil => exact .ok _
  | cons source pool inductionHypothesis =>
    unfold cover
    split
    next => exact .ok _
    next =>
      refine (draw_failsBy source debt).bind fun drew _ => ?_
      split
      next => exact (inductionHypothesis _).bind fun _ _ => .ok _
      next => exact .ok _

private theorem coverAll_failsBy (debts pool : List Bucket) :
    FailsBy Decimal.Error.IsOverflow (coverAll debts pool) := by
  induction debts generalizing pool with
  | nil => exact .ok _
  | cons debt debts inductionHypothesis =>
    exact (cover_failsBy debt pool).bind fun first _ =>
      (inductionHypothesis first.pool).bind fun _ _ => .ok _

/-- A charge fails for an overflow alone. -/
theorem charge_failsBy (buckets : List Bucket) :
    FailsBy Decimal.Error.IsOverflow (charge buckets) :=
  (coverAll_failsBy _ _).bind fun _ _ => .foldlM (fun _ _ _ =>
    (Decimal.mul_failsBy _ _).bind fun _ _ => Decimal.add_failsBy _ _) _

end Netting

/-! ## Margins and deposits -/

/-- A calculation has left the range of decimals. -/
def Failure.IsOverflow (failure : Failure) : Prop :=
  ∃ operation, failure = .arithmetic (.overflow operation)

/-- A lifted operation fails for what the operation fails for. -/
theorem Failure.lift_failsBy {α : Type} {step : Except Decimal.Error α}
    (fails : FailsBy Decimal.Error.IsOverflow step) :
    FailsBy Failure.IsOverflow (liftM step : Except Failure α) :=
  fails.mapError fun _ ⟨operation, same⟩ => ⟨operation, congrArg Failure.arithmetic same⟩

variable [Rounding] {grain : Rat} [Rounding.Lawful grain] {terms : Terms} {book : Book}

include grain in
/-- Where the foreign balances have buckets, the margin fails for an overflow alone, whatever the
domestic balance is set to. -/
theorem Margin.ofBook_failsBy (par : terms.AtPar) {others : List Bucket}
    (built : foreign terms book = .ok others) (balance : Decimal) :
    FailsBy Failure.IsOverflow (ofBook terms ⟨book.balances.insert terms.domestic balance⟩) := by
  obtain ⟨found, foundBuilt⟩ := exists_buckets par built balance
  rw [ofBook, foundBuilt]
  exact (Failure.lift_failsBy (Netting.charge_failsBy found)).bind fun _ _ =>
    Failure.lift_failsBy (Decimal.mul_failsBy _ _)

namespace Deposit

include grain in
/-- Where the book has a margin, a residual fails for an overflow alone. -/
theorem residual_failsBy (par : terms.AtPar) {margin : Decimal}
    (margined : Margin.ofBook terms book = .ok margin) (total factor cash : Decimal) :
    FailsBy Failure.IsOverflow ((Problem.ofTerms terms book).residual total factor cash) := by
  obtain ⟨others, built⟩ := Margin.foreign_of_ofBook margined
  have paid : FailsBy Decimal.Error.IsOverflow (book.add terms.domestic cash) :=
    (Decimal.add_failsBy _ _).bind fun _ _ => .ok _
  refine (Failure.lift_failsBy paid).bind fun after paidIs => ?_
  obtain ⟨balance, -, collected⟩ := Outcome.bind_ok.1 (Outcome.liftArithmetic_ok.1 paidIs)
  obtain rfl := Outcome.pure_ok.1 collected
  refine (Failure.lift_failsBy (Decimal.add_failsBy _ _)).bind fun worth _ => ?_
  refine (Margin.ofBook_failsBy par built balance).bind fun required _ => ?_
  exact (Failure.lift_failsBy (Decimal.mul_failsBy _ _)).bind fun _ _ =>
    Failure.lift_failsBy (Decimal.sub_failsBy _ _)

/-! ## The search -/

include grain in
/-- The secant divides by the difference of two residuals that differ. -/
private theorem secant?_failsBy (previous current : Point) :
    FailsBy Decimal.Error.IsOverflow (secant? previous current) := by
  unfold secant?
  split
  next => exact .ok _
  next differ =>
    refine (Decimal.sub_failsBy _ _).bind fun run _ => (Decimal.mul_failsBy _ _).bind
      fun product _ => (Decimal.sub_failsBy _ _).bind fun rise subtracted => ?_
    exact (Decimal.div_failsBy _ (Decimal.sub_ne_zero differ subtracted)).bind
      fun step _ => (Decimal.sub_failsBy _ _).map _

omit [Rounding.Lawful grain] in
private theorem midpoint_failsBy (first second : Decimal) :
    FailsBy Decimal.Error.IsOverflow (midpoint first second) :=
  (Decimal.add_failsBy _ _).bind fun _ _ => Decimal.div_failsBy _ (by decide)

include grain in
private theorem next?_failsBy (bracket : Bracket) (previous current : Point) :
    FailsBy Decimal.Error.IsOverflow (next? bracket previous current) := by
  refine (secant?_failsBy previous current).bind fun secant _ => ?_
  split
  next =>
    split
    next => exact .ok _
    next => exact (midpoint_failsBy _ _).map _
  next => exact (midpoint_failsBy _ _).map _
  next => exact .ok _

/-- The failures of a search that its arithmetic and its length can cause. -/
def Search.Cause (failure : Failure) : Prop :=
  failure.IsOverflow ∨ ∃ iterations found, failure = .noConvergence iterations found

section Search

variable {cause : Failure → Prop} {residual : Decimal → Except Failure Decimal}
  (covers : ∀ failure, Search.Cause failure → cause failure)
  (evaluations : ∀ cash, FailsBy cause (residual cash))

include covers in
omit [Rounding] [Rounding.Lawful grain] in
private theorem Search.lift_failsBy {α : Type} {step : Except Decimal.Error α}
    (fails : FailsBy Decimal.Error.IsOverflow step) :
    FailsBy cause (liftM step : Except Failure α) :=
  (Failure.lift_failsBy fails).weaken fun failure overflow => covers failure (.inl overflow)

include grain covers evaluations

private theorem Search.step?_failsBy (search : Search) :
    FailsBy cause (search.step? residual) := by
  refine (Search.lift_failsBy covers (next?_failsBy _ _ _)).bind fun cash? _ => ?_
  cases cash? with
  | none => exact .ok _
  | some cash => exact (evaluations cash).bind fun _ _ => .ok _

private theorem Search.run_failsBy (accepted : Decimal) (maxIterations left : Nat)
    (search : Search) :
    FailsBy cause (Search.run residual accepted maxIterations left search) := by
  have exhausted : ∀ search : Search, FailsBy cause
      (.error (.noConvergence maxIterations search.current.residual) : Except Failure Decimal) := by
    intro search failure failed
    obtain rfl := Except.error.inj failed
    exact covers _ (.inr ⟨_, _, rfl⟩)
  induction left generalizing search with
  | zero => exact exhausted search
  | succ left inductionHypothesis =>
    unfold Search.run
    split
    next => exact .ok _
    next =>
      refine (Search.step?_failsBy covers evaluations search).bind fun next? _ => ?_
      cases next? with
      | none => exact exhausted search
      | some next => exact inductionHypothesis next

/-- A search fails for an overflow, for want of convergence, or for what its residuals fail for. -/
theorem seek_failsBy (accepted margin : Decimal) (maxIterations : Nat) :
    FailsBy cause (seek residual accepted margin maxIterations) := by
  have guessed : FailsBy Decimal.Error.IsOverflow (firstGuess margin) := Decimal.mul_failsBy _ _
  have further : ∀ first, FailsBy Decimal.Error.IsOverflow (secondGuess first) := fun first =>
    (Decimal.mul_failsBy _ _).bind fun _ _ => Decimal.add_failsBy _ _
  refine (Search.lift_failsBy covers guessed).bind fun cash _ => ?_
  refine (evaluations cash).bind fun found _ => ?_
  simp only
  split
  next => exact .ok _
  next =>
    refine (Search.lift_failsBy covers (further cash)).bind fun more _ => ?_
    refine (evaluations more).bind fun found' _ => ?_
    exact Search.run_failsBy covers evaluations accepted maxIterations maxIterations _

end Search

include grain in
/-- A deposit fails for what a search fails for, for what its total, its margins and its residuals
fail for, or because its target is refused. -/
theorem solve_failsBy [SummationOrder] {cause : Failure → Prop} {problem : Problem} {target : Float}
    (covers : ∀ failure, Search.Cause failure → cause failure)
    (refusal : target? target = none → cause (.invalidTarget target))
    (totals : FailsBy cause
      (liftM (problem.book.totalIn problem.domestic problem.spot) : Except Failure Decimal))
    (margins : FailsBy cause (problem.margin problem.book))
    (residuals : ∀ total factor cash, FailsBy cause (problem.residual total factor cash))
    (effort : Effort) : FailsBy cause (solve problem target effort) := by
  unfold solve
  cases targetIs : target? target with
  | none =>
    intro failure failed
    obtain rfl := Except.error.inj failed
    exact refusal targetIs
  | some decimal =>
    refine totals.bind fun total _ => margins.bind fun margin _ => ?_
    split
    next => exact .ok _
    next =>
      refine (Search.lift_failsBy covers (Decimal.add_failsBy 1 decimal)).bind fun factor _ => ?_
      have accepts : FailsBy Decimal.Error.IsOverflow
          (acceptance effort.tolerance total margin) :=
        (Decimal.add_failsBy _ _).bind fun _ _ => Decimal.mul_failsBy _ _
      refine (Search.lift_failsBy covers accepts).bind fun accepted _ => ?_
      exact seek_failsBy covers (residuals total factor) accepted margin _

include grain in
/-- **A deposit for a target, and a book that has a total and a margin, fails for an overflow alone**,
unless its search does not converge. -/
theorem solve_failsBy_of_margined [SummationOrder] (par : terms.AtPar) {target : Float}
    {decimal total margin : Decimal} (targetIs : target? target = some decimal)
    (totaled : book.totalIn terms.domestic terms.spot = .ok total)
    (margined : Margin.ofBook terms book = .ok margin) (effort : Effort) :
    FailsBy Search.Cause (solve (Problem.ofTerms terms book) target effort) := by
  have notRefused : target? target ≠ none := by simp [targetIs]
  apply solve_failsBy (fun _ => id) (fun refused => absurd refused notRefused)
  · exact .of_ok (Outcome.liftConversion_ok.2 totaled)
  · exact .of_ok margined
  · intro total factor cash
    exact (residual_failsBy par margined total factor cash).weaken fun _ => .inl

end Deposit

end Collateral
