import Collateral.Deposit.Model
import Collateral.Proofs.Search
import Mathlib.Order.Interval.Set.UnorderedInterval

/-!
Contract: the bracket of a search for a deposit, over all its steps.

The ends of a bracket are the points that were seen last on either side of the zero, wherever they
lie. The side with negative residuals may be to the right of the other, an end may come from before
the other side was known, and a secant is drawn through the last two points, which need not be the
ends. What keeps the search together is the choice of the next amount: once both sides are known, it
is a secant strictly between the ends, or else their midpoint. An observed point then takes the place
of one end, so the interval between the ends does not grow. Only a sum that is rounded can put the
midpoint outside of it.

Owns: the points that a search has evaluated, the ends of its bracket among them, the choice of an
amount between two ends, and the interval that is left.
-/

namespace Collateral

/-- The sum of two decimals is not rounded, if it fits at all. -/
def Decimal.AddsExactly [Rounding] (left right : Decimal) : Prop :=
  ∀ sum, left.add right = .ok sum → sum.toRat = left.toRat + right.toRat

namespace Deposit

/-! ## The ends of a bracket -/

namespace Bracket

/-- The ends of a bracket are the latest of these points with a negative and with a positive
residual. The points come the latest one first. -/
structure Latest (points : List Point) (bracket : Bracket) : Prop where
  below : bracket.below = (points.find? fun point => point.residual < 0).map Point.cash
  above : bracket.above = (points.find? fun point => 0 < point.residual).map Point.cash

/-- One more point is observed as the latest one. -/
theorem Latest.observe {points : List Point} {bracket : Bracket} (latest : bracket.Latest points)
    (point : Point) : (bracket.observe point).Latest (point :: points) := by
  rcases bracket.observe_cases point with
    ⟨negative, observed⟩ | ⟨positive, observed⟩ | ⟨zero, observed⟩ <;> rw [observed]
  · have notPositive : ¬0 < point.residual := by
      rw [Decimal.lt_iff] at negative ⊢
      exact negative.le.not_gt
    exact ⟨by simp [negative], by simp [notPositive, latest.above]⟩
  · have notNegative : ¬point.residual < 0 := by
      rw [Decimal.lt_iff] at positive ⊢
      exact positive.le.not_gt
    exact ⟨by simp [notNegative, latest.below], by simp [positive]⟩
  · have neither : ¬point.residual < 0 ∧ ¬0 < point.residual := by
      rw [zero, Decimal.lt_iff]
      exact ⟨lt_irrefl _, lt_irrefl _⟩
    exact ⟨by simp [neither, latest.below], by simp [neither, latest.above]⟩

private theorem exists_of_end {points : List Point} {sign : Point → Bool} {cash : Decimal}
    (endIs : (points.find? sign).map Point.cash = some cash) :
    ∃ point ∈ points, point.cash = cash ∧ sign point = true := by
  obtain ⟨point, found, cashIs⟩ := Option.map_eq_some_iff.1 endIs
  exact ⟨point, List.mem_of_find?_eq_some found, cashIs, List.find?_some found⟩

theorem Latest.negative {points : List Point} {bracket : Bracket} (latest : bracket.Latest points)
    {cash : Decimal} (belowIs : bracket.below = some cash) :
    ∃ point ∈ points, point.cash = cash ∧ point.residual < 0 := by
  simpa using exists_of_end (latest.below.symm.trans belowIs)

theorem Latest.positive {points : List Point} {bracket : Bracket} (latest : bracket.Latest points)
    {cash : Decimal} (aboveIs : bracket.above = some cash) :
    ∃ point ∈ points, point.cash = cash ∧ 0 < point.residual := by
  simpa using exists_of_end (latest.above.symm.trans aboveIs)

variable {bracket : Bracket} {low high : Decimal}

/-- A known bracket stays known. If the point lies between its ends, the interval that is left lies
within the one before, whichever end has given way. -/
theorem exists_bounds?_observe (known : bracket.bounds? = some (low, high)) (point : Point) :
    ∃ low' high', (bracket.observe point).bounds? = some (low', high') ∧
      (point.cash.toRat ∈ Set.uIcc low.toRat high.toRat →
        Set.uIcc low'.toRat high'.toRat ⊆ Set.uIcc low.toRat high.toRat) := by
  obtain ⟨belowIs, aboveIs⟩ := bounds?_eq_some.1 known
  rcases bracket.observe_cases point with ⟨-, observed⟩ | ⟨-, observed⟩ | ⟨-, observed⟩ <;>
    rw [observed]
  · exact ⟨point.cash, high, bounds?_eq_some.2 ⟨rfl, aboveIs⟩,
      fun within => Set.uIcc_subset_uIcc within Set.right_mem_uIcc⟩
  · exact ⟨low, point.cash, bounds?_eq_some.2 ⟨belowIs, rfl⟩,
      fun within => Set.uIcc_subset_uIcc Set.left_mem_uIcc within⟩
  · exact ⟨low, high, known, fun _ => subset_rfl⟩

end Bracket

/-! ## The next amount -/

section Interval

variable [Rounding] {grain : Rat} [Rounding.Lawful grain] {low high cash : Decimal}
  {previous current : Point}

include grain

/-- A midpoint lies between its ends if their sum is not rounded. -/
theorem midpoint_mem_uIcc (unrounded : low.AddsExactly high)
    (middleIs : midpoint low high = .ok cash) : cash.toRat ∈ Set.uIcc low.toRat high.toRat := by
  obtain ⟨sum, added, halved⟩ := Outcome.bind_ok.1 middleIs
  obtain ⟨-, fit⟩ := Decimal.div_ok.1 halved
  rw [Decimal.toRat_two, unrounded sum added] at fit
  rw [Set.mem_uIcc]
  -- The half may be rounded, but no rule for fitting takes it past a decimal.
  rcases le_total low.toRat high.toRat with forward | backward
  · exact .inl ⟨Rounding.le_fit (by linarith) fit, Rounding.fit_le (by linarith) fit⟩
  · exact .inr ⟨Rounding.le_fit (by linarith) fit, Rounding.fit_le (by linarith) fit⟩

/-- A chosen amount lies between the ends, unless the sum of the midpoint is rounded. -/
theorem Chooses.mem_uIcc (chooses : Chooses low high previous current cash)
    (unrounded : low.AddsExactly high) : cash.toRat ∈ Set.uIcc low.toRat high.toRat := by
  cases chooses with
  | secant _ between =>
    obtain ⟨least, most⟩ := strictlyBetween_iff.1 between
    exact ⟨least.le, most.le⟩
  | midpoint _ _ middleIs => exact midpoint_mem_uIcc unrounded middleIs

end Interval

/-- The sum of two ends just above five is rounded to ten, and five lies below both. -/
example : midpoint (Figure.value ⟨false, 5 * 10 ^ 28 + 1, 28, by decide⟩)
    (Figure.value ⟨false, 5 * 10 ^ 28 + 3, 28, by decide⟩) =
      .ok (Figure.value ⟨false, 5, 0, by decide⟩) := by decide +kernel

/-! ## The run -/

section Run

variable [Rounding] {residual : Decimal → Except Failure Decimal} {accepted margin : Decimal}
  {points : List Point} {search next later : Search} {low high : Decimal} {steps : Nat}

/-- A search from its first amounts at one of its iterations, and all points that it has evaluated by
then, the latest one first. -/
inductive Search.Visits (residual : Decimal → Except Failure Decimal) (accepted margin : Decimal) :
    List Point → Search → Prop
  | opened {first second : Point} (opening : Opening residual accepted margin first second) :
    Visits residual accepted margin [second, first] (.opened first second)
  | step {points : List Point} {search next : Search}
    (visits : Visits residual accepted margin points search)
    (refused : ¬search.current.residual.abs ≤ accepted)
    (stepped : search.step? residual = .ok (some next)) :
    Visits residual accepted margin (next.current :: points) next

namespace Search.Visits

/-- These are the searches that a run goes through. -/
theorem seek_eq (visits : Search.Visits residual accepted margin points search)
    {maxIterations left : Nat} (count : points.length + left = maxIterations + 2) :
    seek residual accepted margin maxIterations =
      Search.run residual accepted maxIterations left search := by
  induction visits generalizing left with
  | @opened first second opening =>
    obtain rfl : left = maxIterations := by
      simp only [List.length_cons, List.length_nil] at count
      omega
    exact opening.seek_eq left
  | @step points search next _ refused stepped inductionHypothesis =>
    rw [List.length_cons, Nat.succ_add, ← Nat.add_succ] at count
    rw [inductionHypothesis count, Search.run, if_neg refused, stepped]
    rfl

/-- Every point carries the residual that was found there. -/
theorem evaluated (visits : Search.Visits residual accepted margin points search) :
    ∀ point ∈ points, point.Evaluated residual := by
  induction visits with
  | opened opening => simp [opening.second_evaluated, opening.first_evaluated]
  | step _ _ stepped inductionHypothesis =>
    exact List.forall_mem_cons.2 ⟨Search.step?_current stepped, inductionHypothesis⟩

/-- The ends of the bracket are the latest points of their signs. -/
theorem latest (visits : Search.Visits residual accepted margin points search) :
    search.bracket.Latest points := by
  induction visits with
  | @opened first second _ =>
    have nothing : Bracket.Latest [] {} := ⟨rfl, rfl⟩
    exact (nothing.observe first).observe second
  | @step points search next _ _ stepped inductionHypothesis =>
    obtain ⟨point, -, -, rfl⟩ := Search.step?_ok.1 stepped
    exact inductionHypothesis.observe point

end Search.Visits

/-- A search with a known bracket does not run out of amounts. -/
theorem Search.step?_ne_none (known : search.bracket.bounds? = some (low, high)) :
    search.step? residual ≠ .ok none := by
  intro stepped
  obtain ⟨cash?, nextIs, rest⟩ := Outcome.bind_ok.1 stepped
  obtain ⟨cash, rfl, -⟩ := (next?_of_known known).1 (Outcome.liftArithmetic_ok.1 nextIs)
  obtain ⟨found, -, collected⟩ := Outcome.bind_ok.1 rest
  cases Outcome.pure_ok.1 collected

/-- What a step does to a search between two known ends: its amount is chosen between them, both sides
stay known, and unless the sum of the ends is rounded, the amount lies in their closed interval and
leaves an interval within it. -/
structure Search.Narrows (low high : Decimal) (search next : Search) : Prop where
  chosen : Chooses low high search.previous search.current next.current.cash
  within : low.AddsExactly high → next.current.cash.toRat ∈ Set.uIcc low.toRat high.toRat
  left : ∃ low' high', next.bracket.bounds? = some (low', high') ∧
    (low.AddsExactly high → Set.uIcc low'.toRat high'.toRat ⊆ Set.uIcc low.toRat high.toRat)

section Steps

variable {grain : Rat} [Rounding.Lawful grain]

include grain

/-- Every step from a known bracket narrows it. -/
theorem Search.narrows_of_step? (known : search.bracket.bounds? = some (low, high))
    (stepped : search.step? residual = .ok (some next)) : Search.Narrows low high search next := by
  obtain ⟨point, nextIs, -, rfl⟩ := Search.step?_ok.1 stepped
  obtain ⟨cash, same, chosen⟩ := (next?_of_known known).1 nextIs
  obtain rfl := Option.some.inj same
  obtain ⟨low', high', known', narrower⟩ := Bracket.exists_bounds?_observe known point
  exact ⟨chosen, chosen.mem_uIcc,
    low', high', known', fun unrounded => narrower (chosen.mem_uIcc unrounded)⟩

/-- A bracket stays known over all steps. -/
theorem Search.Reaches.exists_bounds?
    (reaches : Search.Reaches residual accepted steps search later)
    (known : search.bracket.bounds? = some (low, high)) :
    ∃ low' high', later.bracket.bounds? = some (low', high') := by
  induction reaches generalizing low high with
  | start => exact ⟨low, high, known⟩
  | step _ stepped _ inductionHypothesis =>
    obtain ⟨low', high', known', -⟩ := (Search.narrows_of_step? known stepped).left
    exact inductionHypothesis known'

end Steps

end Run

/-- **The bracket of a search for a deposit holds the latest point of either sign, and narrows.** At
every iteration its ends are the latest evaluated points with a negative and with a positive residual.
From the iteration on at which both are known they stay known, and the search never lacks an amount to
try. Each amount is the secant through the last two points, if that lies strictly between the ends,
and else their midpoint. Unless the sum in the midpoint is rounded, the amount lies in the closed
interval between the ends, and the interval that is left once it has been observed lies within the one
before. -/
theorem solve_bracket_narrows [SummationOrder] {problem : Problem} {target : Float}
    {effort : Effort}
    {total margin factor accepted : Decimal} {points : List Point} {search : Search} {left : Nat}
    (sought : problem.Sought target effort.tolerance total margin factor accepted)
    (visits : Search.Visits (problem.residual total factor) accepted margin points search)
    (count : points.length + left = effort.maxIterations + 2) :
    solve problem target effort =
        Search.run (problem.residual total factor) accepted effort.maxIterations left search ∧
      (∀ point ∈ points, point.Evaluated (problem.residual total factor)) ∧
      search.bracket.Latest points ∧
      (∀ cash ∈ search.bracket.below,
        ∃ found, problem.residual total factor cash = .ok found ∧ found < 0) ∧
      (∀ cash ∈ search.bracket.above,
        ∃ found, problem.residual total factor cash = .ok found ∧ 0 < found) ∧
      (search.bracket.bounds?.isSome → ∀ steps later,
        Search.Reaches (problem.residual total factor) accepted steps search later →
        ∃ low high, later.bracket.bounds? = some (low, high) ∧
          later.step? (problem.residual total factor) ≠ .ok none ∧
          ∀ next, later.step? (problem.residual total factor) = .ok (some next) →
            Search.Narrows low high later next) := by
  have evaluated := visits.evaluated
  have latest := visits.latest
  refine ⟨sought.solve_eq.trans (visits.seek_eq count), evaluated, latest, ?_, ?_, ?_⟩
  · intro cash belowIs
    obtain ⟨point, visited, rfl, negative⟩ := latest.negative belowIs
    exact ⟨point.residual, evaluated point visited, negative⟩
  · intro cash aboveIs
    obtain ⟨point, visited, rfl, positive⟩ := latest.positive aboveIs
    exact ⟨point.residual, evaluated point visited, positive⟩
  · intro known steps later reaches
    obtain ⟨ends, endsAre⟩ := Option.isSome_iff_exists.1 known
    obtain ⟨low, high, boundsIs⟩ := reaches.exists_bounds? endsAre
    exact ⟨low, high, boundsIs, Search.step?_ne_none boundsIs,
      fun next stepped => Search.narrows_of_step? boundsIs stepped⟩

/-! ## A margin that jumps -/

/-- No cash, and a margin of one that jumps to ten at a balance of two and a half. -/
private def jumping : Problem where
  book := {}
  domestic := ⟨"USD"⟩
  spot := Spot.quotes ⟨⟨"USD"⟩, .empty⟩
  margin := (Model.steps [(Figure.value ⟨false, 25, 1, by decide⟩, 1)]
    (Figure.value ⟨false, 10, 0, by decide⟩)).margin ⟨"USD"⟩

private def atTwo : Point := ⟨2, 1⟩

private def atThree : Point :=
  ⟨Figure.value ⟨false, 3, 0, by decide⟩, Figure.value ⟨true, 7, 0, by decide⟩⟩

private def belowJump : Point :=
  ⟨Figure.value ⟨false, 2125, 3, by decide⟩, Figure.value ⟨false, 1125, 3, by decide⟩⟩

private def nearerJump : Point :=
  ⟨Figure.value ⟨false, 22461538461538461538461538462, 28, by decide⟩,
    Figure.value ⟨false, 12461538461538461538461538462, 28, by decide⟩⟩

private def halfway : Point :=
  ⟨Figure.value ⟨false, 26230769230769230769230769231, 28, by decide⟩,
    Figure.value ⟨true, 73769230769230769230769230769, 28, by decide⟩⟩

private def aroundJump : Search :=
  ⟨belowJump, nearerJump, ⟨some atThree.cash, some nearerJump.cash⟩⟩

private def twentyTimes : Effort := ⟨Figure.millionth.value, 20⟩

private theorem jumping_sought :
    jumping.Sought 0 twentyTimes.tolerance 0 1 1 Figure.millionth.value where
  factored := ⟨0, by decide +kernel, by decide +kernel⟩
  totaled := by decide +kernel
  margined := by decide +kernel
  margin_ne_zero := by decide +kernel
  accepted_eq := by decide +kernel

private theorem jumping_opening :
    Opening (jumping.residual 0 1) Figure.millionth.value 1 atTwo atThree where
  first_guess := by decide +kernel
  first_evaluated := (by decide +kernel : jumping.residual 0 1 _ = .ok _)
  first_refused := by decide +kernel
  second_guess := by decide +kernel
  second_evaluated := (by decide +kernel : jumping.residual 0 1 _ = .ok _)

private theorem visits_aroundJump :
    Search.Visits (jumping.residual 0 1) Figure.millionth.value 1
      [nearerJump, belowJump, atThree, atTwo] aroundJump := by
  have once : (Search.opened atTwo atThree).step? (jumping.residual 0 1) = .ok (some
      ⟨atThree, belowJump, ⟨some atThree.cash, some belowJump.cash⟩⟩) := by decide +kernel
  have twice : Search.step? ⟨atThree, belowJump, ⟨some atThree.cash, some belowJump.cash⟩⟩
      (jumping.residual 0 1) = .ok (some aroundJump) := by decide +kernel
  exact .step (.step (.opened jumping_opening) (by decide +kernel) once) (by decide +kernel) twice

/-- The negative side lies to the right of the positive one. After two secants between the ends, the
line through the last two points, both on the positive side, leads out of the bracket, and the search
halves it. -/
theorem solve_bracket_narrows_jumping :
    jumping.Sought 0 twentyTimes.tolerance 0 1 1 Figure.millionth.value ∧
    Search.Visits (jumping.residual 0 1) Figure.millionth.value 1
      [nearerJump, belowJump, atThree, atTwo] aroundJump ∧
    aroundJump.bracket.Latest [nearerJump, belowJump, atThree, atTwo] ∧
    aroundJump.bracket.bounds? = some (atThree.cash, nearerJump.cash) ∧
    midpoint atThree.cash nearerJump.cash = .ok halfway.cash ∧
    Chooses atThree.cash nearerJump.cash belowJump nearerJump halfway.cash ∧
    halfway.cash.toRat ∈ Set.uIcc atThree.cash.toRat nearerJump.cash.toRat ∧
    Set.uIcc halfway.cash.toRat nearerJump.cash.toRat ⊆
      Set.uIcc atThree.cash.toRat nearerJump.cash.toRat := by
  have count : [nearerJump, belowJump, atThree, atTwo].length + 18 =
    twentyTimes.maxIterations + 2 := rfl
  have known : aroundJump.bracket.bounds? = some (atThree.cash, nearerJump.cash) := rfl
  have unrounded : ∀ sum, atThree.cash.add nearerJump.cash = .ok sum →
    sum.toRat = atThree.cash.toRat + nearerJump.cash.toRat := by decide +kernel
  have stepped : aroundJump.step? (jumping.residual 0 1) = .ok (some
      ⟨nearerJump, halfway, ⟨some halfway.cash, some nearerJump.cash⟩⟩) := by decide +kernel
  obtain ⟨-, -, latest, -, -, onward⟩ :=
    solve_bracket_narrows jumping_sought visits_aroundJump count
  obtain ⟨low, high, boundsIs, -, narrows⟩ := onward rfl 0 aroundJump (.start _)
  cases known.symm.trans boundsIs
  obtain ⟨chosen, within, low', high', boundsIs', narrower⟩ := narrows _ stepped
  cases boundsIs'
  exact ⟨jumping_sought, visits_aroundJump, latest, known, by decide +kernel, chosen,
    within unrounded, narrower unrounded⟩

end Deposit

end Collateral
