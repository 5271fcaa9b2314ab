import Collateral.Book
import Collateral.Deposit.Bracket
import Collateral.Binary.Decimal
import Collateral.Failure

/-!
Contract: the cash that brings a book to a target health.

With `total` the worth of the book, and `margin` its margin once `cash` has been added to the
domestic balance, the target is met where `total + cash - (1 + target) * margin` is zero. The
search starts at twice the present margin, accepts a point whose residual is within a tolerance
relative to the size of the book, and gives up after a number of iterations.

A book without margin needs no cash.

Owns: the problem, its residual, and the search. The margin is any function of books.
-/

namespace Collateral.Deposit

/-- How precise and how long a search is. -/
structure Effort where
  tolerance : Decimal
  maxIterations : Nat
deriving DecidableEq, Repr

/-- The book to bring to a target, and the rule for margins. -/
structure Problem where
  book : Book
  domestic : Currency
  spot : Quotes
  margin : Book → Except Failure Decimal

/-- The target as a decimal: a finite number above minus one. -/
def target? (target : Float) : Option Decimal :=
  (Decimal.ofBinary? target).filter (-1 < ·)

variable [Rounding]

/-- How far the book is from a target that is `factor` less one, once it holds `cash` more. -/
def Problem.residual (problem : Problem) (total factor cash : Decimal) :
    Except Failure Decimal := do
  let book ← problem.book.add problem.domestic cash
  let worth ← total.add cash
  let required ← factor.mul (← problem.margin book)
  worth.sub required

/-- The residual that is accepted as zero. -/
def acceptance (tolerance total margin : Decimal) : Except Decimal.Error Decimal := do
  tolerance.mul (max (← total.abs.add margin) 1)

/-- The first amount to try: twice the present margin. -/
def firstGuess (margin : Decimal) : Except Decimal.Error Decimal :=
  Decimal.mul 2 margin

/-- The second amount to try: a thousandth more than the first, and at least one more. -/
def secondGuess (first : Decimal) : Except Decimal.Error Decimal := do
  let thousandth ← first.abs.mul Figure.thousandth.value
  first.add (max thousandth 1)

/-- The last two points of a search, and its bracket. -/
structure Search where
  previous : Point
  current : Point
  bracket : Bracket
deriving DecidableEq, Repr

/-- The search after one more point, if there is an amount to try. -/
def Search.step? (search : Search) (residual : Decimal → Except Failure Decimal) :
    Except Failure (Option Search) := do
  match ← next? search.bracket search.previous search.current with
  | none => return none
  | some cash =>
    let point : Point := ⟨cash, ← residual cash⟩
    return some ⟨search.current, point, search.bracket.observe point⟩

/-- Steps until the residual is accepted. -/
def Search.run (residual : Decimal → Except Failure Decimal) (accepted : Decimal)
    (maxIterations : Nat) : (left : Nat) → Search → Except Failure Decimal
  -- The point of the last step is not tested any more.
  | 0, search => throw (.noConvergence maxIterations search.current.residual)
  | left + 1, search => do
    if search.current.residual.abs ≤ accepted then return search.current.cash
    match ← search.step? residual with
    | none => throw (.noConvergence maxIterations search.current.residual)
    | some search => run residual accepted maxIterations left search

/-- The search from the first two amounts. -/
def seek (residual : Decimal → Except Failure Decimal) (accepted margin : Decimal)
    (maxIterations : Nat) : Except Failure Decimal := do
  let cash ← firstGuess margin
  let first : Point := ⟨cash, ← residual cash⟩
  if first.residual.abs ≤ accepted then return first.cash
  let cash ← secondGuess first.cash
  let second : Point := ⟨cash, ← residual cash⟩
  let bracket := (Bracket.observe {} first).observe second
  Search.run residual accepted maxIterations maxIterations ⟨first, second, bracket⟩

/-- The cash that brings the book to the target; below zero it is what may be taken out. -/
def solve [SummationOrder] (problem : Problem) (target : Float) (effort : Effort) :
    Except Failure Decimal := do
  let some decimal := target? target | throw (.invalidTarget target)
  let total ← problem.book.totalIn problem.domestic problem.spot
  let margin ← problem.margin problem.book
  if margin = 0 then return 0
  let factor ← Decimal.add 1 decimal
  let accepted ← acceptance effort.tolerance total margin
  seek (problem.residual total factor) accepted margin effort.maxIterations

end Collateral.Deposit
