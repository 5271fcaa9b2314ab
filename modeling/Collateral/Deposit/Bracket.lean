import Collateral.Decimal.Arithmetic

/-!
Contract: one step in the search for a zero of a decreasing or increasing function.

The search keeps the two points evaluated last and, on either side of the zero, the latest point
seen there. Once both sides are known, the next point is the secant through the last two points
if it lies strictly between them, and their midpoint otherwise. The side with negative values may
lie to the right of the other.
-/

namespace Collateral.Deposit

/-- An amount of cash with the residual found there. -/
structure Point where
  cash : Decimal
  residual : Decimal
deriving DecidableEq, Repr, Inhabited

/-- The latest points seen with a negative and with a positive residual. -/
structure Bracket where
  below : Option Decimal := none
  above : Option Decimal := none
deriving DecidableEq, Repr, Inhabited

namespace Bracket

def observe (bracket : Bracket) (point : Point) : Bracket :=
  if point.residual < 0 then { bracket with below := some point.cash }
  else if 0 < point.residual then { bracket with above := some point.cash }
  else bracket

/-- Both ends, once both are known. -/
def bounds? (bracket : Bracket) : Option (Decimal × Decimal) :=
  match bracket.below, bracket.above with
  | some below, some above => some (below, above)
  | _, _ => none

end Bracket

/-- Whether a number lies strictly between two others, in whichever order they come. -/
def strictlyBetween (number first second : Decimal) : Bool :=
  decide (min first second < number) && decide (number < max first second)

variable [Rounding]

/-- The zero of the line through two points; there is none through points of equal residual. -/
def secant? (previous current : Point) : Except Decimal.Error (Option Decimal) := do
  if current.residual = previous.residual then return none
  let run ← current.cash.sub previous.cash
  let product ← current.residual.mul run
  let rise ← current.residual.sub previous.residual
  let step ← product.div rise
  some <$> current.cash.sub step

def midpoint (first second : Decimal) : Except Decimal.Error Decimal := do
  (← first.add second).div 2

def next? (bracket : Bracket) (previous current : Point) :
    Except Decimal.Error (Option Decimal) := do
  let secant ← secant? previous current
  match bracket.bounds?, secant with
  | some (below, above), some candidate =>
    if strictlyBetween candidate below above then return some candidate
    else some <$> midpoint below above
  | some (below, above), none => some <$> midpoint below above
  | none, candidate => return candidate

end Collateral.Deposit
