import Collateral.Book
import Collateral.Failure

/-!
Contract: the profit or loss that a change of positions realizes.

The proposed amounts of a pair add up to its target. Every held position is closed by as much as
it shrinks towards the target, and in full when the target lies on the other side or at zero. The
closed amount earns the spot rate less the price it was taken at.
-/

namespace Collateral.Realization

/-- Whether two amounts are both above or both below zero. -/
def sameSide (left right : Decimal) : Bool :=
  (decide (0 < left) && decide (0 < right)) || (decide (left < 0) && decide (right < 0))

variable [Rounding]

/-- The targets of all pairs, with repeated pairs added up. -/
def targets (proposed : List FxPosition) : Except Decimal.Error (Table FxPair Decimal) :=
  proposed.foldlM
    (fun table position => do
      let target ← ((table.get? position.pair).getD 0).add position.amount
      return table.insert position.pair target)
    .empty

/-- The amount by which a held position is closed. -/
def closed (held target : Decimal) : Except Decimal.Error Decimal :=
  if !sameSide held target then return held
  else if target.abs < held.abs then held.sub target
  else return 0

/-- What one held position realizes. Nothing is looked up where nothing is closed. -/
def ofPosition (spot : Quotes) (domestic : Currency) (target : Decimal) (position : FxPosition)
    (realized : Decimal) : Except Failure Decimal := do
  let closed ← closed position.amount target
  if closed = 0 then return realized
  let rate ← spot.rate position.pair
  let gain ← rate.sub position.price
  let inQuote ← closed.mul gain
  realized.add (← spot.convert inQuote ⟨position.pair.quote, domestic⟩)

/-- What replacing the held positions by the proposed ones realizes, in domestic currency. -/
def profit (held proposed : List FxPosition) (domestic : Currency) (spot : Quotes) :
    Except Failure Decimal := do
  let targets ← targets proposed
  held.foldlM
    (fun realized position =>
      ofPosition spot domestic ((targets.get? position.pair).getD 0) position realized)
    0

end Collateral.Realization
