import Collateral.Binary.Decimal
import Collateral.Book
import Collateral.Calendar.Date

/-!
Contract: the margin of one projected date, and how it is scored.

Owns: the snapshot, its score and the score after a deposit, and the choice of the worst and the
best of several snapshots.

Does not own: how a snapshot comes about.
-/

namespace Collateral

/-- The margin that holds from a date until the next projected date: with the broker's cash alone
and after the additional cash, what is left in excess, and the positions behind it. -/
structure Snapshot where
  date : Date
  before : Decimal
  after : Decimal
  excess : Decimal
  totalHedge : Decimal
  positions : List FxPosition
deriving DecidableEq, Repr, Inhabited

namespace Snapshot

variable [Rounding]

/-- The cash that the positions make up. -/
def book (snapshot : Snapshot) : Except Decimal.Error Book :=
  Book.ofPositions snapshot.positions

/-- The exact quotient behind a score: the excess over the margin, over the multiplier; `none`
where there is no margin or no multiplier. -/
def quotient? (excess margin multiplier : Decimal) : Except Decimal.Error (Option Decimal) := do
  if margin = 0 ∨ multiplier = 0 then return none
  some <$> (← excess.div margin).div multiplier

/-- The score of an excess: its quotient, or one where there is none. -/
def scoreOf (excess margin multiplier : Decimal) : Except Decimal.Error Float := do
  match ← quotient? excess margin multiplier with
  | none => return 1.0
  | some quotient => return quotient.toBinary

/-- The score against the margin before the deposit. -/
def score (multiplier : Decimal) (snapshot : Snapshot) : Except Decimal.Error Float :=
  scoreOf snapshot.excess snapshot.before multiplier

/-- The score against the margin after the deposit. -/
def scoreAfter (multiplier : Decimal) (snapshot : Snapshot) : Except Decimal.Error Float :=
  scoreOf snapshot.excess snapshot.after multiplier

/-- Goes through snapshots and keeps one, giving it up for a later one whose score is preferred. -/
def choose? (prefers : Float → Float → Bool) (multiplier : Decimal) :
    List Snapshot → Except Decimal.Error (Option Snapshot)
  | [] => return none
  -- A single snapshot is not scored.
  | first :: rest =>
    some <$> rest.foldlM
      (fun kept next => do
        let keptScore ← kept.score multiplier
        let nextScore ← next.score multiplier
        return if prefers nextScore keptScore then next else kept)
      first

/-- The first snapshot with the least score. -/
def worst? (multiplier : Decimal) (snapshots : List Snapshot) :
    Except Decimal.Error (Option Snapshot) :=
  choose? (fun next kept => decide (Binary.rank next < Binary.rank kept)) multiplier snapshots

/-- The last snapshot with the greatest score. -/
def best? (multiplier : Decimal) (snapshots : List Snapshot) :
    Except Decimal.Error (Option Snapshot) :=
  choose? (fun next kept => decide (Binary.rank kept ≤ Binary.rank next)) multiplier snapshots

end Snapshot

end Collateral
