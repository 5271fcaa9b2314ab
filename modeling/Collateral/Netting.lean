import Collateral.Decimal.Arithmetic
import Collateral.Currency
import Collateral.Sorting

/-!
Contract: covering debts from collateral.

Debts are served in turn from the collateral at the front of the pool. Each draw takes as much as
both sides allow, so it finishes the debt or uses up the collateral, and the walk needs no more
draws than there are debts and collateral buckets together. A debt that outlasts the pool stays
uncovered and costs nothing more.

Owns: the order of collateral and debts, the draws with all remainders, and the cost of draws.

Does not own: where the worth of a bucket comes from.
-/

namespace Collateral

/-- A balance of a book in domestic worth, with the haircut of its currency. -/
structure Bucket where
  currency : Currency
  rate : Decimal
  value : Decimal
deriving DecidableEq, Repr, Inhabited

namespace Netting

/-- Collateral is used in order of rising haircut; equal ones in order of the currency code. -/
def cheaper (left right : Bucket) : Bool :=
  decide (left.rate < right.rate) ||
    (decide (left.rate = right.rate) && !decide (right.currency < left.currency))

/-- Debts are served in order of falling size; equal ones in order of the currency code. -/
def larger (left right : Bucket) : Bool :=
  decide (right.value < left.value) ||
    (decide (left.value = right.value) && !decide (right.currency < left.currency))

/-- The buckets of positive worth, cheapest first. -/
def collateral (buckets : List Bucket) : List Bucket :=
  sortBy cheaper (buckets.filter fun bucket => 0 < bucket.value)

/-- The sizes of the buckets of negative worth, largest first. -/
def debts (buckets : List Bucket) : List Bucket :=
  sortBy larger <|
    (buckets.filter fun bucket => bucket.value < 0).map fun bucket =>
      { bucket with value := -bucket.value }

/-- One draw on collateral: both sides as the draw found them, the amount, and what it left. -/
structure Draw where
  source : Bucket
  debt : Bucket
  used : Decimal
  left : Decimal
  uncovered : Decimal
deriving DecidableEq, Repr

/-- Where covering has come to: the draws made, the debts with an uncovered rest, and the
collateral that is left. -/
structure Coverage where
  draws : List Draw := []
  uncovered : List Bucket := []
  pool : List Bucket := []
deriving DecidableEq, Repr

variable [Rounding]

/-- The draw of a debt on a bucket: the smaller of both. -/
def draw (source debt : Bucket) : Except Decimal.Error Draw := do
  let used := min debt.value source.value
  return ⟨source, debt, used, ← source.value.sub used, ← debt.value.sub used⟩

/-- Covers one debt from the pool. -/
def cover (debt : Bucket) : List Bucket → Except Decimal.Error Coverage
  | [] => return { uncovered := if 0 < debt.value then [debt] else [] }
  | source :: pool => do
    if debt.value ≤ 0 then return { pool := source :: pool }
    let draw ← draw source debt
    -- A bucket leaves the pool only when nothing is left of it.
    if draw.left = 0 then
      let rest ← cover { debt with value := draw.uncovered } pool
      return { rest with draws := draw :: rest.draws }
    else
      return { draws := [draw], pool := { source with value := draw.left } :: pool }

def coverAll (debts pool : List Bucket) : Except Decimal.Error Coverage :=
  match debts with
  | [] => return { pool }
  | debt :: debts => do
    let first ← cover debt pool
    let rest ← coverAll debts first.pool
    return {
      draws := first.draws ++ rest.draws
      uncovered := first.uncovered ++ rest.uncovered
      pool := rest.pool }

/-- The cost of draws: each amount at the haircut of its collateral, added up from zero. -/
def cost (draws : List Draw) : Except Decimal.Error Decimal :=
  draws.foldlM (fun total draw => do total.add (← draw.source.rate.mul draw.used)) 0

/-- The cost of covering the debts among the buckets from the collateral among them. -/
def charge (buckets : List Bucket) : Except Decimal.Error Decimal := do
  cost (← coverAll (debts buckets) (collateral buckets)).draws

end Netting

end Collateral
