import Collateral.Failure

/-!
Contract: the haircuts that a broker publishes.

A haircut belongs to an ordered pair; the opposite pair is never consulted. A pair without a
published haircut takes the default of the table. No haircut lies below zero: the type says so,
and building a table checks it.
-/

namespace Collateral

structure BrokerId where
  name : String
deriving DecidableEq, Repr, Inhabited

structure Haircuts where
  broker : BrokerId
  default : Decimal
  rates : Table FxPair Decimal
  default_nonneg : 0 ≤ default
  rates_nonneg : ∀ entry ∈ rates.entries, 0 ≤ entry.2

namespace Haircuts

private theorem nonneg_of_not_neg {rate : Decimal} (notNegative : ¬rate < 0) : 0 ≤ rate :=
  Rat.not_lt.1 notNegative

/-- The haircut of pairs for which a table is given no other default. -/
def usualDefault : Figure := .tenth

/-- The table with one more haircut published; a later one for the same pair counts. -/
def publish (table : Haircuts) (pair : FxPair) (rate : Figure) : Except Failure Haircuts :=
  if negative : rate.value < 0 then .error (.negativeHaircut pair rate)
  else .ok { table with
    rates := table.rates.insert pair rate.value
    rates_nonneg := by
      intro entry member
      rcases Table.mem_place member with rfl | old
      · exact nonneg_of_not_neg negative
      · exact table.rates_nonneg entry old }

def flat (broker : BrokerId) (default : Figure) : Except Failure Haircuts :=
  if negative : default.value < 0 then .error (.negativeDefault default)
  else .ok {
    broker := broker
    default := default.value
    rates := .empty
    default_nonneg := nonneg_of_not_neg negative
    rates_nonneg := nofun }

/-- The table with the given haircuts, published in order. The default is checked first. -/
def ofList (broker : BrokerId) (default : Figure) (rates : List (FxPair × Figure)) :
    Except Failure Haircuts := do
  rates.foldlM (fun table (pair, rate) => table.publish pair rate) (← flat broker default)

def rate (table : Haircuts) (pair : FxPair) : Decimal :=
  (table.rates.get? pair).getD table.default

end Haircuts

end Collateral
