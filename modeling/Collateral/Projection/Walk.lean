import Collateral.Account
import Collateral.Exposure
import Collateral.Margin
import Collateral.Projection.Snapshot

/-!
Contract: the projection of margin over the dates on which exposure changes.

The dates of the entries that fall into the horizon are visited in ascending order, each once. On
each date every account's cursor is moved up to it, the entries in force are turned into hedge
positions at the spot rate, and these are margined with and without the additional cash. Entries
dated before the horizon are not visited, but hold on the dates that are.
-/

namespace Collateral

/-- An account's schedule, with the part of each exposure that its hedge holds. -/
structure HedgedAccount where
  id : AccountId
  ratio : Decimal
  schedule : Schedule
deriving DecidableEq, Repr, Inhabited

namespace Projection

/-- What a projection is computed against. -/
structure Setting where
  calculator : Calculator
  terms : Terms
  summary : Summary

/-- Puts a date into an ascending list, unless it is there. -/
def insertDate (date : Date) : List Date → List Date
  | [] => [date]
  | head :: rest =>
    if date < head then date :: head :: rest
    else if date = head then head :: rest
    else head :: insertDate date rest

/-- The dates from `first` to `last` on which an account's exposure changes, ascending. -/
def eventDates (accounts : List HedgedAccount) (first last : Date) : List Date :=
  let dates := accounts.flatMap fun account => account.schedule.dates
  (dates.filter fun date => decide (first ≤ date) && decide (date ≤ last)).foldr insertDate []

/-- An account on the way through its schedule. -/
structure Walker where
  ratio : Decimal
  cursor : Cursor
deriving DecidableEq, Repr

def Walker.start (account : HedgedAccount) : Walker :=
  ⟨account.ratio, account.schedule.start⟩

def Walker.advance (date : Date) (walker : Walker) : Walker :=
  { walker with cursor := walker.cursor.advance date }

/-- The hedge of the exposures in force: their domestic worth in total, and the positions that the
foreign ones call for. -/
structure Hedge where
  total : Decimal := 0
  positions : List FxPosition := []
deriving DecidableEq, Repr

variable [Rounding]

/-- The hedge with one more exposure. A domestic exposure counts, but needs no position. -/
def Hedge.add (terms : Terms) (ratio : Decimal) (hedge : Hedge) (currency : Currency)
    (amount : Decimal) : Except Failure Hedge := do
  if currency = terms.domestic then
    return { hedge with total := ← hedge.total.add amount.abs }
  let pair : FxPair := ⟨currency, terms.domestic⟩
  let rate ← terms.spot.rate pair
  let total ← hedge.total.add (← amount.abs.mul rate)
  let held ← amount.mul ratio
  return ⟨total, hedge.positions ++ [⟨pair, held, rate⟩]⟩

def Hedge.addWalker (terms : Terms) (hedge : Hedge) (walker : Walker) : Except Failure Hedge :=
  match walker.cursor.current with
  | none => return hedge
  | some entry =>
    entry.amounts.foldlM
      (fun hedge (currency, amount) => hedge.add terms walker.ratio currency amount)
      hedge

def hedge (terms : Terms) (walkers : List Walker) : Except Failure Hedge :=
  walkers.foldlM (Hedge.addWalker terms) {}

def brokerCash (setting : Setting) : Table Currency Decimal :=
  Table.empty.insert setting.terms.domestic setting.summary.cash.value

/-- The broker's cash together with the additional cash. -/
def combinedCash (setting : Setting) (additional : Table Currency Decimal) :
    Except Decimal.Error (Table Currency Decimal) :=
  additional.entries.foldlM
    (fun cash (currency, amount) => do
      let sum ← ((cash.get? currency).getD 0).add amount
      return cash.insert currency sum)
    (brokerCash setting)

/-- The margin once the additional cash is there. -/
def marginAfter (setting : Setting) (positions : List FxPosition) (before : Decimal)
    (additional : Table Currency Decimal) : Except Failure Decimal := do
  -- Cash of nothing but zeros leaves the margin as before.
  if additional.values.all (· = 0) then return before
  let cash ← combinedCash setting additional
  setting.calculator.ofHoldings setting.terms positions cash

/-- The snapshot of a date, for a given hedge. -/
def snapshot (setting : Setting) (additional : Table Currency Decimal) (date : Date)
    (hedge : Hedge) : Except Failure Snapshot := do
  -- Without positions the whole equity is in excess.
  if hedge.positions.isEmpty then
    return ⟨date, 0, 0, setting.summary.equity.value, hedge.total, []⟩
  let before ← setting.calculator.ofHoldings setting.terms hedge.positions (brokerCash setting)
  let after ← marginAfter setting hedge.positions before additional
  let pending := (additional.get? setting.terms.domestic).getD 0
  let excess ← (← setting.summary.cash.value.add pending).sub before
  return ⟨date, before, after, excess, hedge.total, hedge.positions⟩

/-- The snapshots of ascending dates, with the accounts moved on from one to the next. -/
def walk (setting : Setting) (additional : Table Currency Decimal) :
    List Walker → List Date → Except Failure (List Snapshot)
  | _, [] => return []
  | walkers, date :: dates => do
    let walkers := walkers.map (Walker.advance date)
    let here ← snapshot setting additional date (← hedge setting.terms walkers)
    return here :: (← walk setting additional walkers dates)

/-- The projection from a date over a number of days, for accounts in a given order. -/
def run (setting : Setting) (asOf : Date) (days : Nat) (accounts : List HedgedAccount)
    (additional : Table Currency Decimal) : Except Failure (List Snapshot) :=
  walk setting additional (accounts.map Walker.start)
    (eventDates accounts asOf (asOf.ahead days))

end Projection

end Collateral
