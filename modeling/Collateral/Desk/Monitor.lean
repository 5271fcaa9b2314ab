import Collateral.Desk.Queries

/-!
Contract: the daily health check of a company.

A check compares the worst pending score with the level of the settings. A low score is a warning
on its first day, and calls for a deposit when the record of the day before is low as well. The
record of a check is handed back; keeping it is a change of the store like any other.
-/

namespace Collateral

inductive Alert where
  | noReport
  | sufficient
  | lowMargin
  | depositRequired
deriving DecidableEq, Repr

def Alert.name : Alert → String
  | .noReport => "NoReport"
  | .sufficient => "Sufficient"
  | .lowMargin => "LowMargin"
  | .depositRequired => "DepositRequired"

structure Check where
  alert : Alert
  record : Option DailyHealth
  report : Option Report
deriving DecidableEq, Repr

namespace Desk

/-- Whether the record of the day before lies below a level. -/
def wasLow (store : Store) (company : CompanyId) (date : Date) (level : Float) : Bool :=
  match date.previous?.bind (store.health? company) with
  | some record => record.worst < level
  | none => false

/-- The alert for a worst score. -/
def alertFor (desk : Desk) (company : CompanyId) (date : Date) (worst : Float) : Alert :=
  let level := desk.settings.depositLevel
  if level ≤ worst then .sufficient
  else if wasLow desk.store company date level then .depositRequired
  else .lowMargin

variable [Rounding]

/-- The score of a chosen snapshot; one where there is none. -/
def scoreOr (multiplier : Decimal) : Option Snapshot → Except Decimal.Error Float
  | none => return 1.0
  | some snapshot => snapshot.score multiplier

def check [SummationOrder] (desk : Desk) (company : Company) (date : Date) :
    Except Failure Check := do
  match ← desk.report company date none with
  | none => return ⟨.noReport, none, none⟩
  | some report =>
    let worst ← scoreOr report.multiplier (← report.worst?)
    let best ← scoreOr report.multiplier (← report.best?)
    let alert := desk.alertFor company.id date worst
    return ⟨alert, some ⟨company.id, date, worst, best⟩, some report⟩

/-- The check that adds up its book in a given order. -/
def checkIn (desk : Desk) (order : SummationOrder) (company : Company) (date : Date) :
    Except Failure Check :=
  desk.check company date

end Desk

/-- The change that keeps the record of a check. -/
def Check.kept (check : Check) : List Change :=
  (check.record.map Change.recordHealth).toList

end Collateral
