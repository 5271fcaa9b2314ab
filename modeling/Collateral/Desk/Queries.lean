import Collateral.Desk.Report
import Collateral.Desk.Store
import Collateral.Projection.Walk
import Collateral.Realization
import Collateral.Settings.Basic

/-!
Contract: what a desk answers about a company.

A company is margined when it has a broker account, an active account and a summary of the kind
asked for. Where one of these is missing, the answers are empty and no error arises. The broker's
haircuts count where it publishes any, and otherwise the flat default of the settings.

Owns: the detail of a date, the projection, the recommended cash, the margin of proposed
positions, the reported health, and the health report.
-/

namespace Collateral

/-- A desk: its rule for margins, its settings and its state. -/
structure Desk where
  calculator : Calculator
  settings : Settings
  store : Store

namespace Desk

/-- The broker account and the summary of a company that is margined. -/
def standing? (desk : Desk) (company : CompanyId) (kind : AccountKind) :
    Option (BrokerAccount × Summary) := do
  let broker ← desk.store.broker? company kind
  if !desk.store.isActive company kind then none
  let summary ← desk.store.summary? company kind
  return (broker, summary)

def multiplier (desk : Desk) : Decimal :=
  desk.settings.multiplier.value

/-- The haircuts that count for a broker account. -/
def haircuts (desk : Desk) (broker : BrokerAccount) : Except Failure Haircuts :=
  match desk.store.haircuts? broker.broker with
  | some haircuts => .ok haircuts
  | none => Haircuts.flat broker.broker desk.settings.defaultHaircut

/-- The schedules of the active accounts with hedge settings, cut off behind `last`. An account
without an entry is left out. -/
def hedgedAccounts (desk : Desk) (company : CompanyId) (kind : AccountKind) (last : Date) :
    List HedgedAccount :=
  ((desk.store.accountsOf company kind).filter Account.active).filterMap fun account => do
    let hedge ← account.hedge
    let entries := desk.store.exposuresUpTo account.id last
    if entries.isEmpty then none
    else some ⟨account.id, hedge.ratio.value, .ofEntries entries⟩

variable [Rounding] [SummationOrder]

def terms (desk : Desk) (company : Company) (broker : BrokerAccount) : Except Failure Terms := do
  return ⟨company.currency, desk.store.spot.quotes, ← desk.haircuts broker, desk.multiplier⟩

/-- The detail of a company that holds cash. -/
def computedDetail (desk : Desk) (company : Company) (date : Date) (broker : BrokerAccount)
    (summary : Summary) (cash : Book) : Except Failure Detail := do
  let book ← cash.add company.currency summary.cash.value
  let terms ← desk.terms company broker
  let margin ← desk.calculator.ofBook terms book
  let excess ← summary.equity.value.sub margin
  return ⟨company.id, date, margin.toFigure, excess.toFigure⟩

/-- The margin requirement of a company. Without cash it is what the broker reports. -/
def detail (desk : Desk) (company : Company) (date : Date) (kind : AccountKind) :
    Except Failure Detail :=
  match desk.standing? company.id kind with
  | none => return .empty company.id date
  | some (broker, summary) =>
    let cash := (desk.store.holdingsOf company.id).cash
    if cash.balances.isEmpty then
      return ⟨company.id, date, summary.maintenance, summary.excess⟩
    else desk.computedDetail company date broker summary cash

/-- The projection of a company over a number of days. -/
def projection (desk : Desk) (company : Company) (date : Date) (kind : AccountKind)
    (additional : Table Currency Decimal) (days : Nat) : Except Failure (List Snapshot) := do
  match desk.standing? company.id kind with
  | none => return []
  | some (broker, summary) =>
    let accounts := desk.hedgedAccounts company.id kind (date.ahead days)
    if accounts.isEmpty then return []
    let terms ← desk.terms company broker
    Projection.run ⟨desk.calculator, terms, summary⟩ date days accounts additional

/-- The book on which deposits for a projected date are solved: its positions, the broker's cash
and the additional cash. -/
def depositBook (company : Company) (summary : Summary) (additional : Table Currency Decimal)
    (snapshot : Snapshot) : Except Decimal.Error Book := do
  let book ← (← snapshot.book).add company.currency summary.cash.value
  book.addAll additional.entries

/-- The cash that brings a book to a target under the terms of a broker account. -/
def requiredCash (desk : Desk) (terms : Terms) (book : Book) (target : Float) :
    Except Failure Decimal :=
  Deposit.solve ⟨book, terms.domestic, terms.spot, desk.calculator.ofBook terms⟩ target
    desk.settings.search.effort

/-- The cash that brings one projected date to the targets. The minimum is zero where the date
meets its target already. -/
def recommendationFor (desk : Desk) (company : Company) (broker : BrokerAccount)
    (summary : Summary) (additional : Table Currency Decimal) (worst : Snapshot) :
    Except Failure Recommendation := do
  let book ← depositBook company summary additional worst
  let terms ← desk.terms company broker
  let score ← worst.score desk.multiplier
  let minimum ←
    if desk.settings.minimumTarget ≤ score then pure 0
    else desk.requiredCash terms book desk.settings.minimumTarget
  return ⟨minimum, ← desk.requiredCash terms book desk.settings.recommendedTarget⟩

/-- The cash that brings the worst projected date to the targets, on top of the additional cash. -/
def recommendation (desk : Desk) (company : Company) (date : Date) (kind : AccountKind)
    (additional : Table Currency Decimal) (days : Nat) : Except Failure Recommendation := do
  let projected ← desk.projection company date kind additional days
  match ← Snapshot.worst? desk.multiplier projected, desk.standing? company.id kind with
  | some worst, some (broker, summary) =>
    desk.recommendationFor company broker summary additional worst
  | _, _ => return {}

/-- The margin of proposed positions in place of those held. What the change realizes counts as
cash. A company without a broker account has no answer; a missing summary counts as zeros. -/
def detailOfProposed (desk : Desk) (company : Company) (date : Date) (kind : AccountKind)
    (proposed : List FxPosition) : Except Failure (Option Detail) := do
  match desk.store.broker? company.id kind with
  | none => return none
  | some broker =>
    let summary := (desk.store.summary? company.id kind).getD {}
    let spot := desk.store.spot.quotes
    let held := (desk.store.holdingsOf company.id).held
    let profit ←
      if proposed.isEmpty then pure 0
      else Realization.profit held proposed company.currency spot
    let cash ← summary.cash.value.add profit
    let terms ← desk.terms company broker
    let margin ← desk.calculator.ofHoldings terms proposed
      (Table.empty.insert company.currency cash)
    let excess ← summary.equity.value.sub margin
    return some ⟨company.id, date, margin.toFigure, excess.toFigure⟩

/-- The health of a company's live account as its broker reports it. -/
def reportedHealth (desk : Desk) (company : CompanyId) : Except Failure Health :=
  match desk.store.isActive company .live, desk.store.summary? company .live with
  | true, some summary =>
    Health.ofFigures summary.excess summary.initial summary.maintenance
  | _, _ => return .full

/-- The health report of a company's live account. A custom amount replaces the pending deposit. -/
def report (desk : Desk) (company : Company) (date : Date) (custom : Option Decimal) :
    Except Failure (Option Report) := do
  if (desk.store.broker? company.id .live).isNone then return none
  let cash (amount : Decimal) : Table Currency Decimal :=
    Table.empty.insert company.currency amount
  let days := desk.settings.daysToProject
  let projection (additional : Table Currency Decimal) :=
    desk.projection company date .live additional days
  let pendingCash := custom.getD (desk.store.pendingOf company.id)
  let recommendation ← desk.recommendation company date .live (cash pendingCash) days
  -- A custom amount is all the theoretical cash; else the recommended cash comes on top.
  let theoreticalCash ← match custom with
    | some amount => pure amount
    | none => recommendation.recommended.add pendingCash
  let baseline ← projection .empty
  let pending ← projection (cash pendingCash)
  let theoretical ← projection (cash theoreticalCash)
  let detail ← desk.detail company date .live
  return some {
    detail, recommendation, pendingCash, baseline, pending, theoretical
    multiplier := desk.multiplier }

omit [SummationOrder]

/-- The recommendation that adds up its book in a given order. -/
def recommendationIn (desk : Desk) (order : SummationOrder) (company : Company) (date : Date)
    (kind : AccountKind) (additional : Table Currency Decimal) (days : Nat) :
    Except Failure Recommendation :=
  desk.recommendation company date kind additional days

/-- The report that adds up its book in a given order. -/
def reportIn (desk : Desk) (order : SummationOrder) (company : Company) (date : Date)
    (custom : Option Decimal) : Except Failure (Option Report) :=
  desk.report company date custom

end Desk

end Collateral
