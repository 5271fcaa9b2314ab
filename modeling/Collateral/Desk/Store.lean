import Collateral.Account
import Collateral.Book
import Collateral.Calendar.Date
import Collateral.Exposure

/-!
Contract: the state that a desk keeps on its companies, and how it changes.

Accounts are kept in the order in which they were added. Everything else is kept under a key, and
the latest value counts. Nothing but the health records and the exposures carries a date, so every
date is served from the same market data, cash and summaries.
-/

namespace Collateral

/-- The worst and the best projected score of a company on one day. -/
structure DailyHealth where
  company : CompanyId
  date : Date
  worst : Float
  best : Float
deriving DecidableEq, Repr

/-- The cash that a company holds, and the positions it is held in. -/
structure Holdings where
  cash : Book := {}
  held : List FxPosition := []
deriving DecidableEq, Repr, Inhabited

structure Store where
  spot : Spot
  accounts : List Account := []
  holdings : Table CompanyId Holdings := .empty
  brokers : Table (CompanyId × AccountKind) BrokerAccount := .empty
  summaries : Table (CompanyId × AccountKind) Summary := .empty
  exposures : Table AccountId (List Exposure) := .empty
  haircuts : Table BrokerId Haircuts := .empty
  pending : Table CompanyId Decimal := .empty
  health : Table (CompanyId × Date) DailyHealth := .empty

inductive Change where
  | addAccount (account : Account)
  | setHoldings (company : CompanyId) (holdings : Holdings)
  | setBroker (company : CompanyId) (broker : BrokerAccount)
  | setSummary (company : CompanyId) (kind : AccountKind) (summary : Summary)
  | setExposures (account : AccountId) (entries : List Exposure)
  | setSpot (spot : Spot)
  | setHaircuts (haircuts : Haircuts)
  | setPending (company : CompanyId) (amount : Decimal)
  | recordHealth (record : DailyHealth)

namespace Store

def apply (store : Store) : Change → Store
  | .addAccount account => { store with accounts := store.accounts ++ [account] }
  | .setHoldings company holdings =>
    { store with holdings := store.holdings.insert company holdings }
  | .setBroker company broker =>
    { store with brokers := store.brokers.insert (company, broker.kind) broker }
  | .setSummary company kind summary =>
    { store with summaries := store.summaries.insert (company, kind) summary }
  | .setExposures account entries =>
    { store with exposures := store.exposures.insert account entries }
  | .setSpot spot => { store with spot }
  | .setHaircuts haircuts =>
    { store with haircuts := store.haircuts.insert haircuts.broker haircuts }
  | .setPending company amount => { store with pending := store.pending.insert company amount }
  | .recordHealth record =>
    { store with health := store.health.insert (record.company, record.date) record }

def applyAll (store : Store) (changes : List Change) : Store :=
  changes.foldl apply store

/-- The accounts of a company, active or not, in order of arrival. -/
def accountsOf (store : Store) (company : CompanyId) (kind : AccountKind) : List Account :=
  store.accounts.filter fun account => account.company = company && account.kind = kind

def holdingsOf (store : Store) (company : CompanyId) : Holdings :=
  (store.holdings.get? company).getD {}

def broker? (store : Store) (company : CompanyId) (kind : AccountKind) : Option BrokerAccount :=
  store.brokers.get? (company, kind)

def summary? (store : Store) (company : CompanyId) (kind : AccountKind) : Option Summary :=
  store.summaries.get? (company, kind)

/-- The exposures of an account that are dated up to `last`. Earlier ones are kept, since they may
still hold. -/
def exposuresUpTo (store : Store) (account : AccountId) (last : Date) : List Exposure :=
  ((store.exposures.get? account).getD []).filter fun entry => entry.date ≤ last

def haircuts? (store : Store) (broker : BrokerId) : Option Haircuts :=
  store.haircuts.get? broker

/-- The deposit of a company that is announced but not yet credited. -/
def pendingOf (store : Store) (company : CompanyId) : Decimal :=
  (store.pending.get? company).getD 0

def health? (store : Store) (company : CompanyId) (date : Date) : Option DailyHealth :=
  store.health.get? (company, date)

def isActive (store : Store) (company : CompanyId) (kind : AccountKind) : Bool :=
  (store.accountsOf company kind).any Account.active

end Store

end Collateral
