import Collateral.Currency
import Collateral.Decimal.Figure
import Collateral.Haircuts

/-!
Contract: companies, their accounts, and what their brokers report.

Figures that come from outside are kept as they were written.
-/

namespace Collateral

structure CompanyId where
  name : String
deriving DecidableEq, Repr, Inhabited

structure AccountId where
  name : String
deriving DecidableEq, Repr, Inhabited

/-- A company, with the currency in which its margin is measured. -/
structure Company where
  id : CompanyId
  currency : Currency
deriving DecidableEq, Repr, Inhabited

/-- Whether an account trades for real. -/
inductive AccountKind where
  | live
  | demo
deriving DecidableEq, Repr, Inhabited

def AccountKind.name : AccountKind → String
  | .live => "live"
  | .demo => "demo"

/-- How much of an account's exposure is hedged, and what margin that may take. -/
structure HedgeSettings where
  ratio : Figure := 1
  budget : Option Figure := none
deriving DecidableEq, Repr, Inhabited

/-- A hedging account of a company. Only active accounts with hedge settings are projected. -/
structure Account where
  id : AccountId
  company : CompanyId
  kind : AccountKind
  active : Bool := true
  hedge : Option HedgeSettings := none
deriving DecidableEq, Repr, Inhabited

structure BrokerAccount where
  broker : BrokerId
  name : String
  kind : AccountKind
deriving DecidableEq, Repr, Inhabited

/-- What a broker reports about a margin account, in the company's currency: the initial and the
maintenance requirement, the excess liquidity, the cash not tied to positions, and the equity. -/
structure Summary where
  initial : Figure := 0
  maintenance : Figure := 0
  excess : Figure := 0
  cash : Figure := 0
  equity : Figure := 0
deriving DecidableEq, Repr, Inhabited

end Collateral
