import Collateral.Currency
import Collateral.Decimal.Arithmetic
import Collateral.Table

/-!
Contract: spot rates and conversion between currencies.

Amounts are converted at the rates of a source, and any function of pairs is one. The table is the
source that programs fill. It holds rates of ordered pairs. Setting a rate also sets the fitted
inverse of the opposite pair, so the last rate set on two currencies decides both directions. Two
currencies without a rate of their own are converted through the anchor currency, in one step on
either side. A currency is always worth one of itself, whatever has been set.

Owns: sources and conversion at their rates, and the table.
-/

namespace Collateral

/-- Direct rates, and the currency through which missing ones are crossed. -/
structure Spot where
  anchor : Currency
  rates : Table FxPair Decimal := .empty
deriving DecidableEq, Repr, Inhabited

namespace Spot

inductive SettingError where
  | notPositive (pair : FxPair) (rate : Figure)
  | arithmetic (error : Decimal.Error)
deriving DecidableEq, Repr

def SettingError.message : SettingError → String
  | .notPositive pair rate =>
    "FX rate must be positive, got " ++ rate.toText ++ " for " ++ pair.arrow
  | .arithmetic error => error.message

instance : MonadLift (Except Decimal.Error) (Except SettingError) :=
  ⟨Except.mapError .arithmetic⟩

inductive ConversionError where
  | noPath (pair : FxPair)
  | arithmetic (error : Decimal.Error)
deriving DecidableEq, Repr

def ConversionError.message : ConversionError → String
  | .noPath pair => "no FX rate available for " ++ pair.arrow
  | .arithmetic error => error.message

instance : MonadLift (Except Decimal.Error) (Except ConversionError) :=
  ⟨Except.mapError .arithmetic⟩

variable [Rounding]

/-- Sets the rate of a pair, which must be above zero, and with it the inverse rate. -/
def set (spot : Spot) (pair : FxPair) (rate : Figure) : Except SettingError Spot := do
  if rate.value ≤ 0 then throw (.notPositive pair rate)
  let inverse ← Decimal.div 1 rate.value
  return { spot with rates := (spot.rates.insert pair rate.value).insert pair.inverse inverse }

/-- The table made by setting rates in order. -/
def ofList (anchor : Currency) (rates : List (FxPair × Figure)) : Except SettingError Spot :=
  rates.foldlM (fun spot (pair, rate) => spot.set pair rate) { anchor }

omit [Rounding] in
/-- The rate of a pair without crossing: one for a currency in itself, else as set. -/
def direct? (spot : Spot) (pair : FxPair) : Option Decimal :=
  if pair.base = pair.quote then some 1 else spot.rates.get? pair

/-- The rate of a pair: the direct one, or else the product of both legs through the anchor. -/
def rate? (spot : Spot) (pair : FxPair) : Except Decimal.Error (Option Decimal) :=
  match spot.direct? pair with
  | some rate => return some rate
  | none =>
    match spot.direct? ⟨pair.base, spot.anchor⟩, spot.direct? ⟨spot.anchor, pair.quote⟩ with
    | some legIn, some legOut => some <$> legIn.mul legOut
    | _, _ => return none

end Spot

/-- A source of rates: the rate of a pair, where there is a path between its currencies. -/
structure Quotes where
  rate? : FxPair → Except Decimal.Error (Option Decimal)

namespace Quotes

/-- The rate of a pair, which must have a path. -/
def rate (quotes : Quotes) (pair : FxPair) : Except Spot.ConversionError Decimal := do
  match ← quotes.rate? pair with
  | some rate => return rate
  | none => throw (.noPath pair)

/-- An amount of the base currency in the quote currency. -/
def convert [Rounding] (quotes : Quotes) (amount : Decimal) (pair : FxPair) :
    Except Spot.ConversionError Decimal := do
  amount.mul (← quotes.rate pair)

end Quotes

namespace Spot

variable [Rounding]

def quotes (spot : Spot) : Quotes := ⟨spot.rate?⟩

instance : Coe Spot Quotes := ⟨quotes⟩

def convert (spot : Spot) (amount : Decimal) (pair : FxPair) : Except ConversionError Decimal :=
  spot.quotes.convert amount pair

end Spot

end Collateral
