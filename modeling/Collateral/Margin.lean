import Collateral.Book
import Collateral.Haircuts
import Collateral.Netting

/-!
Contract: the margin that a cash book requires.

Under the haircut rule every balance that is not flat is turned into domestic worth, debts are
covered from the cheapest collateral, and the cost of that is scaled by a multiplier. A flat
balance is left out before conversion, so its currency needs no path.

Owns: the terms on which a book is margined, the haircut rule, and calculators, through which the
rest of the library asks for margins.
-/

namespace Collateral

/-- The terms on which books are margined. -/
structure Terms where
  domestic : Currency
  spot : Quotes
  haircuts : Haircuts
  multiplier : Decimal

namespace Margin

/-- Balances below this size are flat. -/
def flatBelow : Decimal := Figure.millionth.value

/-- Whether a balance is too small to matter. -/
def isFlat (amount : Decimal) : Bool :=
  amount.abs < flatBelow

variable [Rounding]

/-- A balance as a bucket of domestic worth. -/
def bucket (terms : Terms) (currency : Currency) (amount : Decimal) : Except Failure Bucket := do
  let pair : FxPair := ⟨currency, terms.domestic⟩
  let value ← terms.spot.convert amount pair
  return ⟨currency, terms.haircuts.rate pair, value⟩

/-- The buckets of all balances that are not flat. The order of the entries decides which of several
failed conversions is reported. -/
def buckets (terms : Terms) (book : Book) : Except Failure (List Bucket) :=
  (book.balances.entries.filter (!isFlat ·.2)).mapM fun (currency, amount) =>
    bucket terms currency amount

/-- The margin of a book under the haircut rule. -/
def ofBook (terms : Terms) (book : Book) : Except Failure Decimal := do
  let charge ← Netting.charge (← buckets terms book)
  charge.mul terms.multiplier

end Margin

/-- The book of positions together with further cash. -/
def Book.ofHoldings [Rounding] (positions : List FxPosition) (cash : Table Currency Decimal) :
    Except Decimal.Error Book := do
  (← Book.ofPositions positions).addAll cash.entries

/-- A rule for margins: of a book, and of positions held together with cash. -/
structure Calculator where
  ofBook : Terms → Book → Except Failure Decimal
  ofHoldings : Terms → List FxPosition → Table Currency Decimal → Except Failure Decimal

namespace Calculator

/-- The rule that margins positions through the book that they and the cash make up. -/
def ofBooks [Rounding] (margin : Terms → Book → Except Failure Decimal) : Calculator where
  ofBook := margin
  ofHoldings terms positions cash := do
    margin terms (← Book.ofHoldings positions cash)

def haircut [Rounding] : Calculator :=
  ofBooks Margin.ofBook

/-- One margin for every book, and another for all positions. Neither is looked at. -/
def fixedApart (book holdings : Decimal) : Calculator where
  ofBook _ _ := .ok book
  ofHoldings _ _ _ := .ok holdings

def fixed (margin : Decimal) : Calculator :=
  fixedApart margin margin

end Calculator

end Collateral
