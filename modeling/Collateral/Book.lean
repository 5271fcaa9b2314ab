import Collateral.Spot

/-!
Contract: cash books and the foreign-exchange positions that make them up.

A book holds one signed balance per currency: cash above zero, borrowed money below. A position is
long its base currency and short what that cost in the quote currency. A balance that has come to
zero stays in the book.

A book has no order of its own. Its entries stand in order of arrival, but a rounded sum over them
may take them in any order, and its last digits can depend on which. So the order of summation is a
parameter of every total.
-/

namespace Collateral

/-- An amount of the base currency of a pair, taken at a price in the quote currency. -/
structure FxPosition where
  pair : FxPair
  amount : Decimal
  price : Decimal
deriving DecidableEq, Repr, Inhabited

/-- One signed balance per currency. -/
structure Book where
  balances : Table Currency Decimal := .empty
deriving DecidableEq, Repr, Inhabited

/-- An order in which the balances of a book are added up: some rearrangement of its entries. -/
class SummationOrder where
  arrange : List (Currency × Decimal) → List (Currency × Decimal)
  perm : ∀ entries, (arrange entries).Perm entries

/-- The order in which the currencies came to the book. -/
@[reducible] def SummationOrder.arrival : SummationOrder :=
  ⟨fun entries => entries, .refl⟩

instance : SummationOrder := SummationOrder.arrival

namespace Book

/-- The balance in a currency; zero where there is none. -/
def balance (book : Book) (currency : Currency) : Decimal :=
  (book.balances.get? currency).getD 0

variable [Rounding]

def add (book : Book) (currency : Currency) (amount : Decimal) : Except Decimal.Error Book := do
  let balance ← (book.balance currency).add amount
  return ⟨book.balances.insert currency balance⟩

def addAll (book : Book) (amounts : List (Currency × Decimal)) : Except Decimal.Error Book :=
  amounts.foldlM (fun book (currency, amount) => book.add currency amount) book

/-- The book of a list of amounts, in which repeated currencies add up. -/
def ofList (amounts : List (Currency × Decimal)) : Except Decimal.Error Book :=
  addAll {} amounts

def addBase (book : Book) (position : FxPosition) : Except Decimal.Error Book :=
  book.add position.pair.base position.amount

/-- Books what a position cost. -/
def addQuote (book : Book) (position : FxPosition) : Except Decimal.Error Book := do
  let cost ← position.amount.mul position.price
  book.add position.pair.quote (-cost)

/-- Books both sides of a position, the base side first. -/
def addPosition (book : Book) (position : FxPosition) : Except Decimal.Error Book := do
  (← book.addBase position).addQuote position

/-- The book as it stands after booking a position, with the error that stopped the booking. -/
def post (book : Book) (position : FxPosition) : Book × Option Decimal.Error :=
  match book.addBase position with
  | .error error => (book, some error)
  | .ok based =>
    -- An error on the quote side leaves the base side booked.
    match based.addQuote position with
    | .error error => (based, some error)
    | .ok posted => (posted, none)

def ofPositions (positions : List FxPosition) : Except Decimal.Error Book :=
  positions.foldlM addPosition {}

/-- The entries of the book in the order in which they are added up. -/
def summands [SummationOrder] (book : Book) : List (Currency × Decimal) :=
  SummationOrder.arrange book.balances.entries

omit [Rounding] in
theorem summands_perm [SummationOrder] (book : Book) :
    book.summands.Perm book.balances.entries :=
  SummationOrder.perm book.balances.entries

/-- The worth of all balances in one currency, added up from zero. -/
def totalIn [SummationOrder] (book : Book) (domestic : Currency) (spot : Quotes) :
    Except Spot.ConversionError Decimal :=
  book.summands.foldlM
    (fun total (currency, amount) => do
      let value ← spot.convert amount ⟨currency, domestic⟩
      total.add value)
    0

end Book

end Collateral
