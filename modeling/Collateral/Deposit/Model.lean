import Collateral.Deposit.Solver

/-!
Contract: margins that follow the domestic balance of a book by a simple law.

They stand in for the haircut rule where only the search for a deposit is of interest.
-/

namespace Collateral.Deposit

/-- A law for the margin of a book with a given domestic balance. -/
inductive Model where
  /-- `intercept + (slope + curvature * balance) * balance`, and not less than the floor. -/
  | curve (intercept slope curvature : Decimal) (floor : Option Decimal)
  /-- The margin of the first step whose limit lies above the balance, or else the last one. -/
  | steps (steps : List (Decimal × Decimal)) (last : Decimal)
deriving DecidableEq, Repr

namespace Model

variable [Rounding]

def marginAt (balance : Decimal) : Model → Except Decimal.Error Decimal
  | .curve intercept slope curvature floor => do
    let bend ← curvature.mul balance
    let rise ← (← slope.add bend).mul balance
    let margin ← intercept.add rise
    return match floor with
      | none => margin
      | some floor => max margin floor
  | .steps ladder last =>
    return match ladder.find? fun step => balance < step.1 with
      | some step => step.2
      | none => last

def margin (model : Model) (domestic : Currency) (book : Book) : Except Failure Decimal := do
  model.marginAt (book.balance domestic)

end Model

end Collateral.Deposit
