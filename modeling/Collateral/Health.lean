import Collateral.Binary.Decimal
import Collateral.Failure

/-!
Contract: how healthy a margin account is.

Owns: the ratio of excess liquidity to twice the larger requirement, the four grades of a ratio,
and which grades are healthy.

Does not own: the score of a projected date, which is computed from the projection.
-/

namespace Collateral

inductive Grade where
  | excess
  | healthy
  | depositRequired
  | liquidation
deriving DecidableEq, Repr

namespace Grade

/-- The grade of a ratio. Each threshold belongs to the grade above it; an undefined ratio has the
lowest grade. -/
def ofRatio (ratio : Float) : Grade :=
  if 1.0 ≤ ratio then .excess
  else if 0.5 ≤ ratio then .healthy
  else if 0.2 ≤ ratio then .depositRequired
  else .liquidation

def name : Grade → String
  | .excess => "Excess"
  | .healthy => "Healthy"
  | .depositRequired => "DepositRequired"
  | .liquidation => "Liquidation"

def isHealthy : Grade → Bool
  | .excess | .healthy => true
  | .depositRequired | .liquidation => false

end Grade

structure Health where
  ratio : Float
deriving DecidableEq, Repr

namespace Health

def full : Health := ⟨1.0⟩

def grade (health : Health) : Grade := .ofRatio health.ratio

variable [Rounding]

/-- The exact quotient behind a ratio: the excess over twice the larger requirement; `none` where
nothing is required. -/
def quotient? (excess initial maintenance : Decimal) : Except Decimal.Error (Option Decimal) := do
  let required ← Decimal.mul 2 (max initial maintenance)
  if required = 0 then return none
  some <$> excess.div required

/-- The health of an account with the given excess and requirements, none of them below zero. -/
def ofFigures (excess initial maintenance : Figure) : Except Failure Health := do
  if initial.value < 0 ∨ maintenance.value < 0 then
    throw (.negativeRequirement initial maintenance)
  match ← quotient? excess.value initial.value maintenance.value with
  | none => return full
  | some quotient => return ⟨quotient.toBinary⟩

end Health

end Collateral
