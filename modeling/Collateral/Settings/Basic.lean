import Collateral.Account
import Collateral.Binary.Notation
import Collateral.Deposit.Solver

/-!
Contract: the settings of a desk and of a hedge, and the ranges they must keep.

Settings are data first and checked second: a setting out of range can be held, but `check` names
the first one. Figures are quoted back as they were written.
-/

namespace Collateral

/-- How precise and how long the search for a deposit is, as written in the settings. -/
structure SearchSettings where
  tolerance : Figure := .millionth
  maxIterations : Nat := 100
deriving DecidableEq, Repr, Inhabited

def SearchSettings.effort (settings : SearchSettings) : Deposit.Effort :=
  ⟨settings.tolerance.value, settings.maxIterations⟩

structure Settings where
  multiplier : Figure := 2
  daysToProject : Nat := 30
  minimumTarget : Float := 0.5
  recommendedTarget : Float := 1.0
  depositLevel : Float := 0.5
  defaultHaircut : Figure := Haircuts.usualDefault
  search : SearchSettings := {}
deriving DecidableEq, Repr

inductive Ranged where
  | hedgeRatio
  | marginBudget
  | multiplier
  | daysToProject
  | minimumTarget
  | recommendedTarget
  | depositLevel
  | defaultHaircut
  | tolerance
  | maxIterations
deriving DecidableEq, Repr

def Ranged.name : Ranged → String
  | .hedgeRatio => "target_vol_reduction_ratio"
  | .marginBudget => "margin_budget"
  | .multiplier => "margin_multiplier"
  | .daysToProject => "days_to_project"
  | .minimumTarget => "minimum_target_health"
  | .recommendedTarget => "recommended_target_health"
  | .depositLevel => "deposit_required_level"
  | .defaultHaircut => "default_haircut_rate"
  | .tolerance => "solver.tolerance"
  | .maxIterations => "solver.max_iterations"

/-- A setting out of its range, with its value as written. -/
structure OutOfRange where
  setting : Ranged
  value : String
deriving DecidableEq, Repr

def OutOfRange.message (error : OutOfRange) : String :=
  error.setting.name ++ " out of range: " ++ error.value

/-- Refuses a setting unless it is within its range. -/
def require (within : Bool) (setting : Ranged) (value : String) : Except OutOfRange Unit :=
  if within then .ok () else .error ⟨setting, value⟩

/-- Checks hedge settings: the ratio lies between zero and one, the budget is not below zero. -/
def HedgeSettings.check (settings : HedgeSettings) : Except OutOfRange Unit := do
  let ratio := settings.ratio.value
  require (0 ≤ ratio && ratio ≤ 1) .hedgeRatio settings.ratio.toText
  match settings.budget with
  | none => return ()
  | some budget => require (0 ≤ budget.value) .marginBudget budget.toText

/-- Checks the settings of a desk, in order of the fields. -/
def Settings.check (settings : Settings) : Except OutOfRange Unit := do
  let finite (setting : Ranged) (target : Float) : Except OutOfRange Unit :=
    require (Binary.isFinite target) setting (Binary.plain target)
  require (0 < settings.multiplier.value) .multiplier settings.multiplier.toText
  require (0 < settings.daysToProject) .daysToProject (toString settings.daysToProject)
  finite .minimumTarget settings.minimumTarget
  finite .recommendedTarget settings.recommendedTarget
  finite .depositLevel settings.depositLevel
  require (0 ≤ settings.defaultHaircut.value) .defaultHaircut settings.defaultHaircut.toText
  let search := settings.search
  require (0 < search.tolerance.value) .tolerance search.tolerance.toText
  require (0 < search.maxIterations) .maxIterations (toString search.maxIterations)

end Collateral
