import Collateral.Document.Shape
import Collateral.Document.Text
import Collateral.Settings.Basic

/-!
Contract: reading settings from JSON.

Every setting has a default, so an empty record is complete. Unknown names are refused. A text is
read as a whole before any range is checked.
-/

namespace Collateral

open Document

/-- Why settings cannot be taken from a text. -/
inductive SettingsError where
  | document (fault : Fault)
  | outOfRange (error : OutOfRange)
deriving DecidableEq, Repr

/-- Reads a text and checks what it holds. -/
def readChecked {α : Type} (reader : Reader α) (check : α → Except OutOfRange Unit)
    (text : String) : Except SettingsError α :=
  match Document.read reader text with
  | .error fault => .error (.document fault)
  | .ok settings =>
    match check settings with
    | .error error => .error (.outOfRange error)
    | .ok () => .ok settings

namespace HedgeSettings

/-- The fields of hedge settings. The ratio has a second name. -/
def shape : Shape where
  fields := [
    .of "target_vol_reduction_ratio" readFigure ["VolTargetReduction"],
    .of "margin_budget" (readOption readFigure)]
  closed := true
  lenient := true

/-- Reads hedge settings without checking their ranges. -/
def read : Reader HedgeSettings := fun node => do
  let given ← shape.read node
  let usual : HedgeSettings := {}
  return {
    ratio := ← given.getD "target_vol_reduction_ratio" readFigure usual.ratio
    budget := ← given.get? "margin_budget" readFigure }

def ofText (text : String) : Except SettingsError HedgeSettings :=
  readChecked read check text

end HedgeSettings

namespace SearchSettings

def shape : Shape where
  fields := [
    .of "tolerance" readFigure,
    .of "max_iterations" (readCount Numeral.wordMax)]
  closed := true
  lenient := true

def read : Reader SearchSettings := fun node => do
  let given ← shape.read node
  let usual : SearchSettings := {}
  return {
    tolerance := ← given.getD "tolerance" readFigure usual.tolerance
    maxIterations := ←
      given.getD "max_iterations" (readCount Numeral.wordMax) usual.maxIterations }

end SearchSettings

namespace Settings

/-- The greatest number of days that can be projected. -/
def daysMax : Nat := (1 : Nat) <<< 32 - 1

def shape : Shape where
  fields := [
    .of "margin_multiplier" readFigure,
    .of "days_to_project" (readCount daysMax),
    .of "minimum_target_health" readReal,
    .of "recommended_target_health" readReal,
    .of "deposit_required_level" readReal,
    .of "default_haircut_rate" readFigure,
    .of "solver" SearchSettings.read]
  closed := true
  lenient := true

def read : Reader Settings := fun node => do
  let given ← shape.read node
  let usual : Settings := {}
  return {
    multiplier := ← given.getD "margin_multiplier" readFigure usual.multiplier
    daysToProject := ← given.getD "days_to_project" (readCount daysMax) usual.daysToProject
    minimumTarget := ← given.getD "minimum_target_health" readReal usual.minimumTarget
    recommendedTarget :=
      ← given.getD "recommended_target_health" readReal usual.recommendedTarget
    depositLevel := ← given.getD "deposit_required_level" readReal usual.depositLevel
    defaultHaircut := ← given.getD "default_haircut_rate" readFigure usual.defaultHaircut
    search := ← given.getD "solver" SearchSettings.read usual.search }

def ofText (text : String) : Except SettingsError Settings :=
  readChecked read check text

end Settings

end Collateral
