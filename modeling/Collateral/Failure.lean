import Collateral.Binary.Notation
import Collateral.Spot

/-!
Contract: why a calculation on an account has no result.

Owns: the causes and their wording. A cause is told apart by its constructor, never by its text.

Does not own: errors in setting a spot rate or in reading settings, which arise before any
calculation.
-/

namespace Collateral

inductive Failure where
  /-- An operation left the range of decimals. -/
  | arithmetic (error : Decimal.Error)
  /-- An amount has no path into the other currency. -/
  | noPath (pair : FxPair)
  /-- A published haircut lies below zero. -/
  | negativeHaircut (pair : FxPair) (rate : Figure)
  /-- The haircut for pairs without one lies below zero. -/
  | negativeDefault (rate : Figure)
  /-- A margin requirement lies below zero. -/
  | negativeRequirement (initial maintenance : Figure)
  /-- A deposit cannot be solved for this target. -/
  | invalidTarget (target : Float)
  /-- The search for a deposit used up its iterations. -/
  | noConvergence (iterations : Nat) (residual : Decimal)
deriving DecidableEq, Repr

namespace Failure

def message : Failure → String
  | .arithmetic error => error.message
  | .noPath pair => "conversion error: " ++ (Spot.ConversionError.noPath pair).message
  | .negativeHaircut pair rate =>
    "haircut rate must be non-negative, got " ++ rate.toText ++ " for " ++ pair.toText
  | .negativeDefault rate => "default haircut rate must be non-negative, got " ++ rate.toText
  | .negativeRequirement initial maintenance =>
    "margin components must be non-negative (init " ++ initial.toText
      ++ ", maint " ++ maintenance.toText ++ ")"
  | .invalidTarget target =>
    "deposit solver failed: target health must be a finite number greater than -1, got "
      ++ Binary.plain target
  | .noConvergence iterations residual =>
    "deposit solver failed: no convergence after " ++ toString iterations
      ++ " iterations (residual " ++ residual.toText ++ ")"

/-- A failed conversion as a failure of the calculation that needed it. -/
def ofConversion : Spot.ConversionError → Failure
  | .noPath pair => .noPath pair
  | .arithmetic error => .arithmetic error

instance : MonadLift (Except Decimal.Error) (Except Failure) :=
  ⟨Except.mapError .arithmetic⟩

instance : MonadLift (Except Spot.ConversionError) (Except Failure) :=
  ⟨Except.mapError ofConversion⟩

end Failure

end Collateral
