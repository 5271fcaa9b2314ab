import Collateral.Decimal.Basic

/-!
Contract: the four operations on decimals.

Every operation computes the exact rational result and then fits it to a decimal: it takes as many
places as ninety-six bits of coefficient allow, at most twenty-eight, and rounds to the nearest
neighbour, a half to the even one. A result whose whole part needs more than ninety-six bits is an
overflow.

Owns: the fitting rule, its strict variant that refuses to round, the operations and their errors.

The operations take the fitting rule from the context. Programs run under `Rounding.nearest`;
a calculation that also succeeds under `Rounding.exact` has lost nothing to rounding.
-/

namespace Collateral

/-- The whole number nearest to a quotient; a half goes to the even neighbour. -/
def roundHalfEven (numerator denominator : Nat) : Nat :=
  let quotient := numerator / denominator
  let twice := 2 * (numerator % denominator)
  if twice < denominator then quotient
  else if denominator < twice then quotient + 1
  else quotient + quotient % 2

/-- The decimal nearest to a rational number among those with the most places that fit, at most
`places` of them. -/
def Decimal.nearest? (number : Rat) (places : Nat) (placed : places ≤ placesLimit) :
    Option Decimal :=
  let scaled := number.num.natAbs * Digits.tenTo places
  let negative := decide (number < 0)
  if scaled / number.den < coefficientLimit then
    if bounded : roundHalfEven scaled number.den < coefficientLimit then
      some (.signed negative (roundHalfEven scaled number.den) places bounded placed)
    else
      -- Rounding up has reached the limit itself, and one place is given up for it.
      match places with
      | 0 => none
      | fewer + 1 =>
        some (.signed negative (roundHalfEven coefficientLimit 10) fewer (by decide)
          (Nat.le_of_succ_le placed))
  else
    match places with
    | 0 => none
    | fewer + 1 => nearest? number fewer (Nat.le_of_succ_le placed)

/-- A rule that turns an exact result into a decimal; `none` where the result does not fit. -/
class Rounding where
  fit : Rat → Option Decimal

/-- The rule of every run: the nearest decimal with as many places as fit. -/
@[reducible] def Rounding.nearest : Rounding :=
  ⟨fun number => Decimal.nearest? number placesLimit (Nat.le_refl _)⟩

/-- The rule that refuses every result it would have to round. -/
@[reducible] def Rounding.exact : Rounding :=
  ⟨fun number => (Rounding.nearest.fit number).filter fun fitted => fitted.toRat = number⟩

instance : Rounding := Rounding.nearest

inductive Operation where
  | addition
  | subtraction
  | multiplication
  | division
deriving DecidableEq, Repr

def Operation.name : Operation → String
  | .addition => "Addition"
  | .subtraction => "Subtraction"
  | .multiplication => "Multiplication"
  | .division => "Division"

namespace Decimal

inductive Error where
  | overflow (operation : Operation)
  | divisionByZero
deriving DecidableEq, Repr

def Error.message : Error → String
  | .overflow operation => operation.name ++ " overflowed"
  | .divisionByZero => "Division by zero"

variable [Rounding]

/-- Fits the exact result of an operation. -/
def fitted (operation : Operation) (number : Rat) : Except Error Decimal :=
  match Rounding.fit number with
  | some result => .ok result
  | none => .error (.overflow operation)

def add (left right : Decimal) : Except Error Decimal :=
  fitted .addition (left.toRat + right.toRat)

def sub (left right : Decimal) : Except Error Decimal :=
  fitted .subtraction (left.toRat - right.toRat)

def mul (left right : Decimal) : Except Error Decimal :=
  fitted .multiplication (left.toRat * right.toRat)

/-- The fitted quotient; nothing can be divided by zero. -/
def div (left right : Decimal) : Except Error Decimal :=
  if right = 0 then .error .divisionByZero
  else fitted .division (left.toRat / right.toRat)

end Decimal

end Collateral
