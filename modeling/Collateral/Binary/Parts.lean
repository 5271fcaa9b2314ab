/-!
Contract: what a binary floating-point number of sixty-four bits stands for.

Owns: the split of a number into sign, mantissa and exponent, its exact magnitude as a quotient
of natural numbers, and the total order in which every number has its place.

Does not own: any text of such a number.
-/

namespace Collateral.Binary

/-- A number taken apart. A finite one is `mantissa * 2 ^ exponent` behind its sign. -/
inductive Parts where
  | notANumber
  | infinite (negative : Bool)
  | finite (negative : Bool) (mantissa : Nat) (exponent : Int)
deriving DecidableEq, Repr

/-- The bits below this one hold the magnitude, and it holds the sign. -/
def signBit : Nat := (1 : Nat) <<< 63

/-- The bits below this one hold the fraction. It is the leading bit of a mantissa, which all
numbers but the smallest have. -/
def leadingBit : Nat := (1 : Nat) <<< 52

def parts (number : Float) : Parts :=
  let bits : Nat := number.toBits.toNat
  let negative := decide (signBit ≤ bits)
  let biased : Nat := bits % signBit / leadingBit
  let fraction : Nat := bits % leadingBit
  if biased = 2047 then
    if fraction = 0 then .infinite negative else .notANumber
  else if biased = 0 then .finite negative fraction (-1074)
  else .finite negative (leadingBit + fraction) ((biased : Int) - 1075)

/-- Whether a number is neither infinite nor undefined. -/
def isFinite (number : Float) : Bool :=
  match parts number with
  | .finite .. => true
  | _ => false

structure Quotient where
  numerator : Nat
  denominator : Nat
deriving DecidableEq, Repr

def Quotient.ofScaled (mantissa : Nat) (exponent : Int) : Quotient :=
  match exponent with
  | .ofNat power => ⟨mantissa <<< power, 1⟩
  | .negSucc power => ⟨mantissa, 1 <<< (power + 1)⟩

/-- The place of a number in the total order of all numbers: below zero the larger magnitude
comes first, and the two zeros differ. -/
def rank (number : Float) : Int :=
  let bits : Nat := number.toBits.toNat
  if bits < signBit then (bits : Int) else (signBit : Int) - (bits : Int) - 1

end Collateral.Binary
