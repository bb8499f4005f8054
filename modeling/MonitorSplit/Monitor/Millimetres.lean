/-
Module: MonitorSplit.Monitor.Millimetres
Purpose: The millimetres of a part, in proportion to those of the whole.
Main exports:
  ProportionFault, ProportionFault.message, proportion
-/
import MonitorSplit.Number.Nearest

namespace MonitorSplit

/-!
A part of a length has its share of the millimetres.  The quotient is taken as the
nearest binary number with 53 digits, and that number is rounded to the nearest whole
one.  A length of zero millimetres is unknown and stays zero for every part.
-/

/-- Why a proportion has no value: the whole is zero pixels long, or the quotient is
past the largest number with an exponent of eleven binary digits. -/
inductive ProportionFault where
  | zeroWhole
  | tooLarge
deriving DecidableEq, Repr, Inhabited

/-- The wording of a proportion without a value. -/
def ProportionFault.message : ProportionFault → String
  | .zeroWhole => "division by zero"
  | .tooLarge => "integer division result too large for a float"

/-- Quotients from here on are too large. -/
def quotientLimit : Nat := 1 <<< 1024

/-- The share of `pixels` out of `total` in a length of so many millimetres. -/
def proportion (millimetres pixels total : Int) : Except ProportionFault Int :=
  if millimetres = 0 then .ok 0
  else if total = 0 then .error .zeroWhole
  else
    let product := millimetres * pixels
    let quotient := nearestBinary product.natAbs total.natAbs
    if quotientLimit ≤ quotient.significand <<< quotient.exponent.toNat then .error .tooLarge
    else
      let share : Int := quotient.round
      .ok (if (product < 0) = (total < 0) then share else -share)

end MonitorSplit
