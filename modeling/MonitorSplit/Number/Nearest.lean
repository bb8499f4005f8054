/-
Module: MonitorSplit.Number.Nearest
Purpose: Quotients of natural numbers rounded to the nearest, ties to the even neighbour.
Main exports:
  roundHalfEven, binaryExponent, Binary, nearestBinary, Binary.round
-/

namespace MonitorSplit

/-!
A quotient is rounded in two ways: to a whole number, and to a binary number whose
significand has 53 digits.  Both take the nearest candidate, and the even one of two
that are equally near.
-/

/-- The whole number nearest to `numerator / denominator`; of two, the even one. -/
def roundHalfEven (numerator denominator : Nat) : Nat :=
  let floor := numerator / denominator
  let remainder := numerator % denominator
  if 2 * remainder < denominator then floor
  else if denominator < 2 * remainder then floor + 1
  else floor + floor % 2

/-- A binary number: `significand * 2 ^ exponent`. -/
structure Binary where
  significand : Nat
  exponent : Int
deriving DecidableEq, Repr, Inhabited

/-- How many binary digits a significand has. -/
def significandDigits : Nat := 53

/-- The exponent `e` with `2 ^ e ≤ numerator / denominator < 2 ^ (e + 1)`, for
operands other than zero.  The difference of the operands' own exponents is right or
one too large. -/
def binaryExponent (numerator denominator : Nat) : Int :=
  let above := numerator.log2
  let below := denominator.log2
  let estimate : Int := above - below
  if denominator <<< (above - below) ≤ numerator <<< (below - above) then estimate
  else estimate - 1

/-- The binary number nearest to `numerator / denominator`, with a significand of 53
digits; zero is exact. -/
def nearestBinary (numerator denominator : Nat) : Binary :=
  if numerator = 0 then { significand := 0, exponent := 0 }
  else
    let exponent := binaryExponent numerator denominator + 1 - significandDigits
    { significand :=
        roundHalfEven (numerator <<< (-exponent).toNat) (denominator <<< exponent.toNat)
      exponent }

/-- The whole number nearest to a binary number. -/
def Binary.round (number : Binary) : Nat :=
  roundHalfEven (number.significand <<< number.exponent.toNat) (1 <<< (-number.exponent).toNat)

end MonitorSplit
