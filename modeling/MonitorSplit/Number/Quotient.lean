/-
Module: MonitorSplit.Number.Quotient
Purpose: Exact division of integers.
Main exports:
  NotDivisible, NotDivisible.message, NotDivisible.raise, divide
-/
import MonitorSplit.Number.Digits

namespace MonitorSplit

/-- A division that leaves a remainder, or has no meaning because the divisor is zero. -/
structure NotDivisible where
  divisor : Int
  dividend : Int
deriving DecidableEq, Repr, Inhabited

/-- The wording of a failed division. -/
def NotDivisible.message (failure : NotDivisible) : String :=
  s!"{failure.divisor} does not divide {failure.dividend}"

/-- The numbers that the wording holds. -/
def NotDivisible.numbers (failure : NotDivisible) : List Int := [failure.divisor, failure.dividend]

/-- A failed division with its message. -/
def NotDivisible.raise (failure : NotDivisible) : Raised NotDivisible := .tell failure.numbers failure

/-- The exact quotient of two integers.  Nothing is rounded; zero divides nothing. -/
def divide (dividend divisor : Int) : Except (Raised NotDivisible) Int :=
  if divisor = 0 ∨ dividend % divisor ≠ 0 then
    .error (NotDivisible.raise { divisor, dividend })
  else .ok (dividend / divisor)

/-- Division succeeds exactly with a quotient that multiplies back, of a divisor
other than zero. -/
theorem divide_eq_ok_iff {dividend divisor quotient : Int} :
    divide dividend divisor = .ok quotient ↔ divisor ≠ 0 ∧ quotient * divisor = dividend := by
  unfold divide
  constructor
  · intro divided
    split at divided
    · cases divided
    · rename_i whole
      simp only [not_or, Decidable.not_not] at whole
      cases divided
      exact ⟨whole.1, Int.ediv_mul_cancel (Int.dvd_of_emod_eq_zero whole.2)⟩
  · rintro ⟨nonzero, rfl⟩
    rw [if_neg (by simp [nonzero]), Int.mul_ediv_cancel quotient nonzero]

/-- Division fails exactly when the divisor is zero or leaves a remainder, and the
failure names the two operands. -/
theorem divide_eq_error_iff {dividend divisor : Int} {failure : Raised NotDivisible} :
    divide dividend divisor = .error failure ↔
      failure = NotDivisible.raise { divisor, dividend } ∧ (divisor = 0 ∨ ¬ divisor ∣ dividend) := by
  unfold divide
  split
  · rename_i unfit
    simp only [Except.error.injEq]
    refine ⟨fun same => ⟨same.symm, ?_⟩, fun both => both.1.symm⟩
    exact unfit.imp_right fun remainder divides => remainder (Int.emod_eq_zero_of_dvd divides)
  · rename_i whole
    simp only [not_or, Decidable.not_not] at whole
    simp [whole.1, Int.dvd_of_emod_eq_zero whole.2]

end MonitorSplit
