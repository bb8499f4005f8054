/-
Module: MonitorSplit.Number.Word
Purpose: Integers that number or count things, which a machine word has to hold.
Main exports:
  FitsWord, WordOverflow, WordOverflow.message, toWord
-/

namespace MonitorSplit

/-- A signed word of 64 bits holds the number. -/
def FitsWord (number : Int) : Prop :=
  -9223372036854775808 ≤ number ∧ number ≤ 9223372036854775807

instance (number : Int) : Decidable (FitsWord number) :=
  inferInstanceAs (Decidable (_ ∧ _))

/-- A number that a word does not hold. -/
structure WordOverflow where
  number : Int
deriving DecidableEq, Repr, Inhabited

/-- The wording of a number that a word does not hold; it does not show the number. -/
def WordOverflow.message (_ : WordOverflow) : String :=
  "cannot fit 'int' into an index-sized integer"

/-- The number, if a word holds it. -/
def toWord (number : Int) : Except WordOverflow Int :=
  if FitsWord number then .ok number else .error { number }

/-- A number that a word holds passes unchanged, and no other does. -/
theorem toWord_eq_ok_iff {number word : Int} :
    toWord number = .ok word ↔ FitsWord number ∧ number = word := by
  unfold toWord
  split <;> simp_all

end MonitorSplit
