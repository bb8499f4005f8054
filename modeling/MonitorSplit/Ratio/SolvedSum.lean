/-
Module: MonitorSplit.Ratio.SolvedSum
Purpose: Sums along one axis of which every addend is known.
Main exports:
  addUp, SolvedSum, SolvedSum.total, SolvedSum.times, SolvedSum.withOffsets, SolvedSum.write
-/
import MonitorSplit.Number.Digits

namespace MonitorSplit

/-- What some numbers add up to. -/
def addUp (numbers : List Int) : Int := numbers.foldr (· + ·) 0

/-- A sum along one axis, all of its addends known. -/
structure SolvedSum where
  addends : List Int
deriving DecidableEq, Repr, Inhabited

namespace SolvedSum

/-- The number of addends. -/
def size (sum : SolvedSum) : Nat := sum.addends.length

/-- What the addends add up to. -/
def total (sum : SolvedSum) : Int := addUp sum.addends

/-- Every addend multiplied by a factor. -/
def times (sum : SolvedSum) (factor : Int) : SolvedSum :=
  { addends := sum.addends.map (· * factor) }

/-- Addends paired with the sum of `start` and all addends before them. -/
def offsetsFrom (start : Int) : List Int → List (Int × Int)
  | [] => []
  | addend :: rest => (addend, start) :: offsetsFrom (start + addend) rest

/-- Every addend with its offset: the sum of the addends before it. -/
def withOffsets (sum : SolvedSum) : List (Int × Int) := offsetsFrom 0 sum.addends

/-- The text of a sum: its addends with plus signs between them, of any length. -/
def render (sum : SolvedSum) : List Char :=
  List.intercalate ['+'] (sum.addends.map fun addend => (toString addend).toList)

/-- Write a sum. -/
def write (sum : SolvedSum) : Except DigitFault (List Char) := joinWritten '+' writeInt sum.addends

/-- The form in which a reader is shown the value. -/
def describe (sum : SolvedSum) : Except DigitFault String :=
  sum.write.map fun text => s!"<DimensionSum {String.ofList text}>"

/-- Offsets leave the addends as they are. -/
theorem map_fst_offsetsFrom (start : Int) (addends : List Int) :
    (offsetsFrom start addends).map Prod.fst = addends := by
  induction addends generalizing start with
  | nil => rfl
  | cons addend rest inductionHypothesis => simp [offsetsFrom, inductionHypothesis]

/-- There is one offset for each addend. -/
@[simp] theorem length_offsetsFrom (start : Int) (addends : List Int) :
    (offsetsFrom start addends).length = addends.length := by
  rw [← List.length_map Prod.fst, map_fst_offsetsFrom]

end SolvedSum

end MonitorSplit
