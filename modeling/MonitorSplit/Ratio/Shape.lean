/-
Module: MonitorSplit.Ratio.Shape
Purpose: Shapes that sums, boxes and ratios refuse.
Main exports:
  ShapeError, ShapeError.message
-/

namespace MonitorSplit

/-- A sum needs an addend, a box and a ratio need an axis, and a ratio splits only a
box of as many axes. -/
inductive ShapeError where
  | sumWithoutAddends
  | boxWithoutAxes
  | ratioWithoutAxes
  | axesDiffer (ratio box : Nat)
deriving DecidableEq, Repr, Inhabited

/-- The wording of a refused shape. -/
def ShapeError.message : ShapeError → String
  | .sumWithoutAddends => "a dimension sum needs at least one addend"
  | .boxWithoutAxes => "0-dimensional HyperRectangles are not supported"
  | .ratioWithoutAxes => "0-dimensional SumsInRatio are not supported"
  | .axesDiffer ratio box =>
      s!"cannot evaluate a {ratio}-dimensional ratio on a {box}-dimensional rectangle"

end MonitorSplit
