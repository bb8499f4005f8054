/-
Module: MonitorSplit.Ratio.Basic
Purpose: Ratios: one sum for each axis of a box.
Main exports:
  Ratio, Ratio.ofSums, Ratio.write, Ratio.parser, SolvedRatio, SolvedRatio.write
-/
import MonitorSplit.Ratio.AxisSum

namespace MonitorSplit

/-- A ratio such as `1+2:3`: one sum for each axis, in the order of the axes. -/
structure Ratio where
  sums : List AxisSum
  nonempty : sums ≠ [] := by simp
deriving DecidableEq, Repr

instance : Inhabited Ratio := ⟨{ sums := [default] }⟩

/-- A ratio of which every addend is known. -/
structure SolvedRatio where
  sums : List SolvedSum
deriving DecidableEq, Repr, Inhabited

namespace Ratio

/-- The ratio of some sums, of which there has to be one. -/
def ofSums (sums : List AxisSum) : Except ShapeError Ratio :=
  if nonempty : sums ≠ [] then .ok { sums, nonempty } else .error .ratioWithoutAxes

/-- The number of axes. -/
def dimensions (ratio : Ratio) : Nat := ratio.sums.length

/-- The text of a ratio: its sums with colons between them, of any length. -/
def render (ratio : Ratio) : List Char :=
  List.intercalate [':'] (ratio.sums.map AxisSum.render)

instance : ToString Ratio := ⟨fun ratio => String.ofList ratio.render⟩

/-- Write a ratio. -/
def write (ratio : Ratio) : Except DigitFault (List Char) := joinWritten ':' AxisSum.write ratio.sums

/-- The form in which a reader is shown the value. -/
def describe (ratio : Ratio) : Except DigitFault String :=
  ratio.write.map fun text => s!"<IndeterminateSumsInRatio {Text.quoteText text}>"

/-- The ratio of the sums that a parser read. -/
def ofParsed (sums : { values : List AxisSum // values ≠ [] }) : Ratio where
  sums := sums.val
  nonempty := sums.property

/-- Reads exactly so many sums with colons between them. -/
def parser (dimensions : Int) : Except ShapeError (Parser Ratio) :=
  if none_due : dimensions < 1 then .error .ratioWithoutAxes
  else
    .ok (Parser.map ofParsed
      (Parser.nonemptyList (.exactly dimensions) (Bounds.excludesEmpty_exactly none_due)
        (Parser.char [':']) AxisSum.parser))

end Ratio

namespace SolvedRatio

/-- The number of axes. -/
def dimensions (ratio : SolvedRatio) : Nat := ratio.sums.length

/-- The text of a solved ratio: its sums with colons between them, of any length. -/
def render (ratio : SolvedRatio) : List Char :=
  List.intercalate [':'] (ratio.sums.map SolvedSum.render)

/-- Write a solved ratio. -/
def write (ratio : SolvedRatio) : Except DigitFault (List Char) :=
  joinWritten ':' SolvedSum.write ratio.sums

/-- The form in which a reader is shown the value. -/
def describe (ratio : SolvedRatio) : Except DigitFault String :=
  ratio.write.map fun text => s!"<SumsInRatio {String.ofList text}>"

end SolvedRatio

end MonitorSplit
