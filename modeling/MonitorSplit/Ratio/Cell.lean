/-
Module: MonitorSplit.Ratio.Cell
Purpose: The cells of a solved ratio.
Main exports:
  Cell, Cell.scaled, SolvedRatio.cells, SolvedRatio.cellCount, SolvedRatio.countCells
-/
import MonitorSplit.Number.Word
import MonitorSplit.Ratio.Basic

namespace MonitorSplit

/-- One cell of a grid: where it begins and how long it is, on each axis. -/
structure Cell where
  position : List Int
  size : List Int
deriving DecidableEq, Repr, Inhabited

namespace Cell

/-- The cell with all its numbers multiplied by a scale. -/
def scaled (cell : Cell) (scale : Int) : Cell where
  position := cell.position.map (· * scale)
  size := cell.size.map (· * scale)

/-- Write numbers between parentheses; a single one is followed by a comma. -/
def writeNumbers (numbers : List Int) : Except DigitFault String := do
  let texts ← numbers.mapM writeInt
  match texts.map String.ofList with
  | [text] => return "(" ++ text ++ ",)"
  | texts => return "(" ++ ", ".intercalate texts ++ ")"

/-- The form in which a reader is shown the value. -/
def describe (cell : Cell) : Except DigitFault String := do
  let position ← writeNumbers cell.position
  let size ← writeNumbers cell.size
  return s!"<Partition at {position} size {size}>"

/-- The cell of a choice of one addend with its offset on each axis. -/
def ofChoice (choice : List (Int × Int)) : Cell where
  position := choice.map Prod.snd
  size := choice.map Prod.fst

end Cell

/-- Each option before each of the lists; the option varies slowest. -/
def extendEach {α : Type} (options : List α) (lists : List (List α)) : List (List α) :=
  options.flatMap fun chosen => lists.map (chosen :: ·)

/-- All ways to choose one member of each list; the choice from the first list varies
slowest.  A list without members ends the search, whatever follows it. -/
def choices {α : Type} : List (List α) → List (List α)
  | [] => [[]]
  | [] :: _ => []
  | (option :: options) :: rest => extendEach (option :: options) (choices rest)

/-- The choices from one list more extend those from the others. -/
theorem choices_cons {α : Type} (options : List α) (rest : List (List α)) :
    choices (options :: rest) = extendEach options (choices rest) := by
  cases options <;> rfl

namespace SolvedRatio

/-- Every cell of the grid, the position on the first axis varying slowest. -/
def cells (ratio : SolvedRatio) : List Cell :=
  (choices (ratio.sums.map SolvedSum.withOffsets)).map Cell.ofChoice

/-- The number of cells: the product of the numbers of addends. -/
def cellCount (ratio : SolvedRatio) : Nat :=
  ratio.sums.foldl (fun count sum => count * sum.size) 1

/-- The number of cells as a word, which the grids of many axes outgrow. -/
def countCells (ratio : SolvedRatio) : Except WordOverflow Int :=
  toWord ratio.cellCount

end SolvedRatio

end MonitorSplit
