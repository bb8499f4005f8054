/-
Module: MonitorSplit.Text.Fill
Purpose: Words set into lines of a given width.
Main exports:
  fillLines, padRight
-/

namespace MonitorSplit.Text

/-- Set words into lines no longer than `width`, each line as full as it can be.
`line` is the line under way; a word longer than the width has a line of its own. -/
def fillFrom (width : Nat) (line : String) : List String → List String
  | [] => [line]
  | word :: rest =>
      if line.length + 1 + word.length ≤ width then fillFrom width (line ++ " " ++ word) rest
      else line :: fillFrom width word rest

/-- The words of a text set into lines no longer than `width`. -/
def fillLines (width : Nat) (text : String) : List String :=
  match (text.splitOn " ").filter (· ≠ "") with
  | [] => []
  | word :: rest => fillFrom width word rest

/-- A text filled with blanks to a width. -/
def padRight (width : Nat) (text : String) : String :=
  text ++ String.ofList (List.replicate (width - text.length) ' ')

end MonitorSplit.Text
