/-
Module: MonitorSplit.CommandLine.Help
Purpose: Usage, help and version as they are shown.
Main exports:
  usageText, helpText, versionText
-/
import MonitorSplit.CommandLine.Options
import MonitorSplit.Text.Fill

namespace MonitorSplit.CommandLine

/-!
The help is set for a terminal of 80 columns, of which 78 are used.  Option names stand
two columns in, their help from column 24 on; names that reach too far have a line of
their own.
-/

/-- The name of the program. -/
def programName : String := "xrpex"

/-- The program and its version. -/
def versionText : String := programName ++ " 0.1.0\n"

/-- How the program is called. -/
def usageText : String :=
  "Usage: " ++ programName ++ " [options] RATIO|@PROFILE\n\n" ++
    "RATIO is one sum of addends per axis, e.g. `1+2:1` for a left third and\n" ++
    "a right two thirds. Empty addends are solved to share the remaining\n" ++
    "space equally, e.g. `++:` for three equal columns.\n"

/-- What the program does. -/
def description : String := "Split a monitor into virtual monitors by ratio"

/-- The number of columns in use. -/
def lineWidth : Nat := 78

/-- The column at which the help of an option begins. -/
def helpColumn : Nat := 24

/-- The column at which the names of an option begin. -/
def nameColumn : Nat := 2

/-- So many blanks. -/
def blanks (count : Nat) : String := Text.padRight count ""

/-- The names of an option, each with what its value stands for. -/
def OptionSpec.names (spec : OptionSpec) : String :=
  let long := match spec.value with
    | some value => spec.long ++ "=" ++ value
    | none => spec.long
  match spec.short, spec.value with
  | some letter, some value => s!"-{letter} {value}, " ++ long
  | some letter, none => s!"-{letter}, " ++ long
  | none, _ => long

/-- The lines that show an option. -/
def OptionSpec.helpLines (spec : OptionSpec) : List String :=
  let nameWidth := helpColumn - nameColumn - 2
  let lines := Text.fillLines (lineWidth - helpColumn) spec.help
  let indented := lines.map (blanks helpColumn ++ ·)
  if nameWidth < spec.names.length then (blanks nameColumn ++ spec.names) :: indented
  else
    (blanks nameColumn ++ Text.padRight nameWidth spec.names ++ blanks 2 ++ lines.headD "") ::
      indented.drop 1

/-- Lines as text, each with its line feed. -/
def unlines (lines : List String) : String := String.join (lines.map (· ++ "\n"))

/-- Usage, description and options. -/
def helpText : String :=
  usageText ++ "\n" ++ unlines (Text.fillLines lineWidth description) ++ "\n" ++
    "Options:\n" ++ unlines (optionTable.flatMap OptionSpec.helpLines)

end MonitorSplit.CommandLine
