/-
Module: MonitorSplit.Settings.Writer
Purpose: Settings files written.
Main exports:
  renderEntry, renderSection, render
-/
import MonitorSplit.Settings.Contents

namespace MonitorSplit.Settings

/-!
The defaults come first, if there are any, and then the sections in order.  A line feed
within a value is followed by a tab, so that the next line continues the value.
-/

/-- A character of a value; a line feed indents the line after it. -/
def renderValueChar (c : Char) : List Char := if c = '\n' then ['\n', '\t'] else [c]

/-- The lines of a key and its value. -/
def renderEntry (key value : String) : List Char :=
  key.toList ++ " = ".toList ++ value.toList.flatMap renderValueChar ++ ['\n']

/-- The lines of a section and an empty line. -/
def renderSection (name : String) (entries : Table String) : List Char :=
  '[' :: name.toList ++ [']', '\n'] ++
    entries.flatMap (fun (key, value) => renderEntry key value) ++ ['\n']

/-- The text of a settings file. -/
def render (contents : Contents String) : String :=
  let defaults :=
    if contents.defaults = [] then [] else renderSection defaultsName contents.defaults
  String.ofList (defaults ++
    contents.sections.flatMap fun (name, entries) => renderSection name entries)

end MonitorSplit.Settings
