/-
Module: MonitorSplit.Settings.Location
Purpose: Where the settings file is kept.
Main exports:
  joinPath, directory, file
-/

namespace MonitorSplit.Settings

/-- A name below a path.  The empty path is the current directory. -/
def joinPath (path name : String) : String :=
  if path.isEmpty || path.toList.getLast? == some '/' then path ++ name
  else path ++ "/" ++ name

/-- The directory of all settings: the one that the environment names, even if the name
is empty, or the usual one below the home directory. -/
def baseDirectory (home : String) (configured : Option String) : String :=
  match configured with
  | some path => path
  | none =>
      String.ofList (home.toList.reverse.dropWhile (· = '/')).reverse ++ "/.config"

/-- The directory of the settings file. -/
def directory (home : String) (configured : Option String) : String :=
  joinPath (baseDirectory home configured) "xrpex"

/-- The path of the settings file. -/
def file (home : String) (configured : Option String) : String :=
  joinPath (directory home configured) "config"

end MonitorSplit.Settings
