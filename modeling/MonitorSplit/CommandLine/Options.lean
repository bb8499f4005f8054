/-
Module: MonitorSplit.CommandLine.Options
Purpose: Options and operands of a command line.
Main exports:
  Switch, OptionSpec, optionTable, Choices, Halt, readArguments
-/

namespace MonitorSplit.CommandLine

/-!
Options and operands may be mixed; `--` ends the options.  A long option may be cut
short as long as one option alone begins that way.  Its value follows an equals sign or
is the next argument.  Short options may be run together behind one dash; the value of
the last one follows directly or is the next argument.  Help and version are shown as
soon as they are met.
-/

/-- What an option asks for. -/
inductive Switch where
  | version
  | help
  | monitor
  | display
  | forceVersion
  | reset
  | dryRun
  | list
  | save
  | deleteProfile
  | setMonitor
  | profiles
  | verbose
  | quiet
deriving DecidableEq, Repr, Inhabited

/-- An option: its names, what its value stands for if it takes one, and its help. -/
structure OptionSpec where
  switch : Switch
  short : Option Char := none
  long : String
  value : Option String := none
  help : String
deriving DecidableEq, Repr, Inhabited

/-- All options, in the order in which the help shows them. -/
def optionTable : List OptionSpec := [
  { switch := .version, long := "--version"
    help := "show program's version number and exit" },
  { switch := .help, short := some 'h', long := "--help"
    help := "show this help message and exit" },
  { switch := .monitor, short := some 'm', long := "--monitor", value := some "NAME"
    help := "Monitor to split (default: $XRPEX_MONITOR, then the config file)" },
  { switch := .display, long := "--randr-display", value := some "D"
    help := "Use D as display for xrandr (e.g. `localhost:10.0`)" },
  { switch := .forceVersion, long := "--force-version"
    help := "Even run with untested XRandR versions" },
  { switch := .reset, long := "--reset"
    help := "Only remove the partitions of the monitor, then exit" },
  { switch := .dryRun, short := some 'n', long := "--dry-run"
    help := "Print the xrandr commands as a shell script instead of running them" },
  { switch := .list, long := "--list"
    help := "List the monitors xrandr knows about, then exit" },
  { switch := .save, long := "--save", value := some "NAME"
    help := "Save RATIO as profile NAME, then exit" },
  { switch := .deleteProfile, long := "--delete-profile", value := some "NAME"
    help := "Delete the saved profile NAME, then exit" },
  { switch := .setMonitor, long := "--set-monitor", value := some "NAME"
    help := "Store NAME as the default monitor in the config file, then exit" },
  { switch := .profiles, long := "--profiles"
    help := "List saved profiles, then exit" },
  { switch := .verbose, short := some 'v', long := "--verbose"
    help := "Log debugging output" },
  { switch := .quiet, short := some 'q', long := "--quiet"
    help := "Only log warnings and errors" }]

/-- What the options of a command line chose. -/
structure Choices where
  monitor : Option String := none
  display : Option String := none
  forceVersion : Bool := false
  reset : Bool := false
  dryRun : Bool := false
  list : Bool := false
  save : Option String := none
  deleteProfile : Option String := none
  setMonitor : Option String := none
  profiles : Bool := false
  verbose : Bool := false
  quiet : Bool := false
deriving DecidableEq, Repr, Inhabited

/-- Why the reading of a command line ends before the end. -/
inductive Halt where
  | usageError (message : String)
  | help
  | version
deriving DecidableEq, Repr, Inhabited

/-- Take up an option that was given with a value, empty for one that takes none.  A
later value replaces an earlier one. -/
def Choices.take (choices : Choices) (value : String) : Switch → Except Halt Choices
  | .version => .error .version
  | .help => .error .help
  | .monitor => .ok { choices with monitor := some value }
  | .display => .ok { choices with display := some value }
  | .forceVersion => .ok { choices with forceVersion := true }
  | .reset => .ok { choices with reset := true }
  | .dryRun => .ok { choices with dryRun := true }
  | .list => .ok { choices with list := true }
  | .save => .ok { choices with save := some value }
  | .deleteProfile => .ok { choices with deleteProfile := some value }
  | .setMonitor => .ok { choices with setMonitor := some value }
  | .profiles => .ok { choices with profiles := true }
  | .verbose => .ok { choices with verbose := true }
  | .quiet => .ok { choices with quiet := true }

/-- An argument, by its form. -/
inductive Argument where
  | endOfOptions
  | long (name : List Char) (value : Option (List Char))
  | cluster (letters : List Char)
  | operand
deriving DecidableEq, Repr, Inhabited

/-- The form of an argument.  A single dash is an operand. -/
def Argument.ofText : List Char → Argument
  | ['-', '-'] => .endOfOptions
  | '-' :: '-' :: rest =>
      match rest.dropWhile (· ≠ '=') with
      | _ :: value => .long ('-' :: '-' :: rest.takeWhile (· ≠ '=')) (some value)
      | [] => .long ('-' :: '-' :: rest) none
  | '-' :: letter :: rest => .cluster (letter :: rest)
  | _ => .operand

/-- The option of a long name: the one named so, or the only one that begins so. -/
def matchLong (name : List Char) : Except Halt OptionSpec :=
  match optionTable.find? (·.long.toList = name) with
  | some spec => .ok spec
  | none =>
      match optionTable.filter (name.isPrefixOf ·.long.toList) with
      | [] => .error (.usageError s!"no such option: {String.ofList name}")
      | [spec] => .ok spec
      | specs =>
          let names := (specs.map (·.long)).mergeSort (· ≤ ·)
          let shown := ", ".intercalate names
          .error (.usageError s!"ambiguous option: {String.ofList name} ({shown}?)")

/-- The option of a letter. -/
def matchShort (letter : Char) : Except Halt OptionSpec :=
  match optionTable.find? (·.short = some letter) with
  | some spec => .ok spec
  | none => .error (.usageError s!"no such option: -{letter}")

/-- The refusal of an option without the value that it takes. -/
def missingValue (name : String) : Halt := .usageError s!"{name} option requires 1 argument"

/-- Read options run together behind one dash.  The last one may still be due a value,
which is then the next argument. -/
def readCluster : List Char → Choices → Except Halt (Choices × Option (Switch × String))
  | [], choices => .ok (choices, none)
  | letter :: rest, choices =>
      match matchShort letter with
      | .error halt => .error halt
      | .ok spec =>
          match spec.value, rest with
          | some _, [] => .ok (choices, some (spec.switch, s!"-{letter}"))
          | some _, value =>
              (choices.take (String.ofList value) spec.switch).map fun choices => (choices, none)
          | none, rest =>
              match choices.take "" spec.switch with
              | .error halt => .error halt
              | .ok choices => readCluster rest choices

/-- Read arguments after some choices and operands. -/
def readFrom : List String → Choices → List String → Except Halt (Choices × List String)
  | [], choices, operands => .ok (choices, operands)
  | argument :: rest, choices, operands =>
      match Argument.ofText argument.toList with
      | .endOfOptions => .ok (choices, operands ++ rest)
      | .operand => readFrom rest choices (operands ++ [argument])
      | .long name attached =>
          match matchLong name with
          | .error halt => .error halt
          | .ok spec =>
              match spec.value, attached, rest with
              | none, some _, _ =>
                  .error (.usageError s!"{spec.long} option does not take a value")
              | none, none, rest =>
                  match choices.take "" spec.switch with
                  | .error halt => .error halt
                  | .ok choices => readFrom rest choices operands
              | some _, some value, rest =>
                  match choices.take (String.ofList value) spec.switch with
                  | .error halt => .error halt
                  | .ok choices => readFrom rest choices operands
              | some _, none, value :: later =>
                  match choices.take value spec.switch with
                  | .error halt => .error halt
                  | .ok choices => readFrom later choices operands
              | some _, none, [] => .error (missingValue spec.long)
      | .cluster letters =>
          match readCluster letters choices with
          | .error halt => .error halt
          | .ok (choices, none) => readFrom rest choices operands
          | .ok (choices, some (switch, name)) =>
              match rest with
              | [] => .error (missingValue name)
              | value :: later =>
                  match choices.take value switch with
                  | .error halt => .error halt
                  | .ok choices => readFrom later choices operands

/-- The choices and the operands of a command line. -/
def readArguments (arguments : List String) : Except Halt (Choices × List String) :=
  readFrom arguments {} []

end MonitorSplit.CommandLine
