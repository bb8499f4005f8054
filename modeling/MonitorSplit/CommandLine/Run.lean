/-
Module: MonitorSplit.CommandLine.Run
Purpose: Command lines run, and what is shown of the run.
Main exports:
  Outcome, Report, logText, conclude, run
-/
import MonitorSplit.CommandLine.Help
import MonitorSplit.CommandLine.Modes

namespace MonitorSplit.CommandLine

/-!
A run reads its command line, does what the options choose and reports: what it printed,
the log lines that the options ask to see, and at the end a usage error or a failure, if
one ended it.
-/

/-- How a run ends.  An early exit is taken where a usage error, the help or the version
ends it. -/
inductive Outcome where
  | exited (status : Nat) (early : Bool)
  | escaped (cause : Failure)
deriving DecidableEq, Repr, Inhabited

/-- What a run shows. -/
structure Report where
  outcome : Outcome
  output : String := ""
  errors : String := ""
deriving DecidableEq, Repr, Inhabited

/-- What is shown of a usage error. -/
def usageErrorText (message : String) : String :=
  usageText ++ "\n" ++ programName ++ ": error: " ++ message ++ "\n"

/-- The least urgent level that the options ask to see. -/
def threshold (choices : Choices) : Display.Level :=
  if choices.verbose then .debug else if choices.quiet then .warning else .info

/-- The log lines of events from a level on. -/
def logText (least : Display.Level) (events : List Display.Event) : String :=
  let shown := events.filter fun event => least.rank ≤ event.level.rank
  String.join (shown.map fun event => programName ++ ": " ++ event.message ++ "\n")

/-- The end of a run, and what it adds to the errors. -/
def conclude : Except Stop Unit → Outcome × String
  | .ok () => (.exited 0 false, "")
  | .error (.usageError message) => (.exited 2 true, usageErrorText message)
  | .error (.failed cause) =>
      if cause.isReported then (.exited 1 false, programName ++ ": error: " ++ cause.message ++ "\n")
      else (.escaped cause, "")

/-- Run a command line at a desk. -/
def run (arguments : List String) (desk : Desk) : Report × Desk :=
  match readArguments arguments with
  | .error .help => ({ outcome := .exited 0 true, output := helpText }, desk)
  | .error .version => ({ outcome := .exited 0 true, output := versionText }, desk)
  | .error (.usageError message) =>
      ({ outcome := .exited 2 true, errors := usageErrorText message }, desk)
  | .ok (choices, operands) =>
      let (result, desk) := (perform choices operands).run desk
      let (outcome, ending) := conclude result
      ({ outcome
         output := desk.printed
         errors := logText (threshold choices) desk.session.log ++ ending }, desk)

end MonitorSplit.CommandLine
