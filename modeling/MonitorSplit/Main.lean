/-
Module: MonitorSplit.Main
Purpose: The program: one command line run against the settings file and a listing.
Main exports:
  main
-/
import MonitorSplit.CommandLine.Run
import MonitorSplit.Settings.Location

namespace MonitorSplit

/-!
The program starts nothing by itself.  A listing of the monitors is read from standard
input when a command needs one, and the calls that would change monitors are printed as
shell lines, to be looked at or handed to a shell.
-/

/-- All text up to the end of a stream. -/
partial def readAll (stream : IO.FS.Stream) (read : String) : IO String := do
  let line ← stream.getLine
  if line.isEmpty then return read else readAll stream (read ++ line)

/-- The text of a file, if there is such a file. -/
def readIfPresent (path : String) : IO (Option String) :=
  try
    let text ← IO.FS.readFile path
    return some text
  catch _ => return none

/-- Show what a run printed, and the calls that it made to change monitors. -/
def present (report : CommandLine.Report) (desk : CommandLine.Desk) : IO UInt32 := do
  IO.print report.output
  for call in desk.session.calls.filter Display.changesMonitors do
    IO.println (Text.shellLine call.words)
  IO.eprint report.errors
  match report.outcome with
  | .exited status _ => return status.toUInt32
  | .escaped cause =>
      IO.eprintln cause.message
      return 1

end MonitorSplit

open MonitorSplit in
/-- Run the program's command line. -/
def main (arguments : List String) : IO UInt32 := do
  let home := (← IO.getEnv "HOME").getD ""
  let configured ← IO.getEnv "XDG_CONFIG_HOME"
  let path := Settings.file home configured
  let store ← readIfPresent path
  let desk : CommandLine.Desk := { store, monitorVariable := ← IO.getEnv "XRPEX_MONITOR" }
  let withoutListing := CommandLine.run arguments desk
  let (report, finished) ←
    if withoutListing.2.session.calls = [] then pure withoutListing
    else do
      let listing ← readAll (← IO.getStdin) ""
      let replies := [("--listmonitors", [Display.Reply.ofText listing])]
      pure (CommandLine.run arguments { desk with session := { replies } })
  if finished.store ≠ store then
    IO.FS.createDirAll (Settings.directory home configured)
    IO.FS.writeFile path (finished.store.getD "")
  present report finished
