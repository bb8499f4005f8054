/-
Module: MonitorSplit.CommandLine.Modes
Purpose: What the options of a command line choose to do.
Main exports:
  expression, listProfiles, storeMonitor, deleteProfile, saveProfile, listMonitors, split,
  perform
-/
import MonitorSplit.CommandLine.Desk
import MonitorSplit.CommandLine.Options
import MonitorSplit.Display.Split

namespace MonitorSplit.CommandLine

/-!
The first of these modes that the options choose decides what is done, whatever else
they choose: list the profiles, store a default monitor, delete a profile, save a
profile, list the monitors.  Otherwise a monitor is split, or only made whole, or the
script for that is printed.
-/

/-- An option value, unless it is empty. -/
def given (value : Option String) : Option String := value.filter (· ≠ "")

/-- The refusal of a profile that does not exist. -/
def noSuchProfile (name : String) : Stop := .usageError s!"no such profile: {name}"

/-- The expression that the only operand is, or names as a profile behind an at sign. -/
def expression (operands : List String) : Command String := do
  match operands with
  | [operand] =>
      match operand.toList with
      | '@' :: name =>
          let name := String.ofList name
          let stored ← orStop unreadable (Settings.profile? (← get).store name)
          match stored with
          | some expression => return expression
          | none => throw (noSuchProfile name)
      | _ => return operand
  | _ => throw (.usageError "expected exactly one RATIO or @PROFILE")

/-- Print every profile. -/
def listProfiles : Command Unit := do
  let profiles ← orStop unreadable (Settings.profiles (← get).store)
  print (String.join (profiles.map fun (name, ratio) => name ++ " = " ++ ratio ++ "\n"))

/-- Store a default monitor. -/
def storeMonitor (name : String) : Command Unit := do
  let text ← orStop unreadable
    (Settings.setSetting (← get).store Settings.monitorKey name)
  writeStore text

/-- Delete a profile, which has to exist. -/
def deleteProfile (name : String) : Command Unit := do
  match ← orStop unreadable (Settings.deleteProfile (← get).store name) with
  | some text => writeStore text
  | none => throw (noSuchProfile name)

/-- Save the expression of the operands as a profile of a plane ratio. -/
def saveProfile (name : String) (operands : List String) : Command Unit := do
  let expression ← expression operands
  let text ← orStop (fun cause => .failed (.ofStore cause))
    (Settings.saveProfile (← get).store name expression 2)
  writeStore text
  inSession (Display.record [.savedProfile name expression])

/-- Begin a session as the options ask for. -/
def connect (choices : Choices) : Command Unit :=
  inSession (Display.connect choices.display choices.forceVersion)

/-- The line that shows a monitor: its name, placement and output. -/
def monitorLine (monitor : Monitor) : String :=
  let output := match given monitor.output with
    | some output => " " ++ output
    | none => ""
  monitor.name ++ " " ++ monitor.placement ++ output ++ "\n"

/-- Print every monitor. -/
def listMonitors (choices : Choices) : Command Unit := do
  connect choices
  let monitors ← inSession Display.listMonitors
  print (String.join (monitors.map monitorLine))

/-- The monitor that the options name, or else the default one. -/
def chosenMonitor (choices : Choices) : Command String := do
  match given choices.monitor with
  | some name => return name
  | none =>
      let desk ← get
      let default ← orStop unreadable (Settings.defaultMonitor desk.store desk.monitorVariable)
      match given default with
      | some name => return name
      | none =>
          throw (.usageError "no monitor given; use --monitor or $XRPEX_MONITOR")

/-- The ratio of the operands, unless the monitor is only to be made whole. -/
def chosenRatio (choices : Choices) (operands : List String) : Command (Option Ratio) := do
  if choices.reset then return none
  else
    let expression ← expression operands
    let ratio ← orStop (fun cause => .failed (.text cause)) (Ratio.parse 2 expression.toList)
    return some ratio

/-- Delete the partitions of a monitor and, given a ratio, split it anew. -/
def splitMonitor (name : String) : Option Ratio → Display.Action Unit
  | none => do
      let _ ← Display.reset name
      return ()
  | some ratio => do
      let _ ← Display.reset name
      let monitor ← Display.findMonitor name
      Display.apply monitor ratio

/-- Split a monitor, or print the script that would. -/
def split (choices : Choices) (operands : List String) : Command Unit := do
  let name ← chosenMonitor choices
  let ratio ← chosenRatio choices operands
  connect choices
  if choices.dryRun then
    let script ← inSession (Display.script name ratio)
    print script
  else inSession (splitMonitor name ratio)

/-- Do what the options choose. -/
def perform (choices : Choices) (operands : List String) : Command Unit :=
  if choices.profiles then listProfiles
  else
    match given choices.setMonitor, given choices.deleteProfile, given choices.save with
    | some name, _, _ => storeMonitor name
    | none, some name, _ => deleteProfile name
    | none, none, some name => saveProfile name operands
    | none, none, none =>
        if choices.list then listMonitors choices else split choices operands

end MonitorSplit.CommandLine
