/-
Module: MonitorSplit.Display.Split
Purpose: Monitors listed, found, split and made whole through the display tool.
Main exports:
  listMonitors, findMonitor, findParentMonitor, listPartitions, reset, splitArguments,
  apply, script
-/
import MonitorSplit.Display.Session
import MonitorSplit.Monitor.Listing
import MonitorSplit.Text.ShellWord

namespace MonitorSplit.Display

/-!
Splitting a monitor deletes its partitions from an earlier split in one call and
defines the new ones in another.  The same arguments can be written as a shell script
instead; since nothing is deleted before the script is written, a monitor that is split
at that time is rebuilt from its partitions first.
-/

/-- The monitors that the tool lists. -/
def listMonitors : Action (List Monitor) := do
  let listing ← call ["--listmonitors"]
  record ((Listing.ignored listing).map .ignoredLine)
  orFail .listing (Listing.monitors listing)

/-- The first listed monitor of a name. -/
def findMonitor (name : String) : Action Monitor := do
  let monitors ← listMonitors
  orFail .find (find name monitors)

/-- What to say of a monitor found: something only if it was rebuilt. -/
def foundEvents (found : Found) : List Event :=
  if found.rebuiltFrom = 0 then [] else [.rebuilt found.monitor found.rebuiltFrom]

/-- The first listed monitor of a name, or that monitor rebuilt from its partitions. -/
def findParentMonitor (name : String) : Action Monitor := do
  let monitors ← listMonitors
  let found ← orFail .find (findParent name monitors)
  record (foundEvents found)
  return found.monitor

/-- The listed partitions of a parent. -/
def listPartitions (parent : String) : Action (List Monitor) := do
  let monitors ← listMonitors
  return partitionsOf parent monitors

/-- Call the tool for its effect, if there is anything to do. -/
def perform (arguments : List String) : Action Unit :=
  if arguments = [] then pure ()
  else do
    let _ ← call arguments
    return ()

/-- Delete the partitions of a parent. -/
def reset (parent : String) : Action (List Monitor) := do
  let partitions ← listPartitions parent
  perform (deleteArguments partitions)
  record [.removed partitions.length parent]
  return partitions

/-- The arguments that split a monitor by a ratio. -/
def splitArguments (monitor : Monitor) (ratio : Ratio) : Action (List String) := do
  record ((ratio.narrate monitor.resolution).map .solving)
  let split ← orFail .split (monitor.split ratio)
  record [.split monitor.name ratio split.scale split.partitions.length]
  return split.arguments

/-- Split a monitor by a ratio. -/
def apply (monitor : Monitor) (ratio : Ratio) : Action Unit := do
  let arguments ← splitArguments monitor ratio
  let _ ← call arguments
  return ()

/-- The first line of a shell script. -/
def scriptHead : String := "#!/bin/sh"

/-- A shell script that calls the tool once for each list of arguments. -/
def renderScript (commands : List (List String)) : String :=
  "\n".intercalate (scriptHead :: commands.map fun arguments =>
    Text.shellLine ("xrandr" :: arguments)) ++ "\n"

/-- The arguments that split a parent, if there is a ratio to split it by. -/
def scriptedSplit (parent : String) : Option Ratio → Action (List (List String))
  | none => return []
  | some ratio => do
      let monitor ← findParentMonitor parent
      let arguments ← splitArguments monitor ratio
      return [arguments]

/-- The shell script that deletes the partitions of a parent and, given a ratio, splits
it anew. -/
def script (parent : String) (ratio : Option Ratio) : Action String := do
  let partitions ← listPartitions parent
  let deletions := deleteArguments partitions
  let splits ← scriptedSplit parent ratio
  return renderScript ((if deletions = [] then [] else [deletions]) ++ splits)

end MonitorSplit.Display
