/-
Module: MonitorSplit.Monitor.Parent
Purpose: Monitors found by name, split ones rebuilt from their partitions.
Main exports:
  FindFailure, find, partitionsOf, rebuild, findParent
-/
import MonitorSplit.Monitor.Partition

namespace MonitorSplit

/-!
While a monitor is split, its first partition holds its output, and the display tool
no longer lists the monitor itself.  It can be rebuilt: its box is the smallest that
holds all partitions, and its millimetres are those of the first partition in
proportion.
-/

/-- Why a monitor cannot be found. -/
inductive FindFailure where
  | noSuchMonitor (name : String)
  | millimetres (cause : ProportionFault)
deriving DecidableEq, Repr, Inhabited

/-- The wording of a failure to find. -/
def FindFailure.message : FindFailure → String
  | .noSuchMonitor name => s!"unable to find monitor with name {Text.quoteText name.toList}"
  | .millimetres cause => cause.message

/-- The first monitor of a name. -/
def find (name : String) (monitors : List Monitor) : Except FindFailure Monitor :=
  match monitors.find? (·.name = name) with
  | some monitor => .ok monitor
  | none => .error (.noSuchMonitor name)

/-- The partitions of a parent among some monitors. -/
def partitionsOf (parent : String) (monitors : List Monitor) : List Monitor :=
  monitors.filter (·.isPartitionOf parent)

/-- The arguments that delete some monitors. -/
def deleteArguments (monitors : List Monitor) : List String :=
  monitors.flatMap fun monitor => ["--delmonitor", monitor.name]

/-- The least value of a function on a first member and others. -/
def leastOf (value : Monitor → Int) (first : Monitor) (others : List Monitor) : Int :=
  others.foldl (fun least monitor => min least (value monitor)) (value first)

/-- The greatest value of a function on a first member and others. -/
def greatestOf (value : Monitor → Int) (first : Monitor) (others : List Monitor) : Int :=
  others.foldl (fun greatest monitor => max greatest (value monitor)) (value first)

/-- The monitor whose partitions are a first one and others. -/
def rebuild (name : String) (first : Monitor) (others : List Monitor) :
    Except ProportionFault Monitor := do
  let left := leastOf (·.position.1) first others
  let top := leastOf (·.position.2) first others
  let right := greatestOf (fun part => part.position.1 + part.resolution.width) first others
  let bottom := greatestOf (fun part => part.position.2 + part.resolution.height) first others
  let widthMm ← proportion first.sizeMm.1 (right - left) first.resolution.width
  let heightMm ← proportion first.sizeMm.2 (bottom - top) first.resolution.height
  return {
    name
    resolution := .plane (right - left) (bottom - top)
    sizeMm := (widthMm, heightMm)
    position := (left, top)
    output := (first :: others).findSome? fun part => part.output.filter (· ≠ "") }

/-- A monitor found by name, and the number of partitions that it was rebuilt from. -/
structure Found where
  monitor : Monitor
  rebuiltFrom : Nat := 0
deriving DecidableEq, Repr, Inhabited

/-- The first monitor of a name, or that monitor rebuilt from its partitions. -/
def findParent (name : String) (monitors : List Monitor) : Except FindFailure Found :=
  match monitors.find? (·.name = name) with
  | some monitor => .ok { monitor }
  | none =>
      match partitionsOf name monitors with
      | [] => .error (.noSuchMonitor name)
      | first :: others =>
          match rebuild name first others with
          | .error cause => .error (.millimetres cause)
          | .ok monitor => .ok { monitor, rebuiltFrom := others.length + 1 }

end MonitorSplit
