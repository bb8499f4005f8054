/-
Module: MonitorSplit.Monitor.Basic
Purpose: Monitors as the display tool knows them.
Main exports:
  Monitor, Monitor.outputOrName, Monitor.describe
-/
import MonitorSplit.Ratio.Box

namespace MonitorSplit

/-- A monitor: a named box of pixels at a position on the screen, with the size of its
picture in millimetres and the output that shows it, if any. -/
structure Monitor where
  name : String
  resolution : Box
  sizeMm : Int × Int := (0, 0)
  position : Int × Int := (0, 0)
  output : Option String := none
  primary : Bool := false
  automatic : Bool := false
deriving DecidableEq, Repr, Inhabited

namespace Monitor

/-- The output of a monitor if it is named, otherwise the monitor's own name. -/
def outputOrName (monitor : Monitor) : String :=
  match monitor.output with
  | some output => if output = "" then monitor.name else output
  | none => monitor.name

/-- Resolution and position in one word, as in `1920x1080+0+0`, however long they are. -/
def placement (monitor : Monitor) : String :=
  s!"{monitor.resolution}+{monitor.position.1}+{monitor.position.2}"

/-- The numbers of a placement. -/
def placementNumbers (monitor : Monitor) : List Int :=
  monitor.position.1 :: monitor.position.2 :: monitor.resolution.lengths

/-- The form in which a reader is shown a monitor. -/
def describe (monitor : Monitor) : Except DigitFault String :=
  if ∀ number ∈ monitor.placementNumbers, Writable number then
    .ok s!"<Monitor {Text.quoteText monitor.name.toList} {monitor.placement}>"
  else .error .toWrite

end Monitor

end MonitorSplit
