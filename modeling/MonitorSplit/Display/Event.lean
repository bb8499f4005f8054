/-
Module: MonitorSplit.Display.Event
Purpose: What is logged, and how urgent it is.
Main exports:
  Level, Event, Event.level, Event.message
-/
import MonitorSplit.Monitor.Basic
import MonitorSplit.Ratio.Narration

namespace MonitorSplit.Display

/-- How urgent a log line is. -/
inductive Level where
  | debug
  | info
  | warning
  | error
deriving DecidableEq, Repr, Inhabited

/-- The rank of a level; a reader asks for all lines from some rank on. -/
def Level.rank : Level → Nat
  | .debug => 0
  | .info => 1
  | .warning => 2
  | .error => 3

/-- Something worth a line in the log. -/
inductive Event where
  | called (arguments : List String)
  | failed (status : Int) (complaint : String)
  | complained (complaint : String)
  | ignoredLine (line : List Char)
  | solving (note : SolveNote)
  | removed (count : Nat) (parent : String)
  | split (monitor : String) (ratio : Ratio) (scale : Int) (count : Nat)
  | rebuilt (monitor : Monitor) (count : Nat)
  | savedProfile (name expression : String)
deriving DecidableEq, Repr, Inhabited

namespace Event

/-- Failures of the tool are errors, its complaints warnings, its calls and their
effects information, and the way to a decision is for debugging. -/
def level : Event → Level
  | .called _ | .removed .. | .split .. | .savedProfile .. => .info
  | .failed .. => .error
  | .complained _ => .warning
  | .ignoredLine _ | .solving _ | .rebuilt .. => .debug

/-- The wording of a log line. -/
def message : Event → String
  | .called arguments => "xrandr " ++ " ".intercalate arguments
  | .failed status complaint => s!"xrandr exit {status} stderr: {complaint}"
  | .complained complaint => s!"xrandr stderr (no error): {complaint}"
  | .ignoredLine line => s!"ignoring listmonitors line {Text.quoteText line}"
  | .solving note => note.message
  | .removed count parent => s!"removed {count} partition(s) of {parent}"
  | .split monitor ratio scale count =>
      s!"{monitor} split by {ratio} at scale {scale} into {count} partition(s)"
  | .rebuilt monitor count =>
      s!"{monitor.name} is split into {count} partition(s), rebuilt as {monitor.placement}"
  | .savedProfile name expression => s!"saved profile {name} = {expression}"

end Event

end MonitorSplit.Display
