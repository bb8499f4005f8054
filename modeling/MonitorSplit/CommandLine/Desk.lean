/-
Module: MonitorSplit.CommandLine.Desk
Purpose: What commands work on, and how they stop.
Main exports:
  Failure, Failure.isReported, Stop, Desk, Command, inSession, print, writeStore
-/
import MonitorSplit.Display.Session
import MonitorSplit.Settings.Profiles

namespace MonitorSplit.CommandLine

/-!
A command works on a desk: the session with the display tool, the settings file and the
text printed so far.  It ends with a value or stops; either way the desk stays as it was
left.
-/

/-- Why a command fails. -/
inductive Failure where
  | text (cause : TextFailure)
  | settings (cause : Settings.ReadFailure)
  | display (cause : Display.Failure)
deriving DecidableEq, Repr, Inhabited

/-- Failures that are reported to the user in one line.  All others are faults of the
surroundings, such as an unreadable settings file, and are passed on as they are. -/
def Failure.isReported : Failure → Bool
  | .text (.parse _) => true
  | .text (.shape _) | .settings _ => false
  | .display (.exitStatus ..) | .display .unsupported => true
  | .display (.find (.noSuchMonitor _)) | .display (.split (.unfit ..)) => true
  | .display .embeddedNul | .display (.undecodable _) | .display (.listing _)
  | .display (.find (.millimetres _)) | .display (.split _) => false

/-- The name by which messages call the settings file. -/
def settingsName : String := "xrpex/config"

/-- The wording of a failure. -/
def Failure.message : Failure → String
  | .text cause => cause.message
  | .settings cause => cause.message settingsName
  | .display cause => cause.message

/-- A profile that cannot be kept, as a failure. -/
def Failure.ofStore : Settings.StoreFailure → Failure
  | .text cause => .text cause
  | .read cause => .settings cause

/-- Why a command stops before its end. -/
inductive Stop where
  | usageError (message : String)
  | failed (cause : Failure)
deriving DecidableEq, Repr, Inhabited

/-- What a command works on.  `monitorVariable` is the monitor that the environment
names. -/
structure Desk where
  session : Display.Session := {}
  store : Settings.Store := none
  monitorVariable : Option String := none
  printed : String := ""
deriving DecidableEq, Repr, Inhabited

/-- A desk for the next run: tool, replies still to come, settings file and environment
stay. -/
def Desk.cleared (desk : Desk) : Desk where
  session := { tool := desk.session.tool, replies := desk.session.replies }
  store := desk.store
  monitorVariable := desk.monitorVariable

/-- Something done at a desk. -/
abbrev Command := ExceptT Stop (StateM Desk)

/-- Do something in the desk's session. -/
def inSession {α : Type} (action : Display.Action α) : Command α := fun desk =>
  let (outcome, session) := action desk.session
  (outcome.mapError fun cause => .failed (.display cause), { desk with session })

/-- Stop if there is a cause to. -/
def orStop {α ε : Type} (stop : ε → Stop) : Except ε α → Command α
  | .ok value => pure value
  | .error cause => throw (stop cause)

/-- A settings file that cannot be read stops a command. -/
def unreadable (cause : Settings.ReadFailure) : Stop := .failed (.settings cause)

/-- Print a text. -/
def print (text : String) : Command Unit :=
  modify fun desk => { desk with printed := desk.printed ++ text }

/-- Replace the settings file. -/
def writeStore (text : String) : Command Unit :=
  modify fun desk => { desk with store := some text }

end MonitorSplit.CommandLine
