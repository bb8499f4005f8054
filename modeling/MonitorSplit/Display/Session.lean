/-
Module: MonitorSplit.Display.Session
Purpose: Calls of the display tool and what they leave behind.
Main exports:
  Reply, Replies, Call, Tool, Session, Failure, Action, Session.start, call, connect
-/
import MonitorSplit.Display.Event
import MonitorSplit.Monitor.Parent
import MonitorSplit.Text.Blank
import MonitorSplit.Text.Search
import MonitorSplit.Text.Utf8

namespace MonitorSplit.Display

/-!
A session holds the replies that the tool has still to give and a record of all that
has happened.  An action changes the session and gives a value or a failure; what it
had done before it failed stays on record.
-/

/-- What one call of the tool gives back: its output, its complaint and its status. -/
structure Reply where
  output : List UInt8 := []
  complaint : List UInt8 := []
  status : Int := 0
deriving DecidableEq, Repr, Inhabited

/-- A reply without complaint. -/
def Reply.ofText (text : String) : Reply := { output := Text.Utf8.encode text }

/-- Replies by the first argument of a call, each list in the order of the calls. -/
abbrev Replies := List (String × List Reply)

/-- The replies to calls that nothing else is said about: the version of a tool that
can define monitors, and empty output. -/
def defaultReply (verb : String) : Reply :=
  if verb = "--version" then
    .ofText "xrandr program version       1.5.1\nServer reports RandR version 1.6\n"
  else {}

/-- The next reply to a verb, and the replies after it.  The last reply of a list is
given again and again. -/
def Replies.next (verb : String) : Replies → Reply × Replies
  | [] => (defaultReply verb, [])
  | (known, replies) :: rest =>
      if known = verb then
        match replies with
        | [] => (defaultReply verb, (known, []) :: rest)
        | [reply] => (reply, (known, [reply]) :: rest)
        | reply :: later => (reply, (known, later) :: rest)
      else
        let (reply, rest) := Replies.next verb rest
        (reply, (known, replies) :: rest)

/-- One start of the tool: its command line and the display it was told to use. -/
structure Call where
  words : List String
  display : String
deriving DecidableEq, Repr, Inhabited

/-- A call that defines or deletes monitors. -/
def changesMonitors (call : Call) : Bool :=
  call.words.any fun word => word = "--delmonitor" || word = "--setmonitor"

/-- The display used where no other is asked for. -/
def ownDisplay : String := ":0"

/-- What answers calls: the tool, started as a process for each of them, or something that
stands in for it and takes any words. -/
inductive Tool where
  | process
  | standIn
deriving DecidableEq, Repr, Inhabited

/-- Words for a process end at the character of number zero, so none may hold it. -/
def Tool.accepts (tool : Tool) (words : List String) : Bool :=
  match tool with
  | .process => words.all fun word => !word.toList.contains (Char.ofNat 0)
  | .standIn => true

/-- The replies still to come, the display in use, and what has happened so far. -/
structure Session where
  tool : Tool := .process
  replies : Replies := []
  display : String := ownDisplay
  calls : List Call := []
  warnings : List String := []
  log : List Event := []
deriving DecidableEq, Repr, Inhabited

/-- Why an action failed. -/
inductive Failure where
  | embeddedNul
  | exitStatus (status : Int) (complaint : String)
  | undecodable (fault : Text.Utf8.Fault)
  | unsupported
  | listing (cause : DigitFault)
  | find (cause : FindFailure)
  | split (cause : SplitFailure)
deriving DecidableEq, Repr, Inhabited

/-- Versions of the tool's protocol that can define monitors. -/
def requiredVersions : List String := ["1.5", "1.6"]

/-- The wording of a failure. -/
def Failure.message : Failure → String
  | .embeddedNul => "embedded null byte"
  | .exitStatus status complaint =>
      let shown := String.ofList (Text.trim complaint.toList)
      s!"XRandR returned error code {status}: {shown}"
  | .undecodable fault => fault.message
  | .unsupported =>
      "XRandR " ++ "/".intercalate requiredVersions ++ " required for monitor support."
  | .listing cause => cause.message
  | .find cause => cause.message
  | .split cause => cause.message

/-- Something done in a session. -/
abbrev Action := ExceptT Failure (StateM Session)

/-- Put events on record. -/
def record (events : List Event) : Action Unit :=
  modify fun session => { session with log := session.log ++ events }

/-- Fail if there is a cause to. -/
def orFail {α ε : Type} (failure : ε → Failure) : Except ε α → Action α
  | .ok value => pure value
  | .error cause => throw (failure cause)

/-- The warning about a complaint without a failure. -/
def complaintWarning (complaint : List UInt8) : String :=
  "XRandR wrote to stderr, but did not report an error " ++
    s!"(Message was: {Text.quoteOctets complaint})"

/-- A process is started with these arguments and told the display. -/
def Session.accepts (session : Session) (arguments : List String) : Bool :=
  session.tool.accepts (session.display :: arguments)

/-- Start the tool: the call goes on record and uses up a reply.  If there can be no such
call, then only the attempt is logged. -/
def Session.start (session : Session) (arguments : List String) :
    Except Failure Reply × Session :=
  let logged := { session with log := session.log ++ [.called arguments] }
  if session.accepts arguments then
    let (reply, replies) := session.replies.next (arguments.headD "")
    (.ok reply, { logged with
      replies
      calls := session.calls ++ [{ words := "xrandr" :: arguments, display := session.display }] })
  else (.error .embeddedNul, logged)

/-- Complain about a complaint without a failure. -/
def warn (complaint : List UInt8) : Action Unit :=
  modify fun session => { session with
    warnings := session.warnings ++ [complaintWarning complaint]
    log := session.log ++ [.complained (Text.Utf8.decodeLossy complaint)] }

/-- The output of a reply.  A status other than zero is a failure whatever else the
reply says; a complaint alone is a warning. -/
def accept (reply : Reply) : Action String :=
  if reply.status ≠ 0 then do
    let complaint := Text.Utf8.decodeLossy reply.complaint
    record [.failed reply.status complaint]
    throw (.exitStatus reply.status complaint)
  else do
    if reply.complaint ≠ [] then warn reply.complaint
    orFail .undecodable (Text.Utf8.decode reply.output)

/-- Call the tool and read its output. -/
def call (arguments : List String) : Action String := do
  let reply : Reply ← ExceptT.mk (modifyGet fun session => session.start arguments)
  accept reply

/-- The tool's account of its version names one that can define monitors. -/
def isSupported (account : String) : Bool :=
  requiredVersions.any fun version => Text.holdsText version.toList account.toList

/-- The session on a display, its own one if none is named. -/
def Session.on (session : Session) (display : Option String) : Session :=
  { session with display := (display.filter (· ≠ "")).getD session.display }

/-- The tool has to be of a supported version, unless any is forced to do. -/
def requireSupport (force : Bool) : Action Unit := do
  let account ← call ["--version"]
  if isSupported account || force then pure () else throw .unsupported

/-- Begin a session on a display. -/
def connect (display : Option String) (force : Bool) : Action Unit := do
  modify fun session => session.on display
  requireSupport force

end MonitorSplit.Display
