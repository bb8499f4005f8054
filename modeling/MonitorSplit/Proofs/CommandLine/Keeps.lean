/-
Module: MonitorSplit.Proofs.CommandLine.Keeps
Purpose: What commands leave as it is, and what they do in the session of their desk.
Main exports:
  Keeps, Keeps.bind, keeps_chosenMonitor, keeps_chosenRatio, IgnoresSession, inSession_bind
-/
import MonitorSplit.CommandLine.Run
import MonitorSplit.Proofs.Display.Split

namespace MonitorSplit.CommandLine

/-!
### Parts of a desk

A command keeps a part of the desk if that part is the same afterwards, whether the command
failed or not.  Commands that only look at the desk keep all of it.
-/

/-- The command leaves a part of every desk as it is. -/
def Keeps {α β : Type} (part : Desk → β) (command : Command α) : Prop :=
  ∀ desk, part (command.run desk).2 = part desk

section

variable {α β γ ε : Type} {part : Desk → γ} {command : Command α} {next : α → Command β}

/-- Giving a value touches nothing. -/
theorem keeps_pure (value : α) : Keeps part (pure value : Command α) := fun _ => rfl

/-- Stopping touches nothing either. -/
theorem keeps_throw (stop : Stop) : Keeps part (throw stop : Command α) := fun _ => rfl

/-- Looking at the desk touches nothing. -/
theorem keeps_get : Keeps part (get : Command Desk) := fun _ => rfl

/-- A result is passed on without a look at the desk, be it a value or a cause to stop. -/
theorem keeps_orStop (stop : ε → Stop) (result : Except ε α) : Keeps part (orStop stop result) := by
  cases result with
  | error cause => exact keeps_throw (stop cause)
  | ok value => exact keeps_pure value

/-- Printing leaves the settings file alone. -/
theorem keeps_print_store (text : String) : Keeps (·.store) (print text) := fun _ => rfl

/-- Printing calls for nothing. -/
theorem keeps_print_calls (text : String) : Keeps (·.session.calls) (print text) := fun _ => rfl

/-- Writing the settings file calls for nothing. -/
theorem keeps_writeStore_calls (text : String) : Keeps (·.session.calls) (writeStore text) :=
  fun _ => rfl

theorem keeps_record_calls (events : List Display.Event) :
    Keeps (·.session.calls) (inSession (Display.record events)) := fun _ => rfl

/-- Whatever is done in the session leaves the settings file alone. -/
theorem keeps_inSession_store (action : Display.Action α) : Keeps (·.store) (inSession action) :=
  fun _ => rfl

/-- A part is kept by two commands in turn if it is kept by each. -/
theorem Keeps.bind (keeps : Keeps part command) (goes_on : ∀ value, Keeps part (next value)) :
    Keeps part (command >>= next) := by
  intro desk
  have kept := keeps desk
  rcases ran : command.run desk with ⟨outcome, middle⟩
  rw [ran] at kept
  cases outcome with
  | error stop =>
      have stopped : (command >>= next).run desk = (.error stop, middle) := bind_eq_of_error ran
      rw [stopped, kept]
  | ok value =>
      have continued : (command >>= next).run desk = (next value).run middle := bind_eq_of_ok ran
      rw [continued, goes_on value middle, kept]

/-- A command that keeps all of the desk keeps every part of it. -/
theorem Keeps.of_whole (keeps : Keeps id command) : Keeps part command :=
  fun desk => congrArg part (keeps desk)

/-- A command that keeps the whole desk only has an outcome. -/
theorem Keeps.run_eq (keeps : Keeps id command) (desk : Desk) :
    command.run desk = ((command.run desk).1, desk) :=
  Prod.ext rfl (keeps desk)

end

/-!
### Choosing

Everything that is read before a session begins is read without a change to the desk.
-/

/-- The expression is an operand or a profile, which is only looked up. -/
theorem keeps_expression (operands : List String) : Keeps id (expression operands) := by
  unfold expression
  split
  · split
    · refine keeps_get.bind fun desk => (keeps_orStop _ _).bind fun stored => ?_
      cases stored with
      | none => exact keeps_throw _
      | some expression => exact keeps_pure expression
    · exact keeps_pure _
  · exact keeps_throw _

/-- The monitor is an option or a default, which is only looked up. -/
theorem keeps_chosenMonitor (choices : Choices) : Keeps id (chosenMonitor choices) := by
  unfold chosenMonitor
  split
  · exact keeps_pure _
  · refine keeps_get.bind fun desk => (keeps_orStop _ _).bind fun default => ?_
    split
    · exact keeps_pure _
    · exact keeps_throw _

/-- The ratio is read from the expression, or there is none to be read. -/
theorem keeps_chosenRatio (choices : Choices) (operands : List String) :
    Keeps id (chosenRatio choices operands) := by
  unfold chosenRatio
  split
  · exact keeps_pure none
  · exact (keeps_expression operands).bind fun expression =>
      (keeps_orStop _ _).bind fun ratio => keeps_pure (some ratio)

/-!
What is chosen depends on the settings and the environment, and not on the session.
-/

/-- The command has the same outcome whatever the session is. -/
def IgnoresSession {α : Type} (command : Command α) : Prop :=
  ∀ (desk : Desk) (session : Display.Session),
    (command.run { desk with session }).1 = (command.run desk).1

section

variable {α β ε : Type} {command : Command α} {next : α → Command β}

theorem ignoresSession_pure (value : α) : IgnoresSession (pure value) := fun _ _ => rfl

theorem ignoresSession_throw (stop : Stop) : IgnoresSession (throw stop : Command α) :=
  fun _ _ => rfl

/-- A result that is settled already does not depend on the session. -/
theorem ignoresSession_orStop (stop : ε → Stop) (result : Except ε α) :
    IgnoresSession (orStop stop result) := by
  cases result with
  | error cause => exact ignoresSession_throw (stop cause)
  | ok value => exact ignoresSession_pure value

/-- A look at the desk is no look at the session, if what is done next is the same without it. -/
theorem ignoresSession_get_bind {next : Desk → Command β}
    (same : ∀ (desk : Desk) (session : Display.Session), next { desk with session } = next desk)
    (ignores : ∀ desk, IgnoresSession (next desk)) : IgnoresSession (get >>= next) := by
  intro desk session
  have looked (desk : Desk) : (get >>= next).run desk = (next desk).run desk := bind_eq_of_ok rfl
  rw [looked, looked, same]
  exact ignores desk desk session

/-- Two commands in turn do not depend on the session if neither does.  The first one has to leave
the desk as it is, for the second to be done at the same desk. -/
theorem IgnoresSession.bind (ignores : IgnoresSession command) (keeps : Keeps id command)
    (goes_on : ∀ value, IgnoresSession (next value)) : IgnoresSession (command >>= next) := by
  intro desk session
  have here := keeps.run_eq desk
  have there := keeps.run_eq { desk with session }
  rw [ignores desk session] at there
  cases outcome : (command.run desk).1 with
  | error stop =>
      rw [outcome] at here there
      exact (congrArg Prod.fst (bind_eq_of_error there)).trans
        (congrArg Prod.fst (bind_eq_of_error here)).symm
  | ok value =>
      rw [outcome] at here there
      exact ((congrArg Prod.fst (bind_eq_of_ok there)).trans (goes_on value desk session)).trans
        (congrArg Prod.fst (bind_eq_of_ok here)).symm

end

/-- The expression comes from the operands and the settings. -/
theorem ignoresSession_expression (operands : List String) : IgnoresSession (expression operands) := by
  unfold expression
  split
  · split
    · refine ignoresSession_get_bind (fun _ _ => rfl) fun desk =>
        (ignoresSession_orStop _ _).bind (keeps_orStop _ _) fun stored => ?_
      cases stored with
      | none => exact ignoresSession_throw _
      | some expression => exact ignoresSession_pure expression
    · exact ignoresSession_pure _
  · exact ignoresSession_throw _

/-- The monitor comes from the options, the environment and the settings. -/
theorem ignoresSession_chosenMonitor (choices : Choices) :
    IgnoresSession (chosenMonitor choices) := by
  unfold chosenMonitor
  split
  · exact ignoresSession_pure _
  · refine ignoresSession_get_bind (fun _ _ => rfl) fun desk =>
      (ignoresSession_orStop _ _).bind (keeps_orStop _ _) fun default => ?_
    split
    · exact ignoresSession_pure _
    · exact ignoresSession_throw _

/-- So what is chosen at one desk is chosen at every desk that differs in the session only. -/
theorem IgnoresSession.run_eq_ok {α : Type} {command : Command α} (ignores : IgnoresSession command)
    (keeps : Keeps id command) {desk : Desk} {value : α} (chosen : command.run desk = (.ok value, desk))
    (session : Display.Session) :
    command.run { desk with session } = (.ok value, { desk with session }) := by
  rw [keeps.run_eq, ignores desk session, chosen]

/-!
### The session of a desk
-/

/-- An action is done in the session of the desk, and the desk is left with the session that it
leaves. -/
theorem run_inSession {α : Type} {action : Display.Action α} (desk : Desk)
    {outcome : Except Display.Failure α} {after : Display.Session}
    (acted : action desk.session = (outcome, after)) :
    (inSession action).run desk =
      (outcome.mapError fun cause => .failed (.display cause), { desk with session := after }) := by
  simp only [inSession, ExceptT.run, acted]

/-- What is done one after the other in a session is one action there. -/
theorem inSession_bind {α β : Type} (action : Display.Action α) (next : α → Display.Action β) :
    (inSession action >>= fun value => inSession (next value)) = inSession (action >>= next) := by
  funext desk
  rcases ran : action desk.session with ⟨outcome, session⟩
  cases outcome with
  | error cause =>
      have first : inSession action desk =
          (.error (.failed (.display cause)), { desk with session }) := run_inSession desk ran
      have whole : (action >>= next) desk.session = (.error cause, session) := bind_eq_of_error ran
      rw [bind_eq_of_error first]
      simp [inSession, whole, Except.mapError]
  | ok value =>
      have first : inSession action desk = (.ok value, { desk with session }) := run_inSession desk ran
      have whole : (action >>= next) desk.session = next value session := bind_eq_of_ok ran
      rw [bind_eq_of_ok first]
      simp [inSession, whole]

end MonitorSplit.CommandLine
