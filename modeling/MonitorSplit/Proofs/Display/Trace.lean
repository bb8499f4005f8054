/-
Module: MonitorSplit.Proofs.Display.Trace
Purpose: The calls that actions make, in order, and the replies that they see.
Main exports:
  Replies.answer, Reply.outcome, Session.answer, Session.Reaches, Yields, Yields.bind, yields_call,
  Follows, Follows.bind
-/
import MonitorSplit.Display.Session
import MonitorSplit.Proofs.Text.Utf8

namespace MonitorSplit

/-!
### Actions that keep a state

An action that fails keeps what it has done to the state, and nothing after it is done.
-/

theorem bind_eq_of_ok {ε σ α β : Type} {action : ExceptT ε (StateM σ) α}
    {next : α → ExceptT ε (StateM σ) β} {before after : σ} {value : α}
    (succeeds : action before = (.ok value, after)) :
    (action >>= next) before = next value after := by
  simp [bind, ExceptT.bind, ExceptT.mk, StateT.bind, ExceptT.bindCont, succeeds]

theorem bind_eq_of_error {ε σ α β : Type} {action : ExceptT ε (StateM σ) α}
    {next : α → ExceptT ε (StateM σ) β} {before after : σ} {cause : ε}
    (fails : action before = (.error cause, after)) :
    (action >>= next) before = (.error cause, after) := by
  simp [bind, ExceptT.bind, ExceptT.mk, StateT.bind, ExceptT.bindCont, fails, pure, StateT.pure]

/-- What an action leads on to depends on nothing but what it does. -/
theorem bind_congr_run {ε σ α β : Type} {action other : ExceptT ε (StateM σ) α} {before before' : σ}
    (same : action before = other before') (next : α → ExceptT ε (StateM σ) β) :
    (action >>= next) before = (other >>= next) before' := by
  rcases ran : other before' with ⟨_ | _, _⟩
  · rw [bind_eq_of_error ran, bind_eq_of_error (same.trans ran)]
  · rw [bind_eq_of_ok ran, bind_eq_of_ok (same.trans ran)]

namespace Display

/-!
### Replies one after the other

The replies to one verb do not depend on the calls of any other verb.
-/

/-- The reply to a call of a verb, after so many earlier calls of it. -/
def Replies.answer (verb : String) : Nat → Replies → Reply
  | 0, replies => (replies.next verb).1
  | earlier + 1, replies => Replies.answer verb earlier (replies.next verb).2

/-- The next reply to one verb is the same before and after a reply to another. -/
theorem Replies.next_next_of_ne {verb other : String} (different : verb ≠ other) (replies : Replies) :
    ((replies.next other).2.next verb).1 = (replies.next verb).1 ∧
      ((replies.next other).2.next verb).2 = ((replies.next verb).2.next other).2 := by
  induction replies with
  | nil => exact ⟨rfl, rfl⟩
  | cons entry rest inductionHypothesis =>
      obtain ⟨known, given⟩ := entry
      by_cases isOther : known = other
      · -- the entry of the other verb is used up and passed over, in either order
        subst isOther
        rcases given with _ | ⟨reply, _ | ⟨second, later⟩⟩ <;>
          simp [next, different.symm]
      · by_cases isVerb : known = verb
        · subst isVerb
          rcases given with _ | ⟨reply, _ | ⟨second, later⟩⟩ <;>
            simp [next, isOther]
        · simp [next, isOther, isVerb, inductionHypothesis]

theorem Replies.answer_next_of_ne {verb other : String} (different : verb ≠ other) (earlier : Nat)
    (replies : Replies) :
    (replies.next other).2.answer verb earlier = replies.answer verb earlier := by
  induction earlier generalizing replies with
  | zero => exact (next_next_of_ne different replies).1
  | succ earlier inductionHypothesis =>
      rw [answer, answer, (next_next_of_ne different replies).2]
      exact inductionHypothesis _

/-- What a reply comes to: its text, unless its status is not zero or it is no text. -/
def Reply.outcome (reply : Reply) : Except Failure String :=
  if reply.status ≠ 0 then
    .error (.exitStatus reply.status (Text.Utf8.decodeLossy reply.complaint))
  else (Text.Utf8.decode reply.output).mapError .undecodable

/-- A text that the tool writes is the outcome of its reply. -/
theorem Reply.outcome_ofText (text : String) : (Reply.ofText text).outcome = .ok text := by
  rw [outcome, ofText, if_neg (not_not.mpr rfl), Text.Utf8.decode_encode]
  rfl

/-!
### Calls

What an action does in a session is told by the calls that it adds.  They also tell which
replies are used up.
-/

/-- The verb of a call: its first argument. -/
def verbOf (arguments : List String) : String := arguments.headD ""

/-- What a call comes to after so many earlier ones of its verb, if the tool can be started for it. -/
def Session.answer (session : Session) (arguments : List String) (earlier : Nat) :
    Except Failure String :=
  if session.accepts arguments then (session.replies.answer (verbOf arguments) earlier).outcome
  else .error .embeddedNul

theorem Session.answer_eq_ok_iff {session : Session} {arguments : List String} {earlier : Nat}
    {text : String} :
    session.answer arguments earlier = .ok text ↔ session.accepts arguments = true ∧
      (session.replies.answer (verbOf arguments) earlier).outcome = .ok text := by
  unfold answer
  split <;> simp_all

/-- A call that can be made is answered with the text of its reply. -/
theorem Session.answer_ofText {session : Session} {arguments : List String} {earlier : Nat}
    {text : String} (accepted : session.accepts arguments = true)
    (replied : session.replies.answer (verbOf arguments) earlier = .ofText text) :
    session.answer arguments earlier = .ok text :=
  answer_eq_ok_iff.mpr ⟨accepted, replied ▸ Reply.outcome_ofText text⟩

/-- The command lines of all calls so far. -/
def Session.words (session : Session) : List (List String) := session.calls.map (·.words)

/-- The command lines of calls with these arguments. -/
def commandLines (made : List (List String)) : List (List String) := made.map ("xrandr" :: ·)

/-- A session comes after another with only these calls between them. -/
structure Session.Reaches (before after : Session) (made : List (List String)) : Prop where
  words : after.words = before.words ++ commandLines made
  replies : ∀ verb earlier, after.replies.answer verb earlier =
    before.replies.answer verb (earlier + made.countP (verbOf · = verb))
  tool : after.tool = before.tool
  display : after.display = before.display

namespace Session.Reaches

theorem trans {before middle after : Session} {first second : List (List String)}
    (reaches : before.Reaches middle first) (goes_on : middle.Reaches after second) :
    before.Reaches after (first ++ second) where
  words := by
    rw [goes_on.words, reaches.words, commandLines, commandLines, commandLines, List.map_append,
      List.append_assoc]
  replies verb earlier := by
    rw [goes_on.replies, reaches.replies, List.countP_append]
    congr 1
    omega
  tool := goes_on.tool.trans reaches.tool
  display := goes_on.display.trans reaches.display

/-- Log lines and warnings leave no trace among calls and replies. -/
theorem of_same {before after : Session} (calls : after.calls = before.calls)
    (replies : after.replies = before.replies) (tool : after.tool = before.tool)
    (display : after.display = before.display) : before.Reaches after [] where
  words := by simp [Session.words, commandLines, calls]
  replies verb earlier := by simp [replies]
  tool := tool
  display := display

theorem refl (session : Session) : session.Reaches session [] := .of_same rfl rfl rfl rfl

theorem accepts {before after : Session} {made : List (List String)}
    (reaches : before.Reaches after made) : after.accepts = before.accepts := by
  funext arguments
  rw [Session.accepts, Session.accepts, reaches.tool, reaches.display]

/-- A call comes to what it would have come to after so many calls more. -/
theorem answer {before after : Session} {made : List (List String)}
    (reaches : before.Reaches after made) (arguments : List String) (earlier : Nat) :
    after.answer arguments earlier =
      before.answer arguments (earlier + made.countP (verbOf · = verbOf arguments)) := by
  rw [Session.answer, Session.answer, reaches.accepts, reaches.replies]

end Session.Reaches

theorem Session.start_of_accepts {session : Session} {arguments : List String}
    (accepted : session.accepts arguments = true) :
    session.start arguments = (.ok (session.replies.answer (verbOf arguments) 0), { session with
      replies := (session.replies.next (verbOf arguments)).2
      calls := session.calls ++ [{ words := "xrandr" :: arguments, display := session.display }]
      log := session.log ++ [.called arguments] }) :=
  if_pos accepted

/-- A call that cannot be made is logged and nothing else. -/
theorem Session.start_of_not_accepts {session : Session} {arguments : List String}
    (refused : ¬ session.accepts arguments = true) :
    session.start arguments =
      (.error .embeddedNul, { session with log := session.log ++ [.called arguments] }) :=
  if_neg refused

theorem Session.reaches_start {session : Session} {arguments : List String}
    (accepted : session.accepts arguments = true) :
    session.Reaches (session.start arguments).2 [arguments] := by
  rw [start_of_accepts accepted]
  constructor
  case words => simp [words, commandLines]
  case tool => rfl
  case display => rfl
  case replies =>
    intro verb earlier
    by_cases same : verbOf arguments = verb
    · subst same
      simp [Replies.answer]
    · simp only [List.countP_singleton, same, decide_false, Bool.false_eq_true, if_false, Nat.add_zero]
      exact Replies.answer_next_of_ne (Ne.symm same) earlier session.replies

/-!
### Outcomes

An action that can fail at every step makes the calls of its plan up to some point, and all
of them unless it fails.
-/

/-- The action comes to the outcome, and by then has made the planned calls in order.  It leaves none
out unless it fails. -/
def Yields {α : Type} (action : Action α) (before : Session) (plan : List (List String))
    (outcome : Except Failure α) : Prop :=
  ∃ made after, action before = (outcome, after) ∧ before.Reaches after made ∧ made <+: plan ∧
    ∀ value, outcome = .ok value → made = plan

section

variable {α β : Type} {action : Action α} {next : α → Action β} {before : Session}
  {plan rest : List (List String)} {outcome : Except Failure α}

/-- What an action comes to is determined. -/
theorem Yields.outcome_eq (yields : Yields action before plan outcome) :
    (action before).1 = outcome := by
  obtain ⟨_, _, ran, -⟩ := yields
  rw [ran]

theorem Yields.reaches {value : α} (yields : Yields action before plan (.ok value)) :
    ∃ after, action before = (.ok value, after) ∧ before.Reaches after plan := by
  obtain ⟨_, after, ran, reaches, -, complete⟩ := yields
  obtain rfl := complete value rfl
  exact ⟨after, ran, reaches⟩

theorem yields_pure (value : α) (session : Session) : Yields (pure value) session [] (.ok value) :=
  ⟨[], session, rfl, .refl session, List.prefix_rfl, fun _ _ => rfl⟩

theorem yields_throw (cause : Failure) (session : Session) :
    Yields (throw cause : Action α) session [] (.error cause) :=
  ⟨[], session, rfl, .refl session, List.prefix_rfl, fun _ _ => rfl⟩

/-- What comes after an action is done unless the action fails, and starts where it has led. -/
theorem Yields.bind {settle : α → Except Failure β} (yields : Yields action before plan outcome)
    (goes_on : ∀ value middle, outcome = .ok value → before.Reaches middle plan →
      Yields (next value) middle rest (settle value)) :
    Yields (action >>= next) before (plan ++ rest) (outcome >>= settle) := by
  obtain ⟨made, middle, ran, reaches, planned, complete⟩ := yields
  cases outcome with
  | error cause =>
      exact ⟨made, middle, bind_eq_of_error ran, reaches,
        planned.trans (List.prefix_append plan rest), fun _ succeeds => by cases succeeds⟩
  | ok value =>
      obtain rfl := complete value rfl
      obtain ⟨later, after, continues, reachesLater, plannedLater, completeLater⟩ :=
        goes_on value middle rfl reaches
      exact ⟨made ++ later, after, (bind_eq_of_ok ran).trans continues, reaches.trans reachesLater,
        (List.prefix_append_right_inj made).mpr plannedLater,
        fun value succeeds => by rw [completeLater value succeeds]⟩

/-- After an action that gives a value, what comes next decides. -/
theorem Yields.bind_ok {value : α} {outcome : Except Failure β}
    (yields : Yields action before plan (.ok value))
    (goes_on : ∀ middle, before.Reaches middle plan → Yields (next value) middle rest outcome) :
    Yields (action >>= next) before (plan ++ rest) outcome :=
  have settled : Yields (action >>= next) before (plan ++ rest) (Except.ok value >>= fun _ => outcome) :=
    yields.bind fun _ middle same reaches => by
      cases same
      exact goes_on middle reaches
  settled

/-- An action that fails need not get to the rest of its plan. -/
theorem Yields.bind_error {cause : Failure} (yields : Yields action before plan (.error cause)) :
    Yields (action >>= next) before plan (.error cause) := by
  obtain ⟨made, middle, ran, reaches, planned, -⟩ := yields
  exact ⟨made, middle, bind_eq_of_error ran, reaches, planned, fun _ succeeds => by cases succeeds⟩

/-- An action with an empty plan makes no call. -/
theorem Yields.silent (yields : Yields action before [] outcome) :
    before.Reaches (action before).2 [] := by
  obtain ⟨made, after, ran, reaches, planned, -⟩ := yields
  obtain rfl := List.prefix_nil.mp planned
  rwa [ran]

/-- The calls of an action are all calls if none is made after it. -/
theorem reaches_bind_silent {made : List (List String)}
    (reaches : before.Reaches (action before).2 made)
    (silent : ∀ value middle, Session.Reaches middle (next value middle).2 []) :
    before.Reaches ((action >>= next) before).2 made := by
  rcases ran : action before with ⟨outcome, middle⟩
  rw [ran] at reaches
  cases outcome with
  | error cause => rwa [bind_eq_of_error ran]
  | ok value =>
      have further := reaches.trans (silent value middle)
      rwa [bind_eq_of_ok ran, ← List.append_nil made]

end

/-- Recording does nothing else. -/
theorem yields_record (events : List Event) (before : Session) :
    Yields (record events) before [] (.ok ()) :=
  ⟨[], _, rfl, .of_same rfl rfl rfl rfl, List.prefix_rfl, fun _ _ => rfl⟩

theorem yields_warn (complaint : List UInt8) (before : Session) :
    Yields (warn complaint) before [] (.ok ()) :=
  ⟨[], _, rfl, .of_same rfl rfl rfl rfl, List.prefix_rfl, fun _ _ => rfl⟩

theorem yields_orFail {α ε : Type} (failure : ε → Failure) (result : Except ε α)
    (session : Session) : Yields (orFail failure result) session [] (result.mapError failure) := by
  cases result with
  | error cause => exact yields_throw (failure cause) session
  | ok value => exact yields_pure value session

theorem yields_accept (reply : Reply) (before : Session) :
    Yields (accept reply) before [] reply.outcome := by
  unfold accept Reply.outcome
  split
  · exact (yields_record _ before).bind_ok fun session _ => yields_throw _ session
  · split
    · exact (yields_warn _ before).bind_ok fun session _ => yields_orFail _ _ session
    · exact yields_orFail _ _ before

/-- Starting the tool gives the next reply to the verb, or fails before any call. -/
theorem yields_start (arguments : List String) (before : Session) :
    Yields (ExceptT.mk (modifyGet fun session => session.start arguments)) before [arguments]
      (if before.accepts arguments then .ok (before.replies.answer (verbOf arguments) 0)
        else .error .embeddedNul) := by
  by_cases accepted : before.accepts arguments = true
  · have reaches := Session.reaches_start accepted
    rw [Session.start_of_accepts accepted] at reaches
    rw [if_pos accepted]
    exact ⟨[arguments], _, Session.start_of_accepts accepted, reaches, List.prefix_rfl, fun _ _ => rfl⟩
  · rw [if_neg accepted]
    exact ⟨[], _, Session.start_of_not_accepts accepted, .of_same rfl rfl rfl rfl, List.nil_prefix,
      fun _ succeeds => by cases succeeds⟩

/-- A call comes to what the next reply to its verb does, if it can be made. -/
theorem yields_call (arguments : List String) (before : Session) :
    Yields (call arguments) before [arguments] (before.answer arguments 0) := by
  have called : Yields (call arguments) before [arguments]
      ((if before.accepts arguments then .ok (before.replies.answer (verbOf arguments) 0)
        else .error .embeddedNul) >>= Reply.outcome) :=
    (yields_start arguments before).bind fun reply session _ _ => yields_accept reply session
  unfold Session.answer
  split
  · rename_i accepted
    rwa [if_pos accepted] at called
  · rename_i refused
    rwa [if_neg refused] at called

/-- A call that can be made is made, whatever comes of it, and one that cannot leaves no trace. -/
theorem reaches_call (arguments : List String) (before : Session) :
    before.Reaches (call arguments before).2 (if before.accepts arguments then [arguments] else []) := by
  have started : before.Reaches (before.start arguments).2
      (if before.accepts arguments then [arguments] else []) := by
    by_cases accepted : before.accepts arguments = true
    · rw [if_pos accepted]
      exact Session.reaches_start accepted
    · rw [if_neg accepted, Session.start_of_not_accepts accepted]
      exact .of_same rfl rfl rfl rfl
  exact reaches_bind_silent started fun reply session => (yields_accept reply session).silent

/-!
### Connecting
-/

/-- The call for the version. -/
def versionCall : List String := ["--version"]

/-- What beginning a session comes to. -/
def Session.connection (session : Session) (force : Bool) : Except Failure Unit :=
  session.answer versionCall 0 >>= fun account =>
    if isSupported account || force then .ok () else .error .unsupported

theorem yields_requireSupport (force : Bool) (before : Session) :
    Yields (requireSupport force) before [versionCall] (before.connection force) := by
  refine (yields_call versionCall before).bind fun account session _ _ => ?_
  cases isSupported account || force with
  | true => exact yields_pure () session
  | false => exact yields_throw .unsupported session

/-- What is done on a display is done once the session is on it. -/
theorem connect_bind {α : Type} (display : Option String) (force : Bool) (next : Unit → Action α)
    (session : Session) :
    (connect display force >>= next) session = (requireSupport force >>= next) (session.on display) := by
  unfold connect
  rw [bind_assoc]
  exact bind_eq_of_ok rfl

/-!
### Plans

If only that counts which follows once the plan is carried out, then it need not be said what
an action comes to otherwise.
-/

/-- The action makes the planned calls in order.  It leaves none out unless it fails, and
then its value is as said. -/
def Follows {α : Type} (action : Action α) (before : Session) (plan : List (List String))
    (holds : α → Prop) : Prop :=
  ∃ outcome, Yields action before plan outcome ∧ ∀ value, outcome = .ok value → holds value

section

variable {α β : Type} {action : Action α} {next : α → Action β} {before : Session}
  {plan rest : List (List String)} {holds : α → Prop}

theorem Yields.follows {outcome : Except Failure α} (yields : Yields action before plan outcome) :
    Follows action before plan (outcome = .ok ·) :=
  ⟨outcome, yields, fun _ succeeds => succeeds⟩

theorem Follows.imp {holds' : α → Prop} (follows : Follows action before plan holds)
    (weaker : ∀ value, holds value → holds' value) : Follows action before plan holds' := by
  obtain ⟨outcome, yields, said⟩ := follows
  exact ⟨outcome, yields, fun value succeeds => weaker value (said value succeeds)⟩

theorem Follows.bind {holds' : β → Prop} (follows : Follows action before plan holds)
    (goes_on : ∀ value middle, holds value → before.Reaches middle plan →
      Follows (next value) middle rest holds') :
    Follows (action >>= next) before (plan ++ rest) holds' := by
  obtain ⟨outcome, ⟨made, middle, ran, reaches, planned, complete⟩, said⟩ := follows
  cases outcome with
  | error cause =>
      exact ⟨.error cause, ⟨made, middle, bind_eq_of_error ran, reaches,
        planned.trans (List.prefix_append plan rest), fun _ succeeds => by cases succeeds⟩,
        fun _ succeeds => by cases succeeds⟩
  | ok value =>
      obtain rfl := complete value rfl
      obtain ⟨outcome, ⟨later, after, continues, reachesLater, plannedLater, completeLater⟩, saidLater⟩ :=
        goes_on value middle (said value rfl) reaches
      exact ⟨outcome, ⟨made ++ later, after, (bind_eq_of_ok ran).trans continues,
        reaches.trans reachesLater, (List.prefix_append_right_inj made).mpr plannedLater,
        fun value succeeds => by rw [completeLater value succeeds]⟩, saidLater⟩

theorem follows_pure (value : α) (session : Session) :
    Follows (pure value) session [] (· = value) :=
  (yields_pure value session).follows.imp fun _ same => (Except.ok.inj same).symm

end

end Display

end MonitorSplit
