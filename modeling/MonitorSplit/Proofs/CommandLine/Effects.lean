/-
Module: MonitorSplit.Proofs.CommandLine.Effects
Purpose: What a run calls for and what it leaves in the settings file, whatever the replies.
Main exports:
  Mode, Choices.mode, Target, Ready, KeepsTo, Effects, run_effects
-/
import MonitorSplit.Proofs.CommandLine.Keeps
import MonitorSplit.Proofs.Monitor.Split
import MonitorSplit.Proofs.Ratio.Scan

namespace MonitorSplit.CommandLine

open Display (Session Follows commandLines versionCall listCall deleteCalls deletionsOf)

/-!
### Modes

Options can ask for several things at once.  One of them is done.
-/

/-- What a run does. -/
inductive Mode where
  | listProfiles
  | storeMonitor (name : String)
  | deleteProfile (name : String)
  | saveProfile (name : String)
  | listMonitors
  | dryRun
  | reset
  | apply
deriving DecidableEq, Repr

/-- The mode that options choose: the first of those they ask for. -/
def Choices.mode (choices : Choices) : Mode :=
  if choices.profiles then .listProfiles
  else
    match given choices.setMonitor, given choices.deleteProfile, given choices.save with
    | some name, _, _ => .storeMonitor name
    | none, some name, _ => .deleteProfile name
    | none, none, some name => .saveProfile name
    | none, none, none =>
        if choices.list then .listMonitors
        else if choices.dryRun then .dryRun
        else if choices.reset then .reset
        else .apply

/-- The mode is about the settings file alone. -/
def Mode.OnSettings : Mode → Prop
  | .listProfiles | .storeMonitor _ | .deleteProfile _ | .saveProfile _ => True
  | .listMonitors | .dryRun | .reset | .apply => False

/-- What is done in a mode. -/
def Mode.command (choices : Choices) (operands : List String) : Mode → Command Unit
  | .listProfiles => CommandLine.listProfiles
  | .storeMonitor name => CommandLine.storeMonitor name
  | .deleteProfile name => CommandLine.deleteProfile name
  | .saveProfile name => CommandLine.saveProfile name operands
  | .listMonitors => CommandLine.listMonitors choices
  | .dryRun | .reset | .apply => split choices operands

section

variable {choices : Choices} {operands : List String} {desk : Desk}

theorem perform_eq_command (choices : Choices) (operands : List String) :
    perform choices operands = choices.mode.command choices operands := by
  unfold perform Choices.mode
  by_cases profiles : choices.profiles
  · simp only [profiles, if_true, Mode.command]
  simp only [profiles, if_false, Bool.false_eq_true]
  cases given choices.setMonitor <;> cases given choices.deleteProfile <;>
    cases given choices.save <;> try rfl
  cases choices.list <;> cases choices.dryRun <;> cases choices.reset <;> rfl

/-- The switches that are off in the last modes. -/
theorem switches_of_mode :
    (choices.mode = .dryRun → choices.dryRun = true) ∧
      (choices.mode = .reset → choices.dryRun = false ∧ choices.reset = true) ∧
      (choices.mode = .apply → choices.dryRun = false ∧ choices.reset = false) := by
  unfold Choices.mode
  cases choices.profiles <;> cases given choices.setMonitor <;>
    cases given choices.deleteProfile <;> cases given choices.save <;> cases choices.list <;>
    cases choices.dryRun <;> cases choices.reset <;> simp

/-!
### What commands leave alone

The modes about settings start no call, and the others do not write the settings.
-/

theorem keeps_calls_of_onSettings {mode : Mode} (settings : mode.OnSettings) :
    Keeps (·.session.calls) (mode.command choices operands) := by
  cases mode with
  | listProfiles =>
      exact keeps_get.bind fun _ => (keeps_orStop _ _).bind fun _ => keeps_print_calls _
  | storeMonitor name =>
      exact keeps_get.bind fun _ => (keeps_orStop _ _).bind keeps_writeStore_calls
  | deleteProfile name =>
      refine keeps_get.bind fun _ => (keeps_orStop _ _).bind fun removed => ?_
      cases removed with
      | none => exact keeps_throw _
      | some text => exact keeps_writeStore_calls text
  | saveProfile name =>
      exact (keeps_expression operands).of_whole.bind fun _ => keeps_get.bind fun _ =>
        (keeps_orStop _ _).bind fun text => (keeps_writeStore_calls text).bind fun _ =>
          keeps_record_calls _
  | listMonitors | dryRun | reset | apply => exact settings.elim

theorem keeps_store_listProfiles : Keeps (·.store) listProfiles :=
  keeps_get.bind fun _ => (keeps_orStop _ _).bind fun _ => keeps_print_store _

theorem keeps_store_split : Keeps (·.store) (split choices operands) := by
  refine (keeps_chosenMonitor choices).of_whole.bind fun name =>
    (keeps_chosenRatio choices operands).of_whole.bind fun ratio =>
      (keeps_inSession_store _).bind fun _ => ?_
  cases choices.dryRun with
  | true => exact (keeps_inSession_store _).bind keeps_print_store
  | false => exact keeps_inSession_store _

theorem keeps_store_of_not_onSettings {mode : Mode} (display : ¬ mode.OnSettings) :
    Keeps (·.store) (mode.command choices operands) := by
  cases mode with
  | listProfiles | storeMonitor _ | deleteProfile _ | saveProfile _ => exact absurd trivial display
  | listMonitors =>
      exact (keeps_inSession_store _).bind fun _ => (keeps_inSession_store _).bind fun _ =>
        keeps_print_store _
  | dryRun | reset | apply => exact keeps_store_split

end

/-!
### What a run is about

A monitor and a ratio are chosen first.  Without them no call is made.
-/

/-- The monitor that a run is about, and the ratio by which to split it. -/
structure Target (choices : Choices) (operands : List String) (desk : Desk) (name : String)
    (ratio : Ratio) : Prop where
  chosen : (chosenMonitor choices).run desk = (.ok name, desk)
  parsed : ∃ text, (expression operands).run desk = (.ok text, desk) ∧
    Ratio.parse 2 text.toList = .ok ratio

section

variable {choices : Choices} {operands : List String} {desk : Desk} {name : String}

theorem run_chosenRatio_of_reset (operands : List String) (reset : choices.reset = true) :
    (chosenRatio choices operands).run desk = (.ok none, desk) := by
  unfold chosenRatio
  rw [if_pos reset]
  rfl

theorem run_chosenRatio_of_target (goes_on : choices.reset = false) {ratio : Ratio}
    (target : Target choices operands desk name ratio) :
    (chosenRatio choices operands).run desk = (.ok (some ratio), desk) := by
  obtain ⟨text, expressed, parsed⟩ := target.parsed
  unfold chosenRatio
  rw [if_neg (by simp [goes_on])]
  refine (bind_eq_of_ok expressed).trans ?_
  rw [parsed]
  rfl

/-- A ratio is chosen only if there is a text to read and it is one. -/
theorem parsed_of_run_chosenRatio (goes_on : choices.reset = false) {ratio : Option Ratio}
    {after : Desk} (chosen : (chosenRatio choices operands).run desk = (.ok ratio, after)) :
    ∃ value, ratio = some value ∧ ∃ text, (expression operands).run desk = (.ok text, desk) ∧
      Ratio.parse 2 text.toList = .ok value := by
  unfold chosenRatio at chosen
  rw [if_neg (by simp [goes_on])] at chosen
  rcases expressed : (expression operands).run desk with ⟨outcome, middle⟩
  obtain rfl : middle = desk := by
    have kept := keeps_expression operands desk
    rwa [expressed] at kept
  cases outcome with
  | error stop =>
      have stopped := (bind_eq_of_error expressed).symm.trans chosen
      cases stopped
  | ok text =>
      have read := (bind_eq_of_ok expressed).symm.trans chosen
      cases parsed : Ratio.parse 2 text.toList with
      | error cause =>
          rw [parsed] at read
          cases read
      | ok value =>
          rw [parsed] at read
          cases read
          exact ⟨value, rfl, text, rfl, parsed⟩

/-- The desk with its session on a display. -/
def Desk.on (desk : Desk) (display : Option String) : Desk :=
  { desk with session := desk.session.on display }

/-- What is done on a display is done at a desk whose session is on it. -/
theorem run_connect_bind {α : Type} (display : Option String) (force : Bool)
    (next : Unit → Display.Action α) (desk : Desk) :
    inSession (Display.connect display force >>= next) desk =
      inSession (Display.requireSupport force >>= next) (desk.on display) := by
  simp only [inSession, Display.connect_bind]
  rfl

/-- The session of a run: that of its desk, on the display that the options name. -/
def Choices.session (choices : Choices) (desk : Desk) : Session := desk.session.on choices.display

/-- What a dry run does in the session once monitor and ratio are chosen. -/
theorem run_split_of_dryRun (dry : choices.dryRun = true) {ratio : Option Ratio}
    (monitor : (chosenMonitor choices).run desk = (.ok name, desk))
    (chosen : (chosenRatio choices operands).run desk = (.ok ratio, desk)) :
    (split choices operands).run desk =
      (inSession (do
        Display.requireSupport choices.forceVersion
        Display.script name ratio) >>= print).run (desk.on choices.display) := by
  refine (bind_eq_of_ok monitor).trans ((bind_eq_of_ok chosen).trans (Eq.trans ?_
    (bind_congr_run (run_connect_bind choices.display choices.forceVersion _ desk) print)))
  rw [if_pos dry, ← inSession_bind, bind_assoc]
  rfl

/-- What a run in earnest does in the session then. -/
theorem run_split_of_real (real : choices.dryRun = false) {ratio : Option Ratio}
    (monitor : (chosenMonitor choices).run desk = (.ok name, desk))
    (chosen : (chosenRatio choices operands).run desk = (.ok ratio, desk)) :
    (split choices operands).run desk =
      (inSession (do
        Display.requireSupport choices.forceVersion
        splitMonitor name ratio)).run (desk.on choices.display) := by
  refine (bind_eq_of_ok monitor).trans ((bind_eq_of_ok chosen).trans (Eq.trans ?_
    (run_connect_bind choices.display choices.forceVersion _ desk)))
  rw [if_neg (by simp [real]), ← inSession_bind]
  rfl

/-- Without a monitor or a ratio nothing is done. -/
theorem run_split_of_unchosen
    (none_chosen : ∀ name ratio, (chosenMonitor choices).run desk = (.ok name, desk) →
      (chosenRatio choices operands).run desk ≠ (.ok ratio, desk)) :
    ∃ stop, (split choices operands).run desk = (.error stop, desk) := by
  have monitor := (keeps_chosenMonitor choices).run_eq desk
  have chosen := (keeps_chosenRatio choices operands).run_eq desk
  cases monitorOutcome : ((chosenMonitor choices).run desk).1 with
  | error stop =>
      rw [monitorOutcome] at monitor
      exact ⟨stop, bind_eq_of_error monitor⟩
  | ok name =>
      cases ratioOutcome : ((chosenRatio choices operands).run desk).1 with
      | error stop =>
          rw [monitorOutcome] at monitor
          rw [ratioOutcome] at chosen
          exact ⟨stop, (bind_eq_of_ok monitor).trans (bind_eq_of_error chosen)⟩
      | ok ratio =>
          rw [monitorOutcome] at monitor
          rw [ratioOutcome] at chosen
          exact absurd chosen (none_chosen name ratio monitor)

end

/-!
### Plans

The calls of a run in earnest are known from the first listing and from the split, if all
goes well until then.
-/

/-- The calls that remove the partitions of a monitor. -/
def resetPlan (name : String) (session : Session) : List (List String) :=
  versionCall :: listCall :: deletionsOf name (session.listing 0)

/-- The calls that split a monitor anew, with those that define its new partitions last. -/
def applyPlan (name : String) (session : Session) (definitions : List (List String)) :
    List (List String) :=
  resetPlan name session ++ listCall :: definitions

/-- All has gone well until new partitions can be defined. -/
structure Ready (session : Session) (force : Bool) (name : String) (ratio : Ratio)
    (split : Split) : Prop where
  connected : session.connection force = .ok ()
  deleted : ∃ monitors, session.listing 0 = .ok monitors ∧
    session.deletion (partitionsOf name monitors) = .ok ()
  found : ∃ monitors monitor, session.listing 1 = .ok monitors ∧
    find name monitors = .ok monitor ∧ monitor.split ratio = .ok split

theorem Ready.unique {session : Session} {force : Bool} {name : String} {ratio : Ratio}
    {split other : Split} (ready : Ready session force name ratio split)
    (otherReady : Ready session force name ratio other) : split = other := by
  obtain ⟨_, _, listed, found, success⟩ := ready.found
  obtain ⟨_, _, otherListed, otherFound, otherSuccess⟩ := otherReady.found
  cases listed.symm.trans otherListed
  cases found.symm.trans otherFound
  exact Except.ok.inj (success.symm.trans otherSuccess)

section

variable {before : Session} (force : Bool) (name : String)

theorem follows_requireSupport (before : Session) :
    Follows (Display.requireSupport force) before [versionCall]
      (fun _ => before.connection force = .ok ()) :=
  (Display.yields_requireSupport force before).follows

theorem follows_resetMonitor (before : Session) :
    Follows (do Display.requireSupport force; splitMonitor name none) before
      (resetPlan name before) (fun _ => True) := by
  refine (follows_requireSupport force before).bind fun _ session _ reaches => ?_
  have listing : session.listing 0 = before.listing 0 := reaches.listing 0
  have deletes := Display.follows_reset name session
  rw [listing] at deletes
  have done := deletes.bind fun _ session _ _ =>
    (Display.follows_pure () session).imp fun _ _ => trivial
  rwa [List.append_nil] at done

/-- The definitions are the last call, and it is made only if all goes well before it. -/
theorem follows_applyMonitor (ratio : Ratio) {definitions : List (List String)}
    (agrees : ∀ split, Ready before force name ratio split → definitions = [split.arguments]) :
    Follows (do Display.requireSupport force; splitMonitor name (some ratio)) before
      (applyPlan name before definitions) (fun _ => ∃ split, Ready before force name ratio split) := by
  refine (follows_requireSupport force before).bind fun _ connected accepted reaches => ?_
  have firstListing : connected.listing 0 = before.listing 0 := reaches.listing 0
  have deletes := Display.follows_reset name connected
  rw [firstListing] at deletes
  refine deletes.bind fun _ cleared deleted reachesCleared => ?_
  obtain ⟨monitors, listed, deletion⟩ := deleted
  have secondListing : cleared.listing 0 = before.listing 1 := by
    rw [reachesCleared.listing, Display.countP_deletionsOf]
    exact reaches.listing 1
  have searched := Display.yields_findMonitor name cleared
  rw [secondListing] at searched
  refine searched.follows.bind fun monitor session found _ => ?_
  obtain ⟨listing, relisted, named⟩ := Display.foundIn_eq_ok_iff.mp found
  have ready : ∀ split, monitor.split ratio = .ok split → Ready before force name ratio split :=
    fun split success =>
      { connected := accepted
        deleted := ⟨monitors, listed, (reaches.deletion rfl _).symm.trans deletion⟩
        found := ⟨listing, monitor, relisted, named, success⟩ }
  exact (Display.follows_apply monitor ratio (fun split success => agrees split (ready split success))
    session).imp fun _ split => split.imp ready

end

/-!
### Runs

The desk of a run has seen no calls yet.
-/

/-- The run exits with zero. -/
def Report.Succeeds (report : Report) : Prop := ∃ early, report.outcome = .exited 0 early

theorem succeeds_iff {result : Except Stop Unit} {output errors : String} :
    Report.Succeeds { outcome := (conclude result).1, output, errors } ↔ result = .ok () := by
  rcases result with (message | cause) | _
  · simp [Report.Succeeds, conclude]
  · cases reported : cause.isReported <;> simp [Report.Succeeds, conclude, reported]
  · simp [Report.Succeeds, conclude]

section

variable {arguments : List String} {choices : Choices} {operands : List String} {desk : Desk}

/-- A run ends at the desk that its command leaves, with zero if the command does not stop. -/
theorem run_of_accepted (accepted : readArguments arguments = .ok (choices, operands))
    (desk : Desk) :
    (run arguments desk).2 = ((perform choices operands).run desk).2 ∧
      ((run arguments desk).1.Succeeds ↔ ((perform choices operands).run desk).1 = .ok ()) := by
  unfold run
  rw [accepted]
  exact ⟨rfl, succeeds_iff⟩

/-- The calls of an action are all calls of the desk, whatever follows it without calls. -/
theorem words_of_follows {α β : Type} {action : Display.Action α} {plan : List (List String)}
    {holds : α → Prop} (follows : Follows action desk.session plan holds)
    (fresh : desk.session.calls = []) {next : α → Command β}
    (silent : ∀ value, Keeps (·.session.calls) (next value)) :
    ((inSession action >>= next).run desk).2.session.words <+: commandLines plan ∧
      ∀ value, ((inSession action >>= next).run desk).1 = .ok value →
        ((inSession action >>= next).run desk).2.session.words = commandLines plan ∧
          ∃ result, holds result := by
  obtain ⟨outcome, ⟨made, session, acted, reaches, planned, complete⟩, said⟩ := follows
  have words : session.words = commandLines made := by
    rw [reaches.words, Session.words, fresh]
    rfl
  have ran : inSession action desk =
      (outcome.mapError fun cause => .failed (.display cause), { desk with session }) :=
    run_inSession desk acted
  cases outcome with
  | error cause =>
      have stopped : (inSession action >>= next).run desk =
          (.error (.failed (.display cause)), { desk with session }) := bind_eq_of_error ran
      rw [stopped]
      exact ⟨words ▸ planned.map _, fun _ succeeds => by cases succeeds⟩
  | ok value =>
      obtain rfl := complete value rfl
      have continued : (inSession action >>= next).run desk =
          (next value).run { desk with session } := bind_eq_of_ok ran
      have kept : ((next value).run { desk with session }).2.session.words = session.words :=
        congrArg (List.map Display.Call.words) (silent value { desk with session })
      rw [continued, kept, words]
      exact ⟨List.prefix_rfl, fun _ _ => ⟨rfl, value, said value rfl⟩⟩

end

/-- The calls of a finished run are those of a plan in their order.  The last ones may be
missing, but not if the run exits with zero. -/
structure KeepsTo (plan : List (List String)) (report : Report) (finished : Desk) : Prop where
  planned : finished.session.words <+: commandLines plan
  complete : report.Succeeds → finished.session.words = commandLines plan

/-- What a run does to the outside: what it calls for, and what it stores. -/
structure Effects (choices : Choices) (operands : List String) (desk : Desk) (report : Report)
    (finished : Desk) : Prop where
  settings : choices.mode.OnSettings → finished.session.calls = []
  profiles : choices.mode = .listProfiles → finished.store = desk.store
  display : ¬ choices.mode.OnSettings → finished.store = desk.store
  dryRun : choices.mode = .dryRun →
    ∀ words ∈ finished.session.words, "--delmonitor" ∉ words ∧ "--setmonitor" ∉ words
  unchosen : choices.mode = .reset ∨ choices.mode = .apply →
    (∀ name, (chosenMonitor choices).run desk ≠ (.ok name, desk)) →
      finished.session.calls = [] ∧ ¬ report.Succeeds
  reset : choices.mode = .reset →
    ∀ name, (chosenMonitor choices).run desk = (.ok name, desk) →
      KeepsTo (resetPlan name (choices.session desk)) report finished
  untargeted : choices.mode = .apply → (∀ name ratio, ¬ Target choices operands desk name ratio) →
    finished.session.calls = [] ∧ ¬ report.Succeeds
  apply : choices.mode = .apply → ∀ name ratio split, Target choices operands desk name ratio →
    Ready (choices.session desk) choices.forceVersion name ratio split →
      (∃ rest, split.arguments = "--setmonitor" :: rest) ∧
        KeepsTo (applyPlan name (choices.session desk) [split.arguments]) report finished
  unready : choices.mode = .apply → ∀ name ratio, Target choices operands desk name ratio →
    (∀ split, ¬ Ready (choices.session desk) choices.forceVersion name ratio split) →
      KeepsTo (applyPlan name (choices.session desk) []) report finished ∧ ¬ report.Succeeds
  defines : ∀ words ∈ finished.session.words, "--setmonitor" ∈ words → choices.mode = .apply ∧
    ∃ name ratio split, Target choices operands desk name ratio ∧
      Ready (choices.session desk) choices.forceVersion name ratio split ∧ words = "xrandr" :: split.arguments

section

variable {arguments : List String} {choices : Choices} {operands : List String} {desk : Desk}

/-- The calls that lead to a script. -/
def scriptPlan (ratio : Option Ratio) : List (List String) :=
  versionCall :: Display.scriptCalls ratio

theorem follows_scriptMonitor (force : Bool) (name : String) (ratio : Option Ratio)
    (before : Session) :
    Follows (do Display.requireSupport force; Display.script name ratio) before
      (scriptPlan ratio) (fun _ => True) :=
  (follows_requireSupport force before).bind fun _ session _ _ =>
    Display.follows_script name ratio session

theorem follows_listing (force : Bool) (before : Session) :
    Follows (do Display.requireSupport force; Display.listMonitors) before
      [versionCall, listCall] (fun _ => True) :=
  (follows_requireSupport force before).bind fun _ session _ _ =>
    (Display.yields_listMonitors session).follows.imp fun _ _ => trivial

/-- A run whose command is an action in the session keeps to the plan of the action. -/
theorem keepsTo_of_follows (accepted : readArguments arguments = .ok (choices, operands))
    (fresh : desk.session.calls = []) {action : Display.Action Unit} {plan : List (List String)}
    {holds : Unit → Prop} (follows : Follows action (choices.session desk) plan holds)
    (performed : (perform choices operands).run desk =
      (inSession action).run (desk.on choices.display)) :
    KeepsTo plan (run arguments desk).1 (run arguments desk).2 ∧
      ((run arguments desk).1.Succeeds → ∃ value, holds value) := by
  obtain ⟨finished, succeeds⟩ := run_of_accepted accepted desk
  have opened : Follows action (desk.on choices.display).session plan holds := follows
  obtain ⟨planned, complete⟩ := words_of_follows opened fresh fun value => keeps_pure value
  rw [bind_pure, ← performed] at planned complete
  refine ⟨⟨by rwa [finished], fun success => ?_⟩, fun success => ?_⟩
  · rw [finished]
    exact (complete () (succeeds.mp success)).1
  · exact (complete () (succeeds.mp success)).2

theorem perform_eq_split (mode : choices.mode = .dryRun ∨ choices.mode = .reset ∨
    choices.mode = .apply) : perform choices operands = split choices operands := by
  rw [perform_eq_command]
  rcases mode with mode | mode | mode <;> rw [mode, Mode.command]

theorem perform_of_dryRun (mode : choices.mode = .dryRun) {name : String} {ratio : Option Ratio}
    (monitor : (chosenMonitor choices).run desk = (.ok name, desk))
    (chosen : (chosenRatio choices operands).run desk = (.ok ratio, desk)) :
    (perform choices operands).run desk =
      (inSession (do
        Display.requireSupport choices.forceVersion
        Display.script name ratio) >>= print).run (desk.on choices.display) := by
  rw [perform_eq_split (.inl mode), run_split_of_dryRun (switches_of_mode.1 mode) monitor chosen]

theorem perform_of_reset (operands : List String) (mode : choices.mode = .reset) {name : String}
    (chosen : (chosenMonitor choices).run desk = (.ok name, desk)) :
    (perform choices operands).run desk =
      (inSession (do
        Display.requireSupport choices.forceVersion
        splitMonitor name none)).run (desk.on choices.display) := by
  obtain ⟨real, reset⟩ := switches_of_mode.2.1 mode
  rw [perform_eq_split (.inr (.inl mode)),
    run_split_of_real real chosen (run_chosenRatio_of_reset operands reset)]

theorem perform_of_apply (mode : choices.mode = .apply) {name : String} {ratio : Ratio}
    (target : Target choices operands desk name ratio) :
    (perform choices operands).run desk =
      (inSession (do
        Display.requireSupport choices.forceVersion
        splitMonitor name (some ratio))).run (desk.on choices.display) := by
  obtain ⟨real, goes_on⟩ := switches_of_mode.2.2 mode
  rw [perform_eq_split (.inr (.inr mode)),
    run_split_of_real real target.chosen (run_chosenRatio_of_target goes_on target)]

/-- Without a monitor or a ratio no call is made. -/
theorem run_of_unchosen (accepted : readArguments arguments = .ok (choices, operands))
    (fresh : desk.session.calls = [])
    (mode : choices.mode = .dryRun ∨ choices.mode = .reset ∨ choices.mode = .apply)
    (none_chosen : ∀ name ratio, (chosenMonitor choices).run desk = (.ok name, desk) →
      (chosenRatio choices operands).run desk ≠ (.ok ratio, desk)) :
    (run arguments desk).2.session.calls = [] ∧ ¬ (run arguments desk).1.Succeeds := by
  obtain ⟨finished, succeeds⟩ := run_of_accepted accepted desk
  obtain ⟨stop, stopped⟩ := run_split_of_unchosen none_chosen
  rw [perform_eq_split mode, stopped] at finished succeeds
  exact ⟨by rw [finished, fresh], fun success => by cases succeeds.mp success⟩

theorem keepsTo_resetPlan (accepted : readArguments arguments = .ok (choices, operands))
    (fresh : desk.session.calls = []) (mode : choices.mode = .reset) {name : String}
    (chosen : (chosenMonitor choices).run desk = (.ok name, desk)) :
    KeepsTo (resetPlan name (choices.session desk)) (run arguments desk).1 (run arguments desk).2 :=
  (keepsTo_of_follows accepted fresh
    (follows_resetMonitor choices.forceVersion name (choices.session desk))
    (perform_of_reset operands mode chosen)).1

theorem keepsTo_applyPlan (accepted : readArguments arguments = .ok (choices, operands))
    (fresh : desk.session.calls = []) (mode : choices.mode = .apply) {name : String} {ratio : Ratio}
    (target : Target choices operands desk name ratio) {definitions : List (List String)}
    (agrees : ∀ split, Ready (choices.session desk) choices.forceVersion name ratio split →
      definitions = [split.arguments]) :
    KeepsTo (applyPlan name (choices.session desk) definitions) (run arguments desk).1
        (run arguments desk).2 ∧
      ((run arguments desk).1.Succeeds →
        ∃ split, Ready (choices.session desk) choices.forceVersion name ratio split) := by
  have kept := keepsTo_of_follows accepted fresh
    (follows_applyMonitor choices.forceVersion name ratio agrees)
    (perform_of_apply mode target)
  exact ⟨kept.1, fun success => (kept.2 success).choose_spec⟩

/-- Listing monitors and writing a script change none. -/
theorem words_of_looking (accepted : readArguments arguments = .ok (choices, operands))
    (fresh : desk.session.calls = [])
    (mode : choices.mode = .listMonitors ∨ choices.mode = .dryRun) :
    ∀ words ∈ (run arguments desk).2.session.words,
      words ∈ commandLines [versionCall, listCall] := by
  have finished := (run_of_accepted accepted desk).1
  rcases mode with mode | mode
  · have performed : (perform choices operands).run desk =
        (inSession (do Display.requireSupport choices.forceVersion; Display.listMonitors) >>=
          fun monitors => print (String.join (monitors.map monitorLine))).run
            (desk.on choices.display) := by
      refine Eq.trans ?_
        (bind_congr_run (run_connect_bind choices.display choices.forceVersion _ desk) _)
      rw [perform_eq_command, mode, ← inSession_bind, bind_assoc]
      rfl
    have looked : Follows (do Display.requireSupport choices.forceVersion; Display.listMonitors)
        (desk.on choices.display).session [versionCall, listCall] fun _ => True :=
      follows_listing choices.forceVersion _
    rw [finished, performed]
    exact fun words member => (words_of_follows looked fresh fun _ => keeps_print_calls _).1.subset member
  · by_cases none_chosen : ∀ name ratio, (chosenMonitor choices).run desk = (.ok name, desk) →
      (chosenRatio choices operands).run desk ≠ (.ok ratio, desk)
    · obtain ⟨silent, -⟩ := run_of_unchosen accepted fresh (.inl mode) none_chosen
      simp [Session.words, silent]
    · push Not at none_chosen
      obtain ⟨name, ratio, monitor, chosen⟩ := none_chosen
      rw [finished, perform_of_dryRun mode monitor chosen]
      intro words member
      have scripted : Follows (do Display.requireSupport choices.forceVersion; Display.script name ratio)
          (desk.on choices.display).session (scriptPlan ratio) fun _ => True :=
        follows_scriptMonitor choices.forceVersion name ratio _
      have looked := (words_of_follows scripted fresh keeps_print_calls).1.subset member
      cases ratio with
      | none => exact looked
      | some ratio => simpa [scriptPlan, Display.scriptCalls, commandLines] using looked

/-- Nothing that removes partitions defines one: the name of a partition bears a mark. -/
theorem not_setmonitor_of_mem_resetPlan {name : String} {session : Session} :
    ∀ words ∈ commandLines (resetPlan name session), "--setmonitor" ∉ words := by
  have fixed : ∀ words ∈ commandLines [versionCall, listCall], "--setmonitor" ∉ words := by decide
  have deletions :
      ∀ call ∈ deletionsOf name (session.listing 0), "--setmonitor" ∉ "xrandr" :: call := by
    intro call member
    cases listed : session.listing 0 with
    | error cause =>
        rw [listed] at member
        cases member
    | ok monitors =>
        rw [listed, deletionsOf, Display.deleteCalls] at member
        split at member
        · cases member
        rw [List.mem_singleton.mp member]
        simp only [deleteArguments, List.mem_cons, List.mem_flatMap, List.not_mem_nil, or_false,
          not_or, not_exists, not_and]
        refine ⟨by decide, fun monitor partitioned => ⟨by decide, fun same => ?_⟩⟩
        have marked : monitor.isPartitionOf name = true := (List.mem_filter.mp partitioned).2
        have begins := (List.isPrefixOf_iff_prefix.mp marked).subset
        rw [← same] at begins
        have letter : 'X' ∈ "--setmonitor".toList :=
          begins (by rw [String.toList_append]; exact List.mem_append_right _ (by decide))
        exact absurd letter (by decide)
  intro words member
  obtain ⟨call, planned, rfl⟩ := List.mem_map.mp member
  rcases List.mem_append.mp (show call ∈ [versionCall, listCall] ++ _ from planned) with begins | later
  · exact fixed _ (List.mem_map_of_mem begins)
  · exact deletions call later

/-- The call that defines partitions is the last one planned. -/
theorem eq_of_setmonitor_mem_applyPlan {name : String} {session : Session}
    {definitions : List (List String)} {words : List String}
    (member : words ∈ commandLines (applyPlan name session definitions))
    (defines : "--setmonitor" ∈ words) : words ∈ commandLines definitions := by
  rw [applyPlan, commandLines, List.map_append, List.mem_append, List.map_cons, List.mem_cons]
    at member
  rcases member with resets | rfl | defined
  · exact absurd defines (not_setmonitor_of_mem_resetPlan words resets)
  · exact absurd defines (by decide)
  · exact defined

theorem calls_eq_nil_of_onSettings (accepted : readArguments arguments = .ok (choices, operands))
    (fresh : desk.session.calls = []) (settings : choices.mode.OnSettings) :
    (run arguments desk).2.session.calls = [] := by
  rw [(run_of_accepted accepted desk).1, perform_eq_command]
  exact (keeps_calls_of_onSettings settings desk).trans fresh

/-- In a mode about monitors that is not to split one, no call defines partitions. -/
theorem not_setmonitor_of_ne_apply (accepted : readArguments arguments = .ok (choices, operands))
    (fresh : desk.session.calls = []) (not_apply : choices.mode ≠ .apply) :
    ∀ words ∈ (run arguments desk).2.session.words, "--setmonitor" ∉ words := by
  have fixed : ∀ words ∈ commandLines [versionCall, listCall], "--setmonitor" ∉ words := by decide
  have silent (settings : choices.mode.OnSettings) :
      ∀ words ∈ (run arguments desk).2.session.words, "--setmonitor" ∉ words := by
    rw [Session.words, calls_eq_nil_of_onSettings accepted fresh settings]
    intro _ member
    cases member
  cases mode : choices.mode with
  | listProfiles | storeMonitor _ | deleteProfile _ | saveProfile _ =>
      exact silent (by rw [mode]; trivial)
  | listMonitors =>
      exact fun words member =>
        fixed words (words_of_looking accepted fresh (.inl mode) words member)
  | dryRun =>
      exact fun words member =>
        fixed words (words_of_looking accepted fresh (.inr mode) words member)
  | reset =>
      intro words member
      by_cases unchosen : ∀ name, (chosenMonitor choices).run desk ≠ (.ok name, desk)
      · obtain ⟨none_made, -⟩ := run_of_unchosen accepted fresh (.inr (.inl mode))
          fun name _ chosen => absurd chosen (unchosen name)
        rw [Session.words, none_made] at member
        cases member
      · push Not at unchosen
        obtain ⟨name, chosen⟩ := unchosen
        exact not_setmonitor_of_mem_resetPlan words
          ((keepsTo_resetPlan accepted fresh mode chosen).planned.subset member)
  | apply => exact absurd mode not_apply

/-- A monitor and a ratio chosen are a target. -/
theorem exists_target_of_chosen (goes_on : choices.reset = false) {name : String}
    {ratio : Option Ratio} (monitor : (chosenMonitor choices).run desk = (.ok name, desk))
    (chosen : (chosenRatio choices operands).run desk = (.ok ratio, desk)) :
    ∃ value, Target choices operands desk name value := by
  obtain ⟨value, -, parsed⟩ := parsed_of_run_chosenRatio goes_on chosen
  exact ⟨value, monitor, parsed⟩

theorem run_of_untargeted (accepted : readArguments arguments = .ok (choices, operands))
    (fresh : desk.session.calls = []) (mode : choices.mode = .apply)
    (untargeted : ∀ name ratio, ¬ Target choices operands desk name ratio) :
    (run arguments desk).2.session.calls = [] ∧ ¬ (run arguments desk).1.Succeeds := by
  refine run_of_unchosen accepted fresh (.inr (.inr mode)) fun name ratio monitor chosen => ?_
  obtain ⟨value, target⟩ := exists_target_of_chosen (switches_of_mode.2.2 mode).2 monitor chosen
  exact untargeted name value target

/-- A call that defines partitions is one of a run that is ready for it. -/
theorem ready_of_setmonitor_mem (accepted : readArguments arguments = .ok (choices, operands))
    (fresh : desk.session.calls = []) :
    ∀ words ∈ (run arguments desk).2.session.words, "--setmonitor" ∈ words →
      choices.mode = .apply ∧ ∃ name ratio split, Target choices operands desk name ratio ∧
        Ready (choices.session desk) choices.forceVersion name ratio split ∧
        words = "xrandr" :: split.arguments := by
  intro words member defines
  have mode : choices.mode = .apply := by
    by_contra not_apply
    exact not_setmonitor_of_ne_apply accepted fresh not_apply words member defines
  refine ⟨mode, ?_⟩
  by_cases untargeted : ∀ name ratio, ¬ Target choices operands desk name ratio
  · obtain ⟨none_made, -⟩ := run_of_untargeted accepted fresh mode untargeted
    rw [Session.words, none_made] at member
    cases member
  push Not at untargeted
  obtain ⟨name, ratio, target⟩ := untargeted
  by_cases unready : ∀ split, ¬ Ready (choices.session desk) choices.forceVersion name ratio split
  · have none_ready : ∀ split, Ready (choices.session desk) choices.forceVersion name ratio split →
        [] = [split.arguments] := fun split ready => absurd ready (unready split)
    obtain ⟨kept, -⟩ := keepsTo_applyPlan accepted fresh mode target none_ready
    have none_defined := eq_of_setmonitor_mem_applyPlan (kept.planned.subset member) defines
    cases none_defined
  · push Not at unready
    obtain ⟨split, ready⟩ := unready
    obtain ⟨kept, -⟩ := keepsTo_applyPlan accepted fresh mode target
      fun other otherReady => congrArg (fun split => [Split.arguments split]) (ready.unique otherReady)
    have defined := eq_of_setmonitor_mem_applyPlan (kept.planned.subset member) defines
    exact ⟨name, ratio, split, target, ready, List.mem_singleton.mp defined⟩

/-- What a run does to the outside, whatever is chosen and whatever the replies are. -/
theorem run_effects (accepted : readArguments arguments = .ok (choices, operands))
    (fresh : desk.session.calls = []) :
    Effects choices operands desk (run arguments desk).1 (run arguments desk).2 where
  settings := calls_eq_nil_of_onSettings accepted fresh
  profiles mode := by
    rw [(run_of_accepted accepted desk).1, perform_eq_command, mode]
    exact keeps_store_listProfiles desk
  display onMonitors := by
    rw [(run_of_accepted accepted desk).1, perform_eq_command]
    exact keeps_store_of_not_onSettings onMonitors desk
  dryRun mode words member := by
    have fixed : ∀ words ∈ commandLines [versionCall, listCall],
        "--delmonitor" ∉ words ∧ "--setmonitor" ∉ words := by decide
    exact fixed words (words_of_looking accepted fresh (.inr mode) words member)
  unchosen mode none_chosen :=
    run_of_unchosen accepted fresh (.inr mode) fun name _ chosen => absurd chosen (none_chosen name)
  reset mode _ chosen := keepsTo_resetPlan accepted fresh mode chosen
  untargeted := run_of_untargeted accepted fresh
  apply mode name ratio split target ready := by
    obtain ⟨_, monitor, -, -, success⟩ := ready.found
    exact ⟨monitor.begins_of_split success, (keepsTo_applyPlan accepted fresh mode target
      fun other otherReady => congrArg (fun split => [Split.arguments split])
        (ready.unique otherReady)).1⟩
  unready mode name ratio target unready := by
    obtain ⟨kept, succeeds⟩ := keepsTo_applyPlan accepted fresh mode target
      fun split ready => absurd ready (unready split)
    exact ⟨kept, fun success => (succeeds success).elim unready⟩
  defines := ready_of_setmonitor_mem accepted fresh

end

/-- The listing of a monitor in two columns. -/
def columnsListing : String := " 0: A-XRPEX-0-0 2/2x2/2+0+0  A\n 1: A-XRPEX-2-0 2/2x2/2+2+0\n"

/-- The listing of the monitor as a whole. -/
def wholeListing : String := " 0: A 4/4x2/2+0+0  A\n"

/-- A desk at which the monitor is listed in columns first, and then as a whole. -/
def columnsDesk : Desk where
  session := { replies := [("--version", [.ofText "1.5"]),
    ("--listmonitors", [.ofText columnsListing, .ofText wholeListing])] }

/-- The choices of a command line that names the monitor. -/
def columnsChoices : Choices := { monitor := some "A" }

/-- The ratio of two columns. -/
def columns : Ratio := .ofPlane (.of (some 1) [some 1]) (.of none [])

/-- A column of the monitor. -/
def column (x : Int) (output : String) : Partition where
  name := partitionName "A" x 0
  geometry := { width := 2, widthMm := 2, height := 2, heightMm := 2, x, y := 0 }
  output

/-- The column as it is listed. -/
def columnMonitor (x : Int) (output : Option String) : Monitor where
  name := partitionName "A" x 0
  resolution := .plane 2 2
  sizeMm := (2, 2)
  position := (x, 0)
  output

/-- The whole monitor. -/
def wholeMonitor : Monitor where
  name := "A"
  resolution := .plane 4 2
  sizeMm := (4, 2)
  output := some "A"

theorem columns_target : Target columnsChoices ["1+1:"] columnsDesk "A" columns where
  chosen := rfl
  parsed := ⟨"1+1:", by cbv, Ratio.parse_of_judge (by decide) (by cbv)⟩

theorem columnsDesk_connected : columnsDesk.session.connection false = .ok () := by
  have told : columnsDesk.session.answer versionCall 0 = .ok "1.5" :=
    Session.answer_ofText (by decide) rfl
  rw [Session.connection, told]
  rfl

theorem columns_ready :
    Ready columnsDesk.session false "A" columns
      { partitions := [column 0 "A", column 2 "none"], scale := 2 } where
  connected := columnsDesk_connected
  deleted := by
    have told : columnsDesk.session.answer listCall 0 = .ok columnsListing :=
      Session.answer_ofText (by decide) rfl
    have read : Listing.monitors columnsListing =
        .ok [columnMonitor 0 (some "A"), columnMonitor 2 none] := by decide +kernel
    exact ⟨_, Session.listing_eq_ok_iff.mpr ⟨_, told, read⟩, by cbv⟩
  found := by
    have told : columnsDesk.session.answer listCall 1 = .ok wholeListing :=
      Session.answer_ofText (by decide) rfl
    have read : Listing.monitors wholeListing = .ok [wholeMonitor] := by decide +kernel
    exact ⟨_, wholeMonitor, Session.listing_eq_ok_iff.mpr ⟨_, told, read⟩, rfl, by cbv⟩

theorem columns_effects :
    readArguments ["-m", "A", "1+1:"] = .ok (columnsChoices, ["1+1:"]) ∧
      columnsDesk.session.calls = [] ∧ columnsChoices.mode = .apply ∧
      Target columnsChoices ["1+1:"] columnsDesk "A" columns ∧
      (∃ split, Ready columnsDesk.session columnsChoices.forceVersion "A" columns split) ∧
      Effects columnsChoices ["1+1:"] columnsDesk (run ["-m", "A", "1+1:"] columnsDesk).1
        (run ["-m", "A", "1+1:"] columnsDesk).2 := by
  have accepted : readArguments ["-m", "A", "1+1:"] = .ok (columnsChoices, ["1+1:"]) := by decide
  exact ⟨accepted, rfl, by decide, columns_target, ⟨_, columns_ready⟩, run_effects accepted rfl⟩

end MonitorSplit.CommandLine
