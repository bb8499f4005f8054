/-
Module: MonitorSplit.Proofs.CommandLine.DryRun
Purpose: A dry run prints what a run in earnest would call for.
Main exports:
  Choices.dry, readArguments_dry, Tells, changingLines, Rehearses, Comparable, dryRun_rehearses_run
-/
import MonitorSplit.Proofs.CommandLine.Effects
import MonitorSplit.Proofs.Display.Script

namespace MonitorSplit.CommandLine

open Display (Session Reply Replies Action Yields commandLines versionCall listCall
  changesMonitors deleteCalls deletionsOf splitCalls OneLine oneLine_of_mem_deleteCalls
  oneLine_of_split)

/-!
### The same arguments

The option for a dry run can be put before all arguments.  It changes nothing else of what
they choose.
-/

/-- The choices with a dry run chosen too. -/
def Choices.dry (choices : Choices) : Choices := { choices with dryRun := true }

/-- No option looks at whether a dry run has been chosen. -/
theorem take_dry (choices : Choices) (value : String) (switch : Switch) :
    choices.dry.take value switch = (choices.take value switch).map Choices.dry := by
  cases switch <;> rfl

/-- Nor does a cluster of options. -/
theorem readCluster_dry (letters : List Char) (choices : Choices) :
    readCluster letters choices.dry =
      (readCluster letters choices).map fun (choices, due) => (choices.dry, due) := by
  induction letters generalizing choices with
  | nil => rfl
  | cons letter rest inductionHypothesis =>
      unfold readCluster
      cases matchShort letter with
      | error halt => rfl
      | ok spec =>
          dsimp only
          split
          · rfl
          · rw [take_dry]
            cases choices.take _ spec.switch <;> rfl
          · rw [take_dry]
            cases choices.take "" spec.switch with
            | error halt => rfl
            | ok taken => exact inductionHypothesis taken

/-- Arguments are taken up in the same way whatever has been chosen before them. -/
theorem readFrom_dry (arguments : List String) (choices : Choices) (operands : List String) :
    readFrom arguments choices.dry operands =
      (readFrom arguments choices operands).map fun (choices, operands) => (choices.dry, operands) := by
  induction arguments, choices, operands using readFrom.induct <;>
    (unfold readFrom; simp_all [take_dry, readCluster_dry, Except.map])

/-- With the option in front, the same arguments are accepted and a dry run is chosen too. -/
theorem readArguments_dry {arguments : List String} {choices : Choices} {operands : List String}
    (accepted : readArguments arguments = .ok (choices, operands)) :
    readArguments ("--dry-run" :: arguments) = .ok (choices.dry, operands) := by
  have first : readArguments ("--dry-run" :: arguments) = readFrom arguments ({} : Choices).dry [] := by
    have long : Argument.ofText "--dry-run".toList = .long "--dry-run".toList none := by decide
    have known : ∃ spec, matchLong "--dry-run".toList = .ok spec ∧ spec.value = none ∧
        spec.switch = .dryRun := ⟨_, rfl, rfl, rfl⟩
    obtain ⟨spec, found, plain, switch⟩ := known
    rw [readArguments, readFrom, long]
    simp only [found, plain, switch, Choices.take]
    rfl
  rw [first, readFrom_dry, ← readArguments, accepted]
  rfl

/-!
### The same choices
-/

section

variable {choices : Choices} {operands : List String} {desk : Desk} {name : String}

/-- With a dry run chosen, no monitor is split or made whole. -/
theorem mode_dry (mode : choices.mode = .reset ∨ choices.mode = .apply) :
    choices.dry.mode = .dryRun := by
  revert mode
  unfold Choices.mode Choices.dry
  cases choices.profiles <;> cases given choices.setMonitor <;>
    cases given choices.deleteProfile <;> cases given choices.save <;> cases choices.list <;>
    cases choices.dryRun <;> cases choices.reset <;> simp

/-- A monitor and a ratio are chosen alike, whatever the session. -/
theorem Target.of_session {ratio : Ratio} (target : Target choices operands desk name ratio)
    (session : Session) : Target choices.dry operands { desk with session } name ratio := by
  obtain ⟨text, expressed, parsed⟩ := target.parsed
  exact {
    chosen := (ignoresSession_chosenMonitor choices).run_eq_ok (keeps_chosenMonitor choices)
      target.chosen session
    parsed := ⟨text, (ignoresSession_expression operands).run_eq_ok (keeps_expression operands)
      expressed session, parsed⟩ }

end

/-!
### A tool that obliges

If every call succeeds, then the listings and the split alone decide how a run ends and which
calls it makes.
-/

/-- Every call exits with zero and gives a text. -/
def Tells (session : Session) : Prop :=
  ∀ verb earlier, ∃ text, (session.replies.answer verb earlier).outcome = .ok text

/-- Every reply given is one of success, with a text. -/
def Obliging (replies : Replies) : Prop :=
  ∀ entry ∈ replies, ∀ reply ∈ entry.2, ∃ text, reply.outcome = .ok text

theorem obliging_cons {known : String} {given : List Reply} {rest : Replies} :
    Obliging ((known, given) :: rest) ↔
      (∀ reply ∈ given, ∃ text, reply.outcome = .ok text) ∧ Obliging rest :=
  List.forall_mem_cons

theorem outcome_defaultReply (verb : String) :
    ∃ text, (Display.defaultReply verb).outcome = .ok text := by
  unfold Display.defaultReply
  split
  · exact ⟨_, Reply.outcome_ofText _⟩
  · exact ⟨"", by cbv⟩

/-- The next reply of an obliging tool is one of success, and the tool obliges further on. -/
theorem Obliging.next {replies : Replies} (obliging : Obliging replies) (verb : String) :
    (∃ text, (replies.next verb).1.outcome = .ok text) ∧ Obliging (replies.next verb).2 := by
  induction replies with
  | nil => exact ⟨outcome_defaultReply verb, obliging⟩
  | cons entry rest inductionHypothesis =>
      obtain ⟨known, given⟩ := entry
      obtain ⟨givenGood, restGood⟩ := obliging_cons.mp obliging
      unfold Replies.next
      split
      · rcases given with _ | ⟨reply, _ | ⟨second, later⟩⟩
        · exact ⟨outcome_defaultReply verb, obliging⟩
        · exact ⟨givenGood reply List.mem_cons_self, obliging⟩
        · exact ⟨givenGood reply List.mem_cons_self,
            obliging_cons.mpr ⟨fun reply member => givenGood reply (List.mem_cons_of_mem _ member),
              restGood⟩⟩
      · obtain ⟨told, further⟩ := inductionHypothesis restGood
        exact ⟨told, obliging_cons.mpr ⟨givenGood, further⟩⟩

/-- The action comes to the outcome, unless one of the calls that it plans cannot be made. -/
def Attempts {α : Type} (action : Action α) (before : Session) (plan : List (List String))
    (outcome : Except Display.Failure α) : Prop :=
  ∃ actual, Yields action before plan actual ∧ (actual = .error .embeddedNul ∨ actual = outcome)

theorem Attempts.of_yields {α : Type} {action : Action α} {before : Session}
    {plan : List (List String)} {outcome : Except Display.Failure α}
    (yields : Yields action before plan outcome) : Attempts action before plan outcome :=
  ⟨outcome, yields, .inr rfl⟩

/-- What comes next is attempted where the action has led. -/
theorem Attempts.bind_ok {α β : Type} {action : Action α} {next : α → Action β} {before : Session}
    {plan rest : List (List String)} {value : α} {outcome : Except Display.Failure β}
    (attempts : Attempts action before plan (.ok value))
    (goes_on : ∀ middle, before.Reaches middle plan → Attempts (next value) middle rest outcome) :
    Attempts (action >>= next) before (plan ++ rest) outcome := by
  obtain ⟨_, yields, rfl | rfl⟩ := attempts
  · have refused : Yields (action >>= next) before (plan ++ rest)
        (Except.error Display.Failure.embeddedNul >>= fun _ => outcome) :=
      yields.bind fun _ _ succeeds _ => by cases succeeds
    exact ⟨_, refused, .inl rfl⟩
  · obtain ⟨middle, ran, reaches⟩ := yields.reaches
    obtain ⟨actual, ⟨made, after, continues, reachesLater, planned, complete⟩, either⟩ :=
      goes_on middle reaches
    exact ⟨actual, ⟨plan ++ made, after, (bind_eq_of_ok ran).trans continues,
      reaches.trans reachesLater, (List.prefix_append_right_inj plan).mpr planned,
      fun value succeeds => by rw [complete value succeeds]⟩, either⟩

section

variable {session : Session} {force : Bool} (name : String) {before after : List Monitor}
  {monitor : Monitor}

/-- An obliging tool tells a text for every call. -/
theorem tells_of_obliging (obliging : Obliging session.replies) : Tells session := by
  intro verb earlier
  generalize session.replies = replies at obliging
  induction earlier generalizing replies with
  | zero => exact (obliging.next verb).1
  | succ earlier inductionHypothesis => exact inductionHypothesis _ (obliging.next verb).2

theorem Tells.of_reaches (tells : Tells session) {later : Session} {made : List (List String)}
    (reaches : session.Reaches later made) : Tells later := by
  intro verb earlier
  rw [reaches.replies]
  exact tells verb _

/-- A call made for its effect alone is made, unless it cannot be. -/
theorem Tells.attempts_call (tells : Tells session) (arguments : List String) :
    Attempts (do let _ ← Display.call arguments; return ()) session [arguments] (.ok ()) := by
  refine ⟨_, Display.yields_call_unit arguments session, ?_⟩
  obtain ⟨text, told⟩ := tells (Display.verbOf arguments) 0
  unfold Session.answer
  rw [told]
  split
  · exact .inr rfl
  · exact .inl rfl

theorem Tells.attempts_delete (tells : Tells session) (monitors : List Monitor) :
    Attempts (Display.perform (deleteArguments monitors)) session (deleteCalls monitors) (.ok ()) := by
  cases monitors with
  | nil => exact .of_yields (Display.yields_pure () session)
  | cons first others => exact tells.attempts_call (deleteArguments (first :: others))

/-- Partitions that are listed are deleted, as far as the tool can be told of them. -/
theorem Tells.attempts_reset (tells : Tells session) (first : session.listing 0 = .ok before) :
    Attempts (Display.reset name) session (listCall :: deleteCalls (partitionsOf name before))
      (.ok (partitionsOf name before)) := by
  have found := Display.yields_listPartitions name session
  rw [first] at found
  have all : Attempts (Display.reset name) session
      ([listCall] ++ (deleteCalls (partitionsOf name before) ++ ([] ++ [])))
      (.ok (partitionsOf name before)) :=
    Attempts.bind_ok (.of_yields found) fun session reaches =>
      ((tells.of_reaches reaches).attempts_delete _).bind_ok fun session _ =>
        Attempts.bind_ok (.of_yields (Display.yields_record _ session)) fun session _ =>
          .of_yields (Display.yields_pure _ session)
  rw [List.append_nil, List.append_nil] at all
  exact all

theorem yields_connected (connected : session.connection force = .ok ()) :
    Yields (Display.requireSupport force) session [versionCall] (.ok ()) :=
  connected ▸ Display.yields_requireSupport force session

/-- A monitor made whole. -/
theorem attempts_resetMonitor (tells : Tells session)
    (connected : session.connection force = .ok ()) :
    Attempts (do Display.requireSupport force; splitMonitor name none) session
      (versionCall :: listCall :: deletionsOf name (session.listing 0))
      ((session.listing 0).map fun _ => ()) := by
  have opened := yields_connected connected
  cases first : session.listing 0 with
  | error cause =>
      have unlisted : Yields (do Display.requireSupport force; splitMonitor name none) session
          ([versionCall] ++ [listCall]) (.error cause) :=
        opened.bind_ok fun middle reaches =>
          (Display.yields_reset_of_error name ((reaches.listing 0).trans first)).bind_error
      exact .of_yields unlisted
  | ok before =>
      have done : Attempts (do Display.requireSupport force; splitMonitor name none) session
          ([versionCall] ++ ((listCall :: deleteCalls (partitionsOf name before)) ++ [])) (.ok ()) :=
        Attempts.bind_ok (.of_yields opened) fun middle reaches =>
          ((tells.of_reaches reaches).attempts_reset name ((reaches.listing 0).trans first)).bind_ok
            fun cleared _ => .of_yields (Display.yields_pure () cleared)
      rw [List.append_nil] at done
      exact done

/-- A monitor split by a ratio, or found not to fit it. -/
theorem attempts_apply (tells : Tells session) (monitor : Monitor) (ratio : Ratio) :
    Attempts (Display.apply monitor ratio) session (splitCalls (monitor.split ratio))
      (((monitor.split ratio).mapError .split).map fun _ => ()) := by
  have prepared := Display.yields_splitArguments monitor ratio session
  cases result : monitor.split ratio with
  | error cause =>
      rw [result] at prepared
      exact .of_yields prepared.bind_error
  | ok split =>
      rw [result] at prepared
      have arguments : Attempts (Display.splitArguments monitor ratio) session []
        (.ok split.arguments) := .of_yields prepared
      exact arguments.bind_ok fun middle reaches =>
        (tells.of_reaches reaches).attempts_call split.arguments

/-- A monitor made whole, listed again and split. -/
theorem attempts_applyMonitor (tells : Tells session)
    (connected : session.connection force = .ok ()) (ratio : Ratio)
    (first : session.listing 0 = .ok before) (second : session.listing 1 = .ok after)
    (found : find name after = .ok monitor) :
    Attempts (do Display.requireSupport force; splitMonitor name (some ratio)) session
      (versionCall :: listCall :: (deleteCalls (partitionsOf name before) ++
        listCall :: splitCalls (monitor.split ratio)))
      (((monitor.split ratio).mapError .split).map fun _ => ()) := by
  have done : Attempts (do Display.requireSupport force; splitMonitor name (some ratio)) session
      ([versionCall] ++ ((listCall :: deleteCalls (partitionsOf name before)) ++
        ([listCall] ++ splitCalls (monitor.split ratio))))
      (((monitor.split ratio).mapError .split).map fun _ => ()) := by
    refine Attempts.bind_ok (.of_yields (yields_connected connected)) fun opened connects => ?_
    have told := tells.of_reaches connects
    refine (told.attempts_reset name ((connects.listing 0).trans first)).bind_ok
      fun cleared deletes => ?_
    have relisted : cleared.listing 0 = .ok after := by
      have counted := Display.countP_deletionsOf name (.ok before)
      rw [deletes.listing, show (listCall :: deleteCalls (partitionsOf name before)).countP _ = 1
        from counted]
      exact (connects.listing 1).trans second
    have searched := Display.yields_findMonitor name cleared
    rw [Display.foundIn_eq_ok_iff.mpr ⟨after, relisted, found⟩] at searched
    exact Attempts.bind_ok (.of_yields searched) fun middle finds =>
      attempts_apply ((told.of_reaches deletes).of_reaches finds) monitor ratio
  exact done

/-- The script for a monitor to be made whole. -/
theorem yields_resetScript (connected : session.connection force = .ok ()) :
    Yields (do Display.requireSupport force; Display.script name none) session
      ([versionCall] ++ [listCall])
      (session.listing 0 >>= fun monitors =>
        .ok (Display.renderScript (deleteCalls (partitionsOf name monitors)))) :=
  (yields_connected connected).bind_ok fun middle reaches => by
    have scripted := Display.yields_script_none name middle
    rwa [reaches.listing] at scripted

/-- The script for a monitor to be split, which may be listed in partitions. -/
theorem yields_applyScript (connected : session.connection force = .ok ()) (ratio : Ratio)
    (listed : ∀ earlier, session.listing earlier = .ok before) {parent : Found}
    (rebuilt : findParent name before = .ok parent) :
    Yields (do Display.requireSupport force; Display.script name (some ratio)) session
      ([versionCall] ++ [listCall, listCall])
      ((parent.monitor.split ratio).mapError .split >>= fun split => .ok (Display.renderScript
        (deleteCalls (partitionsOf name before) ++ [split.arguments]))) :=
  (yields_connected connected).bind_ok fun middle reaches => by
    have scripted := Display.yields_script_some name ratio
      ((reaches.listing 0).trans (listed _)) ((reaches.listing 1).trans (listed _))
    rw [Display.parentIn_eq_ok_iff.mpr ⟨parent, rebuilt, rfl⟩] at scripted
    exact scripted

end

/-!
### Calls and lines

A script has a line for each call that changes monitors.
-/

/-- The words of a call that changes monitors. -/
def changes (words : List String) : Bool :=
  words.any fun word => word = "--delmonitor" || word = "--setmonitor"

/-- The lines of a shell for the calls of a run that change monitors. -/
def changingLines (finished : Desk) : List String :=
  (finished.session.calls.filter changesMonitors).map fun call => Text.shellLine call.words

/-- The lines are told by the calls that were made. -/
theorem changingLines_eq {finished : Desk} {made : List (List String)}
    (words : finished.session.words = commandLines made) :
    changingLines finished =
      (made.filter fun arguments => changes ("xrandr" :: arguments)).map fun arguments =>
        Text.shellLine ("xrandr" :: arguments) := by
  have filtered : changingLines finished =
      (finished.session.words.filter changes).map Text.shellLine := by
    rw [changingLines, Session.words, List.filter_map, List.map_map]
    rfl
  rw [filtered, words, commandLines, List.filter_map, List.map_map]
  rfl

/-- A call for deletion changes monitors. -/
theorem filter_deleteCalls (monitors : List Monitor) :
    (deleteCalls monitors).filter (fun arguments => changes ("xrandr" :: arguments)) =
      deleteCalls monitors := by
  cases monitors with
  | nil => rfl
  | cons first others => simp [deleteCalls, deleteArguments, changes]

/-- So does one that defines partitions. -/
theorem filter_splitCalls (monitor : Monitor) (ratio : Ratio) :
    (splitCalls (monitor.split ratio)).filter (fun arguments => changes ("xrandr" :: arguments)) =
      splitCalls (monitor.split ratio) := by
  cases result : monitor.split ratio with
  | error cause => rfl
  | ok split =>
      obtain ⟨rest, begins⟩ := Monitor.begins_of_split result
      simp [splitCalls, begins, changes]

/-!
### Rehearsals
-/

/-- The dry run at the second desk ends as the run at the first does, unless that one has to make
a call that cannot be made.  It prints a line for each call of that run which changes monitors, or
nothing but the complaint that the ratio does not fit. -/
structure Rehearses (arguments : List String) (choices : Choices) (operands : List String)
    (desk rehearsal : Desk) : Prop where
  outcome : (run arguments desk).1.outcome ≠ .escaped (.display .embeddedNul) →
    (run ("--dry-run" :: arguments) rehearsal).1.outcome = (run arguments desk).1.outcome
  script : (run arguments desk).1.Succeeds →
    (run ("--dry-run" :: arguments) rehearsal).1.output =
      "\n".intercalate ("#!/bin/sh" :: changingLines (run arguments desk).2) ++ "\n"
  oneLine : ∀ line ∈ changingLines (run arguments desk).2, '\n' ∉ line.toList
  unfit : ∀ monitor cause, ((perform choices operands).run desk).1 =
      .error (.failed (.display (.split (.unfit monitor cause)))) →
    (run ("--dry-run" :: arguments) rehearsal).1.outcome = .exited 1 false ∧
      (run ("--dry-run" :: arguments) rehearsal).1.output = "" ∧
      ∃ message, message = "xrpex: error: " ++ (SplitFailure.unfit monitor cause).message ++ "\n" ∧
        (run arguments desk).1.errors =
          logText (threshold choices) (run arguments desk).2.session.log ++ message ∧
        (run ("--dry-run" :: arguments) rehearsal).1.errors =
          logText (threshold choices) (run ("--dry-run" :: arguments) rehearsal).2.session.log ++
            message

section

variable {arguments : List String} {choices : Choices} {operands : List String}
  {desk rehearsal : Desk}

/-- A run reports what was performed. -/
theorem run_of_performed (accepted : readArguments arguments = .ok (choices, operands))
    {result : Except Stop Unit} {finished : Desk}
    (performed : (perform choices operands).run desk = (result, finished)) :
    run arguments desk =
      ({ outcome := (conclude result).1
         output := finished.printed
         errors := logText (threshold choices) finished.session.log ++ (conclude result).2 },
        finished) := by
  unfold run
  rw [accepted]
  dsimp only
  rw [performed]

/-- A run and a dry run of actions that settle on the same calls, or on the same failure. -/
theorem rehearses_of_settled (accepted : readArguments arguments = .ok (choices, operands))
    (fresh : desk.session.calls = []) (blank : rehearsal.printed = "")
    (settled : Except Display.Failure (List (List String)))
    {action : Action Unit} {plan : List (List String)}
    (performed : (perform choices operands).run desk =
      (inSession action).run (desk.on choices.display))
    (attempts : Attempts action (choices.session desk) plan (settled.map fun _ => ()))
    (shown : ∀ calls, settled = .ok calls →
      plan.filter (fun arguments => changes ("xrandr" :: arguments)) = calls)
    (oneLine : ∀ arguments ∈ plan.filter fun arguments => changes ("xrandr" :: arguments),
      OneLine arguments)
    {dryAction : Action String} {dryPlan : List (List String)}
    (dryPerformed : (perform choices.dry operands).run rehearsal =
      (inSession dryAction >>= print).run (rehearsal.on choices.display))
    (dryYields : Yields dryAction (choices.session rehearsal) dryPlan
      (settled.map Display.renderScript)) :
    Rehearses arguments choices operands desk rehearsal := by
  obtain ⟨actual, ⟨made, final, acted, reaches, planned, complete⟩, either⟩ := attempts
  have words : final.words = commandLines made := by
    rw [reaches.words, Session.words, show (choices.session desk).calls = [] from fresh]
    rfl
  have lines := changingLines_eq
    (show ({ desk with session := final } : Desk).session.words = _ from words)
  have oneLines : ∀ line ∈ changingLines { desk with session := final }, '\n' ∉ line.toList := by
    rw [lines]
    intro line member
    obtain ⟨call, present, rfl⟩ := List.mem_map.mp member
    refine Text.noFeed_shellLine fun word inside => ?_
    rcases List.mem_cons.mp inside with rfl | argument
    · decide
    · exact oneLine call ((planned.filter _).subset present) word argument
  have ran : (perform choices operands).run desk =
      (actual.mapError fun cause => .failed (.display cause), { desk with session := final }) := by
    exact performed.trans (run_inSession (desk.on choices.display) acted)
  have reported := run_of_performed accepted ran
  have oneLineRun : ∀ line ∈ changingLines (run arguments desk).2, '\n' ∉ line.toList := by
    rwa [reported]
  obtain ⟨_, dryFinal, dryActed, -⟩ := dryYields
  have dryActs : (inSession dryAction).run (rehearsal.on choices.display) =
      ((settled.map Display.renderScript).mapError fun cause => .failed (.display cause),
        { rehearsal with session := dryFinal }) :=
    run_inSession (rehearsal.on choices.display) dryActed
  have dryAccepted := readArguments_dry accepted
  rcases either with rfl | rfl
  · exact {
      outcome := fun made => absurd (by rw [reported]; rfl) made
      script := fun success => by
        rw [reported, succeeds_iff] at success
        cases success
      oneLine := oneLineRun
      unfit := fun _ _ ended => by
        rw [ran] at ended
        cases ended }
  cases settled with
  | error cause =>
      have dryReported := run_of_performed dryAccepted
        (dryPerformed.trans (bind_eq_of_error dryActs))
      constructor
      · intro _
        rw [reported, dryReported]
        rfl
      · intro success
        rw [reported, succeeds_iff] at success
        cases success
      · exact oneLineRun
      · intro monitor unfit ended
        rw [ran] at ended
        cases ended
        rw [reported, dryReported]
        exact ⟨rfl, blank, _, rfl, rfl, rfl⟩
  | ok calls =>
      have dryReported := run_of_performed dryAccepted
        (dryPerformed.trans (bind_eq_of_ok dryActs))
      have all : made = plan := complete () rfl
      constructor
      · intro _
        rw [reported, dryReported]
        rfl
      · intro _
        rw [reported, dryReported, lines, all, shown calls rfl, blank]
        simp only [String.empty_append]
        rfl
      · exact oneLineRun
      · intro monitor unfit ended
        rw [ran] at ended
        cases ended

end

/-- A run that can be rehearsed.  It makes a monitor whole, or splits one that is found after
the deletion as it can be found or rebuilt before. -/
inductive Comparable (choices : Choices) (operands : List String) (desk : Desk) : Prop
  | reset {name : String} (mode : choices.mode = .reset)
      (chosen : (chosenMonitor choices).run desk = (.ok name, desk)) :
      Comparable choices operands desk
  | apply {name : String} {ratio : Ratio} {before after : List Monitor} {monitor : Monitor}
      {parent : Found} (mode : choices.mode = .apply)
      (target : Target choices operands desk name ratio)
      (first : (choices.session desk).listing 0 = .ok before)
      (second : (choices.session desk).listing 1 = .ok after)
      (found : find name after = .ok monitor) (rebuilt : findParent name before = .ok parent)
      (alike : monitor.Alike parent.monitor) :
      Comparable choices operands desk

section

variable {arguments : List String} {choices : Choices} {operands : List String} {desk : Desk}

/-- Making a monitor whole is rehearsed by the script that deletes its partitions. -/
theorem rehearses_of_reset (accepted : readArguments arguments = .ok (choices, operands))
    (fresh : desk.session.calls = []) (blank : desk.printed = "") (session : Session)
    (tells : Tells desk.session)
    (connected : (choices.session desk).connection choices.forceVersion = .ok ())
    (dryConnected : (session.on choices.display).connection choices.forceVersion = .ok ())
    (same : ∀ earlier, (session.on choices.display).listing earlier =
      (choices.session desk).listing 0) {name : String}
    (mode : choices.mode = .reset) (chosen : (chosenMonitor choices).run desk = (.ok name, desk)) :
    Rehearses arguments choices operands desk { desk with session } := by
  have answers : Tells (choices.session desk) := tells
  have attempts := attempts_resetMonitor name answers connected
  have dryYields := yields_resetScript name dryConnected
  rw [same] at dryYields
  have reset : choices.dry.reset = true := (switches_of_mode.2.1 mode).2
  have dryChosen : (chosenMonitor choices.dry).run { desk with session } =
      (.ok name, { desk with session }) :=
    (ignoresSession_chosenMonitor choices).run_eq_ok (keeps_chosenMonitor choices) chosen session
  have performed := perform_of_reset operands mode chosen
  have dryPerformed := perform_of_dryRun (mode_dry (.inl mode)) dryChosen
    (run_chosenRatio_of_reset operands reset)
  cases listed : (choices.session desk).listing 0 with
  | error cause =>
      rw [listed] at attempts dryYields
      exact rehearses_of_settled accepted fresh blank (.error cause) performed attempts
        (fun _ settled => by cases settled) (fun _ member => by cases member) dryPerformed dryYields
  | ok monitors =>
      obtain ⟨text, -, read⟩ := Session.listing_eq_ok_iff.mp listed
      rw [listed] at attempts dryYields
      have changing : (versionCall :: listCall :: deleteCalls (partitionsOf name monitors)).filter
          (fun arguments => changes ("xrandr" :: arguments)) =
          deleteCalls (partitionsOf name monitors) := filter_deleteCalls _
      refine rehearses_of_settled accepted fresh blank
        (.ok (deleteCalls (partitionsOf name monitors))) performed attempts
        (fun _ settled => Except.ok.inj settled ▸ changing) ?_ dryPerformed dryYields
      intro arguments member
      exact oneLine_of_mem_deleteCalls read (changing ▸ member)

/-- Splitting a monitor is rehearsed by the script that deletes and defines, since both split
alike. -/
theorem rehearses_of_apply (accepted : readArguments arguments = .ok (choices, operands))
    (fresh : desk.session.calls = []) (blank : desk.printed = "") (session : Session)
    (tells : Tells desk.session)
    (connected : (choices.session desk).connection choices.forceVersion = .ok ())
    (dryConnected : (session.on choices.display).connection choices.forceVersion = .ok ())
    (same : ∀ earlier, (session.on choices.display).listing earlier =
      (choices.session desk).listing 0) {name : String}
    {ratio : Ratio} {before after : List Monitor} {monitor : Monitor} {parent : Found}
    (mode : choices.mode = .apply) (target : Target choices operands desk name ratio)
    (first : (choices.session desk).listing 0 = .ok before)
    (second : (choices.session desk).listing 1 = .ok after)
    (found : find name after = .ok monitor) (rebuilt : findParent name before = .ok parent)
    (alike : monitor.Alike parent.monitor) :
    Rehearses arguments choices operands desk { desk with session } := by
  have answers : Tells (choices.session desk) := tells
  have attempts := attempts_applyMonitor name answers connected ratio first second found
  have dryYields := yields_applyScript name dryConnected ratio
    (fun earlier => (same earlier).trans first) rebuilt
  have same_split : parent.monitor.split = monitor.split :=
    (alike.split_eq ((name_of_find found).trans (name_of_findParent rebuilt).symm)).symm
  rw [same_split] at dryYields
  have dryTarget := target.of_session session
  have changing : (versionCall :: listCall :: (deleteCalls (partitionsOf name before) ++
      listCall :: splitCalls (monitor.split ratio))).filter
        (fun arguments => changes ("xrandr" :: arguments)) =
      deleteCalls (partitionsOf name before) ++ splitCalls (monitor.split ratio) := by
    have others : changes ("xrandr" :: versionCall) = false ∧
        changes ("xrandr" :: listCall) = false := by decide
    simp only [List.filter_cons, others, List.filter_append, filter_deleteCalls, filter_splitCalls,
      Bool.false_eq_true, if_false]
  have goes_on : choices.dry.reset = false := (switches_of_mode.2.2 mode).2
  have performed := perform_of_apply mode target
  have dryPerformed := perform_of_dryRun (mode_dry (.inr mode)) dryTarget.chosen
    (run_chosenRatio_of_target goes_on dryTarget)
  have deletions : ∀ arguments ∈ deleteCalls (partitionsOf name before), OneLine arguments := by
    obtain ⟨_, -, read⟩ := Session.listing_eq_ok_iff.mp first
    exact fun arguments member => oneLine_of_mem_deleteCalls read member
  cases result : monitor.split ratio with
  | error cause =>
      rw [result] at attempts dryYields changing
      refine rehearses_of_settled accepted fresh blank (.error (.split cause)) performed attempts
        (fun _ settled => by cases settled) ?_ dryPerformed dryYields
      rw [changing]
      simpa [splitCalls] using deletions
  | ok split =>
      rw [result] at attempts dryYields changing
      refine rehearses_of_settled accepted fresh blank
        (.ok (deleteCalls (partitionsOf name before) ++ [split.arguments])) performed attempts ?_ ?_
        dryPerformed dryYields
      · intro calls settled
        cases settled
        exact changing
      · obtain ⟨_, -, read⟩ := Session.listing_eq_ok_iff.mp second
        obtain ⟨isWord, outputs⟩ := Listing.isWord_of_mem_monitors read (mem_of_find found)
        rw [changing]
        intro arguments member
        rcases List.mem_append.mp member with deletion | definition
        · exact deletions arguments deletion
        · rw [List.mem_singleton.mp definition]
          exact oneLine_of_split isWord.noFeed
            (fun output given => (outputs output given).noFeed) result

/-- A dry run shows exactly what the run in earnest does: a line for each call that changes
monitors, or the same complaint. -/
theorem dryRun_rehearses_run (accepted : readArguments arguments = .ok (choices, operands))
    (fresh : desk.session.calls = []) (blank : desk.printed = "") (session : Session)
    (tells : Tells desk.session)
    (connected : (choices.session desk).connection choices.forceVersion = .ok ())
    (dryConnected : (session.on choices.display).connection choices.forceVersion = .ok ())
    (same : ∀ earlier, (session.on choices.display).listing earlier =
      (choices.session desk).listing 0)
    (comparable : Comparable choices operands desk) :
    Rehearses arguments choices operands desk { desk with session } := by
  cases comparable with
  | reset mode chosen =>
      exact rehearses_of_reset accepted fresh blank session tells connected dryConnected same mode
        chosen
  | apply mode target first second found rebuilt alike =>
      exact rehearses_of_apply accepted fresh blank session tells connected dryConnected same mode
        target first second found rebuilt alike

end

/-- The session of a dry run: the monitor is listed in columns again and again. -/
def columnsSession : Session where
  replies := [("--version", [.ofText "1.5"]), ("--listmonitors", [.ofText columnsListing])]

/-- The monitor is rebuilt from its columns as it is listed afterwards. -/
theorem columns_comparable : Comparable columnsChoices ["1+1:"] columnsDesk := by
  have first : columnsDesk.session.listing 0 =
      .ok [columnMonitor 0 (some "A"), columnMonitor 2 none] := by
    have told : columnsDesk.session.answer listCall 0 = .ok columnsListing :=
      Session.answer_ofText (by decide) rfl
    exact Session.listing_eq_ok_iff.mpr ⟨_, told, by decide +kernel⟩
  have second : columnsDesk.session.listing 1 = .ok [wholeMonitor] := by
    have told : columnsDesk.session.answer listCall 1 = .ok wholeListing :=
      Session.answer_ofText (by decide) rfl
    exact Session.listing_eq_ok_iff.mpr ⟨_, told, by decide +kernel⟩
  have found : find "A" [wholeMonitor] = .ok wholeMonitor := by decide +kernel
  have rebuilt : findParent "A" [columnMonitor 0 (some "A"), columnMonitor 2 none] =
      .ok { monitor := wholeMonitor, rebuiltFrom := 2 } := by decide +kernel
  exact .apply (by decide) columns_target first second found rebuilt ⟨rfl, rfl, rfl, rfl⟩

theorem columnsDesk_tells : Tells columnsDesk.session := by
  refine tells_of_obliging ?_
  simp [Obliging, columnsDesk, Reply.outcome_ofText]

theorem columnsSession_listing (earlier : Nat) :
    columnsSession.listing earlier = columnsDesk.session.listing 0 := by
  have given (earlier : Nat) : columnsSession.replies.answer "--listmonitors" earlier =
      columnsDesk.session.replies.answer "--listmonitors" 0 := by
    induction earlier with
    | zero => rfl
    | succ earlier inductionHypothesis => exact inductionHypothesis
  exact congrArg (fun reply : Reply => (if columnsSession.accepts listCall then reply.outcome
    else .error .embeddedNul) >>= fun text => (Listing.monitors text).mapError .listing) (given earlier)

theorem columns_rehearsed :
    readArguments ["-m", "A", "1+1:"] = .ok (columnsChoices, ["1+1:"]) ∧
      columnsDesk.session.calls = [] ∧ columnsDesk.printed = "" ∧ Tells columnsDesk.session ∧
      (columnsChoices.session columnsDesk).connection columnsChoices.forceVersion = .ok () ∧
      (columnsSession.on columnsChoices.display).connection columnsChoices.forceVersion = .ok () ∧
      (∀ earlier, (columnsSession.on columnsChoices.display).listing earlier =
        (columnsChoices.session columnsDesk).listing 0) ∧
      Comparable columnsChoices ["1+1:"] columnsDesk ∧
      Rehearses ["-m", "A", "1+1:"] columnsChoices ["1+1:"] columnsDesk
        { columnsDesk with session := columnsSession } := by
  have accepted : readArguments ["-m", "A", "1+1:"] = .ok (columnsChoices, ["1+1:"]) := by decide
  -- both desks have the same reply to the call for the version
  have dryConnected : columnsSession.connection false = .ok () := columnsDesk_connected
  exact ⟨accepted, rfl, rfl, columnsDesk_tells, columnsDesk_connected, dryConnected,
    columnsSession_listing, columns_comparable, dryRun_rehearses_run accepted rfl rfl columnsSession
      columnsDesk_tells columnsDesk_connected dryConnected columnsSession_listing columns_comparable⟩

end MonitorSplit.CommandLine
