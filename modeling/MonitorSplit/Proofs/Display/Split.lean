/-
Module: MonitorSplit.Proofs.Display.Split
Purpose: What listing, finding, deleting and defining monitors calls for, and what it comes to.
Main exports:
  listCall, deleteCalls, splitCalls, Session.listing, yields_listMonitors, yields_reset,
  yields_apply, follows_script, yields_script_some
-/
import MonitorSplit.Display.Split
import MonitorSplit.Proofs.Display.Trace
import MonitorSplit.Proofs.Ratio.Pairing

namespace MonitorSplit.Display

/-!
### Finding monitors

Of all replies only those to the listing tell anything; the others are read for their
status alone.
-/

/-- The call that lists the monitors. -/
def listCall : List String := ["--listmonitors"]

/-- The call that deletes some monitors, if there are any. -/
def deleteCalls (monitors : List Monitor) : List (List String) :=
  if monitors = [] then [] else [deleteArguments monitors]

theorem deleteCalls_eq (monitors : List Monitor) :
    deleteCalls monitors =
      if deleteArguments monitors = [] then [] else [deleteArguments monitors] := by
  cases monitors with
  | nil => rfl
  | cons first others => simp [deleteCalls, deleteArguments]

/-- The monitors listed after so many earlier listings. -/
def Session.listing (session : Session) (earlier : Nat) : Except Failure (List Monitor) :=
  session.answer listCall earlier >>= fun text => (Listing.monitors text).mapError .listing

/-- There is a listing just if the tool gives a text of which all numbers can be read. -/
theorem Session.listing_eq_ok_iff {session : Session} {earlier : Nat} {monitors : List Monitor} :
    session.listing earlier = .ok monitors ↔
      ∃ text, session.answer listCall earlier = .ok text ∧ Listing.monitors text = .ok monitors := by
  simp only [listing, bind_eq_ok_iff, mapError_eq_ok_iff]

theorem Session.Reaches.listing {before after : Session} {made : List (List String)}
    (reaches : before.Reaches after made) (earlier : Nat) :
    after.listing earlier =
      before.listing (earlier + made.countP (verbOf · = "--listmonitors")) := by
  rw [Session.listing, Session.listing, reaches.answer]
  rfl

section

variable {before : Session}

theorem yields_listMonitors (before : Session) :
    Yields listMonitors before [listCall] (before.listing 0) :=
  (yields_call listCall before).bind fun _ session _ _ =>
    (yields_record _ session).bind_ok fun session _ => yields_orFail .listing _ session

/-- What the monitor of a name is found to be. -/
def foundIn (name : String) (monitors : List Monitor) : Except Failure Monitor :=
  (find name monitors).mapError .find

/-- What the monitor of a name is found to be, or is rebuilt as. -/
def parentIn (name : String) (monitors : List Monitor) : Except Failure Monitor :=
  (findParent name monitors).mapError .find >>= fun found => .ok found.monitor

theorem yields_findMonitor (name : String) (before : Session) :
    Yields (findMonitor name) before [listCall] (before.listing 0 >>= foundIn name) :=
  (yields_listMonitors before).bind fun _ session _ _ => yields_orFail .find _ session

theorem yields_findParentMonitor (name : String) (before : Session) :
    Yields (findParentMonitor name) before [listCall] (before.listing 0 >>= parentIn name) :=
  (yields_listMonitors before).bind fun _ session _ _ =>
    (yields_orFail .find _ session).bind fun found session _ _ =>
      (yields_record _ session).bind_ok fun session _ => yields_pure found.monitor session

theorem yields_listPartitions (parent : String) (before : Session) :
    Yields (listPartitions parent) before [listCall]
      (before.listing 0 >>= fun monitors => .ok (partitionsOf parent monitors)) :=
  (yields_listMonitors before).bind fun _ session _ _ => yields_pure _ session

/-!
### Deleting and defining monitors
-/

/-- A call made for its effect alone comes to nothing but its failure. -/
theorem yields_call_unit (arguments : List String) (before : Session) :
    Yields (do let _ ← call arguments; return ()) before [arguments]
      (before.answer arguments 0 >>= fun _ => .ok ()) :=
  (yields_call arguments before).bind fun _ session _ _ => yields_pure () session

/-- What deleting some monitors comes to. -/
def Session.deletion (session : Session) (monitors : List Monitor) : Except Failure Unit :=
  if monitors = [] then .ok ()
  else session.answer (deleteArguments monitors) 0 >>= fun _ => .ok ()

theorem yields_delete (monitors : List Monitor) (before : Session) :
    Yields (perform (deleteArguments monitors)) before (deleteCalls monitors)
      (before.deletion monitors) := by
  cases monitors with
  | nil => exact yields_pure () before
  | cons first others => exact yields_call_unit (deleteArguments (first :: others)) before

/-- Other calls do not use up the reply to a deletion. -/
theorem Session.Reaches.deletion {after : Session} {made : List (List String)}
    (reaches : before.Reaches after made) (others : made.countP (verbOf · = "--delmonitor") = 0)
    (monitors : List Monitor) : after.deletion monitors = before.deletion monitors := by
  cases monitors with
  | nil => rfl
  | cons first rest =>
      unfold Session.deletion
      rw [reaches.answer, show verbOf (deleteArguments (first :: rest)) = "--delmonitor" from rfl,
        others]

theorem yields_reset (parent : String) {monitors : List Monitor}
    (listed : before.listing 0 = .ok monitors) :
    Yields (reset parent) before (listCall :: deleteCalls (partitionsOf parent monitors))
      (before.deletion (partitionsOf parent monitors) >>= fun _ =>
        .ok (partitionsOf parent monitors)) := by
  have found : Yields (listPartitions parent) before [listCall]
      (.ok (partitionsOf parent monitors)) := by
    have partitions := yields_listPartitions parent before
    rwa [listed] at partitions
  have all : Yields (reset parent) before
      ([listCall] ++ (deleteCalls (partitionsOf parent monitors) ++ []))
      (before.deletion (partitionsOf parent monitors) >>= fun _ =>
        .ok (partitionsOf parent monitors)) := by
    refine found.bind_ok fun session reaches => ?_
    rw [← reaches.deletion rfl]
    exact (yields_delete _ session).bind fun _ session _ _ =>
      (yields_record _ session).bind_ok fun session _ => yields_pure _ session
  rw [List.append_nil] at all
  exact all

/-- The calls that delete the listed partitions of a parent. -/
def deletionsOf (parent : String) : Except Failure (List Monitor) → List (List String)
  | .ok monitors => deleteCalls (partitionsOf parent monitors)
  | .error _ => []

/-- No deletion counts as a listing. -/
theorem countP_deletionsOf (parent : String) (listing : Except Failure (List Monitor)) :
    (listCall :: deletionsOf parent listing).countP (verbOf · = "--listmonitors") = 1 := by
  cases listing with
  | error cause => rfl
  | ok monitors =>
      rw [deletionsOf]
      cases partitionsOf parent monitors with
      | nil => rfl
      | cons first others => simp [deleteCalls, deleteArguments, listCall, verbOf]

theorem foundIn_eq_ok_iff {name : String} {listing : Except Failure (List Monitor)}
    {monitor : Monitor} :
    (listing >>= foundIn name) = .ok monitor ↔
      ∃ monitors, listing = .ok monitors ∧ find name monitors = .ok monitor := by
  simp only [foundIn, bind_eq_ok_iff, mapError_eq_ok_iff]

theorem parentIn_eq_ok_iff {name : String} {monitors : List Monitor} {monitor : Monitor} :
    parentIn name monitors = .ok monitor ↔
      ∃ found, findParent name monitors = .ok found ∧ found.monitor = monitor := by
  simp only [parentIn, bind_eq_ok_iff, mapError_eq_ok_iff, Except.ok.injEq]

/-- Without a listing nothing is deleted. -/
theorem yields_reset_of_error (parent : String) {cause : Failure}
    (unlisted : before.listing 0 = .error cause) :
    Yields (reset parent) before [listCall] (.error cause) := by
  have found := yields_listPartitions parent before
  rw [unlisted] at found
  exact found.bind_error

theorem follows_reset (parent : String) (before : Session) :
    Follows (reset parent) before (listCall :: deletionsOf parent (before.listing 0))
      (fun _ => ∃ monitors, before.listing 0 = .ok monitors ∧
        before.deletion (partitionsOf parent monitors) = .ok ()) := by
  cases listed : before.listing 0 with
  | error cause =>
      exact (yields_reset_of_error parent listed).follows.imp fun _ succeeds => by cases succeeds
  | ok monitors =>
      refine (yields_reset parent listed).follows.imp fun _ succeeds => ⟨monitors, rfl, ?_⟩
      obtain ⟨_, deleted, -⟩ := bind_eq_ok_iff.mp succeeds
      exact deleted

theorem yields_splitArguments (monitor : Monitor) (ratio : Ratio) (before : Session) :
    Yields (splitArguments monitor ratio) before []
      ((monitor.split ratio).mapError .split >>= fun split => .ok split.arguments) :=
  (yields_record _ before).bind_ok fun session _ =>
    (yields_orFail .split _ session).bind fun split session _ _ =>
      (yields_record _ session).bind_ok fun session _ => yields_pure split.arguments session

/-- The calls that define the partitions of a split, one or none. -/
def splitCalls (result : Except SplitFailure Split) : List (List String) :=
  match result with
  | .ok split => [split.arguments]
  | .error _ => []

/-- A split that fails is not called for. -/
theorem yields_apply (monitor : Monitor) (ratio : Ratio) (before : Session) :
    Yields (apply monitor ratio) before (splitCalls (monitor.split ratio))
      ((monitor.split ratio).mapError .split >>= fun split =>
        before.answer split.arguments 0 >>= fun _ => .ok ()) := by
  have prepared := yields_splitArguments monitor ratio before
  cases result : monitor.split ratio with
  | error cause =>
      rw [result] at prepared
      exact prepared.bind_error
  | ok split =>
      rw [result] at prepared
      have called : Yields (splitArguments monitor ratio) before [] (.ok split.arguments) := prepared
      refine called.bind_ok fun session reaches => ?_
      have defined := yields_call_unit split.arguments session
      rwa [reaches.answer] at defined

/-- The definitions may be said in advance, if they are those of the split. -/
theorem follows_apply (monitor : Monitor) (ratio : Ratio) {definitions : List (List String)}
    (agrees : ∀ split, monitor.split ratio = .ok split → definitions = [split.arguments])
    (before : Session) :
    Follows (apply monitor ratio) before definitions
      (fun _ => ∃ split, monitor.split ratio = .ok split) := by
  have applied := yields_apply monitor ratio before
  cases result : monitor.split ratio with
  | error cause =>
      rw [result] at applied
      obtain ⟨made, after, ran, reaches, planned, -⟩ := applied
      exact ⟨.error (.split cause), ⟨made, after, ran, reaches, planned.trans List.nil_prefix,
        fun _ succeeds => by cases succeeds⟩, fun _ succeeds => by cases succeeds⟩
  | ok split =>
      rw [result] at applied
      rw [agrees split result]
      exact applied.follows.imp fun _ _ => ⟨split, rfl⟩

/-!
### The script

The script lists the monitors once to delete the partitions and once more to find the
monitor to split.  It calls for nothing else.
-/

/-- The listing calls that a script is made from. -/
def scriptCalls : Option Ratio → List (List String)
  | none => [listCall]
  | some _ => [listCall, listCall]

theorem follows_scriptedSplit (parent : String) (ratio : Ratio) (before : Session) :
    Follows (scriptedSplit parent (some ratio)) before [listCall] (fun _ => True) :=
  (yields_findParentMonitor parent before).follows.bind fun monitor session _ _ =>
    (yields_splitArguments monitor ratio session).follows.bind fun arguments session _ _ =>
      (follows_pure [arguments] session).imp fun _ _ => trivial

theorem follows_script (parent : String) (ratio : Option Ratio) (before : Session) :
    Follows (script parent ratio) before (scriptCalls ratio) (fun _ => True) := by
  have partitions := (yields_listPartitions parent before).follows
  cases ratio with
  | none =>
      exact partitions.bind fun _ session _ _ =>
        (follows_pure [] session).bind fun _ session _ _ =>
          (follows_pure _ session).imp fun _ _ => trivial
  | some ratio =>
      exact partitions.bind fun _ session _ _ =>
        (follows_scriptedSplit parent ratio session).bind fun _ session _ _ =>
          (follows_pure _ session).imp fun _ _ => trivial

/-- The script that only deletes partitions. -/
theorem yields_script_none (parent : String) (before : Session) :
    Yields (script parent none) before [listCall]
      (before.listing 0 >>= fun monitors =>
        .ok (renderScript (deleteCalls (partitionsOf parent monitors)))) := by
  have listed : Yields (script parent none) before [listCall]
      ((before.listing 0 >>= fun monitors => .ok (partitionsOf parent monitors)) >>=
        fun partitions => .ok (renderScript (deleteCalls partitions ++ []))) :=
    (yields_listPartitions parent before).bind fun partitions session _ _ =>
      (yields_pure [] session).bind_ok fun session _ => by
        rw [deleteCalls_eq]
        exact yields_pure _ session
  simp only [bind_assoc, List.append_nil] at listed
  exact listed

/-- The definitions of a script are those of the parent that is found or rebuilt. -/
theorem yields_scriptedSplit (parent : String) (ratio : Ratio) (before : Session) :
    Yields (scriptedSplit parent (some ratio)) before [listCall]
      ((before.listing 0 >>= parentIn parent) >>= fun monitor =>
        ((monitor.split ratio).mapError .split >>= fun split => .ok split.arguments) >>=
          fun arguments => .ok [arguments]) :=
  (yields_findParentMonitor parent before).bind fun monitor session _ _ =>
    (yields_splitArguments monitor ratio session).bind fun arguments session _ _ =>
      yields_pure [arguments] session

/-- The script that deletes partitions and splits the parent that is found or rebuilt. -/
theorem yields_script_some (parent : String) (ratio : Ratio) {monitors listed : List Monitor}
    (first : before.listing 0 = .ok monitors) (second : before.listing 1 = .ok listed) :
    Yields (script parent (some ratio)) before [listCall, listCall]
      (parentIn parent listed >>= fun monitor => (monitor.split ratio).mapError .split >>=
        fun split => .ok (renderScript
          (deleteCalls (partitionsOf parent monitors) ++ [split.arguments]))) := by
  have found : Yields (listPartitions parent) before [listCall]
      (.ok (partitionsOf parent monitors)) := by
    have partitions := yields_listPartitions parent before
    rwa [first] at partitions
  have all : Yields (script parent (some ratio)) before ([listCall] ++ ([listCall] ++ []))
      ((parentIn parent listed >>= fun monitor =>
        ((monitor.split ratio).mapError .split >>= fun split => .ok split.arguments) >>=
          fun arguments => .ok [arguments]) >>= fun splits =>
        .ok (renderScript (deleteCalls (partitionsOf parent monitors) ++ splits))) := by
    refine found.bind_ok fun session reaches => ?_
    have splits := yields_scriptedSplit parent ratio session
    rw [show session.listing 0 = .ok listed from (reaches.listing 0).trans second] at splits
    rw [deleteCalls_eq]
    exact splits.bind fun arguments session _ _ => yields_pure _ session
  simp only [bind_assoc] at all
  exact all

end

end MonitorSplit.Display
