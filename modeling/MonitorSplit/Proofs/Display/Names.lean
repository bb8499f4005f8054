/-
Module: MonitorSplit.Proofs.Display.Names
Purpose: Which monitors the calls of an action delete and define, by their names.
Main exports:
  Change, changesIn, changesMade, changesMade_reset, changesMade_apply, nodup_names_iff,
  accepts_deleteArguments_iff, partitions_kept_apart, partition_outlasts_long_line
-/
import MonitorSplit.Proofs.Display.Split
import MonitorSplit.Proofs.Monitor.Names
import MonitorSplit.Proofs.Monitor.Plane
import MonitorSplit.Proofs.Ratio.Positions

namespace MonitorSplit.Display

/-!
### Changes

The tool reads its arguments from the front: a deletion takes a name with it, and a definition
takes a name, a geometry and an output.  So a name is never mistaken for an option, whatever it
looks like.
-/

/-- What a call is to do to one monitor. -/
inductive Change where
  | delete (name : String)
  | define (name geometry output : String)
deriving DecidableEq, Repr, Inhabited

/-- The name of the monitor that is deleted or defined. -/
def Change.name : Change → String
  | .delete name => name
  | .define name _ _ => name

/-- The changes that the arguments of a call ask for, in order. -/
def changesIn : List String → List Change
  | "--delmonitor" :: name :: rest => .delete name :: changesIn rest
  | "--setmonitor" :: name :: geometry :: output :: rest =>
      .define name geometry output :: changesIn rest
  | _ => []

/-- The change that defines a partition. -/
def Change.ofPartition (part : Partition) : Change :=
  .define part.name part.geometry.render part.output

theorem changesIn_deleteArguments (monitors : List Monitor) :
    changesIn (deleteArguments monitors) = monitors.map (Change.delete ·.name) := by
  induction monitors with
  | nil => rfl
  | cons first others inductionHypothesis =>
      rw [List.map_cons, ← inductionHypothesis]
      rfl

theorem changesIn_arguments (split : Split) :
    changesIn split.arguments = split.partitions.map Change.ofPartition := by
  unfold Split.arguments
  induction split.partitions with
  | nil => rfl
  | cons first others inductionHypothesis =>
      rw [List.map_cons, ← inductionHypothesis]
      rfl

/-- The command lines that an action adds to the record of calls. -/
def callsMade {α : Type} (action : Action α) (before : Session) : List (List String) :=
  (action before).2.words.drop before.words.length

/-- The changes that an action asks the tool for, in all of its calls. -/
def changesMade {α : Type} (action : Action α) (before : Session) : List Change :=
  (callsMade action before).flatMap fun words => changesIn words.tail

/-- The changes of an action are those that its calls ask for. -/
theorem Session.Reaches.changesMade {α : Type} {action : Action α} {before : Session}
    {made : List (List String)} (reaches : before.Reaches (action before).2 made) :
    changesMade action before = made.flatMap changesIn := by
  have calls : callsMade action before = commandLines made := by
    rw [callsMade, reaches.words, List.drop_left]
  rw [Display.changesMade, calls, commandLines, List.flatMap_map]
  rfl

/-!
### What deleting and defining change
-/

theorem changesIn_listCall : changesIn listCall = [] := rfl

theorem flatMap_changesIn_deleteCalls (monitors : List Monitor) :
    (deleteCalls monitors).flatMap changesIn = monitors.map (Change.delete ·.name) := by
  cases monitors with
  | nil => rfl
  | cons first others =>
      rw [deleteCalls, if_neg (List.cons_ne_nil first others), List.flatMap_singleton,
        changesIn_deleteArguments]

/-- Deletions are called for at once, if the tool can be told all of their names. -/
theorem reaches_delete (monitors : List Monitor) (before : Session) :
    before.Reaches (perform (deleteArguments monitors) before).2
      (if before.accepts (deleteArguments monitors) then deleteCalls monitors else []) := by
  cases monitors with
  | nil =>
      rw [show deleteCalls [] = [] from rfl, ite_self]
      exact (yields_pure () before).silent
  | cons first others =>
      exact reaches_bind_silent (reaches_call (deleteArguments (first :: others)) before)
        fun _ session => (yields_pure () session).silent

/-- Making a monitor whole deletes the listed partitions of its name and changes nothing else, if
the tool can be told all of their names. -/
theorem changesMade_reset (parent : String) {before : Session} {monitors : List Monitor}
    (listed : before.listing 0 = .ok monitors) :
    changesMade (reset parent) before =
      if before.accepts (deleteArguments (partitionsOf parent monitors)) then
        (partitionsOf parent monitors).map (Change.delete ·.name)
      else [] := by
  have found := yields_listPartitions parent before
  rw [listed] at found
  obtain ⟨middle, ran, reaches⟩ := found.reaches
  have accepts := congrFun reaches.accepts (deleteArguments (partitionsOf parent monitors))
  have deletes := reaches_delete (partitionsOf parent monitors) middle
  rw [accepts] at deletes
  have all : before.Reaches (reset parent before).2
      ([listCall] ++ if before.accepts (deleteArguments (partitionsOf parent monitors)) then
        deleteCalls (partitionsOf parent monitors) else []) := by
    rw [reset, bind_eq_of_ok ran]
    refine reaches.trans (reaches_bind_silent deletes fun _ session => ?_)
    exact ((yields_record _ session).bind_ok fun session _ => yields_pure _ session).silent
  rw [all.changesMade, List.flatMap_append, List.flatMap_singleton, changesIn_listCall,
    List.nil_append]
  split
  · exact flatMap_changesIn_deleteCalls _
  · rfl

/-- Without a listing nothing is changed. -/
theorem changesMade_reset_of_error (parent : String) {before : Session} {cause : Failure}
    (unlisted : before.listing 0 = .error cause) : changesMade (reset parent) before = [] := by
  obtain ⟨made, after, ran, reaches, planned, -⟩ := yields_reset_of_error parent unlisted
  have all : before.Reaches (reset parent before).2 made := by rwa [ran]
  rw [all.changesMade, List.flatMap_eq_nil_iff]
  intro arguments member
  rw [List.mem_singleton.mp (planned.subset member), changesIn_listCall]

/-- Splitting a monitor defines the partitions of the split, if the tool can be told of them. -/
theorem changesMade_apply {monitor : Monitor} {ratio : Ratio} {split : Split}
    (success : monitor.split ratio = .ok split) (before : Session) :
    changesMade (apply monitor ratio) before =
      if before.accepts split.arguments then split.partitions.map Change.ofPartition else [] := by
  have prepared := yields_splitArguments monitor ratio before
  rw [success] at prepared
  obtain ⟨middle, ran, reaches⟩ := prepared.reaches
  have defines : middle.Reaches ((call split.arguments >>= fun _ => pure ()) middle).2
      (if middle.accepts split.arguments then [split.arguments] else []) :=
    reaches_bind_silent (reaches_call split.arguments middle)
      fun _ session => (yields_pure () session).silent
  rw [congrFun reaches.accepts split.arguments] at defines
  have all : before.Reaches (apply monitor ratio before).2
      ([] ++ if before.accepts split.arguments then [split.arguments] else []) := by
    rw [apply, bind_eq_of_ok ran]
    exact reaches.trans defines
  rw [all.changesMade, List.nil_append]
  split
  · rw [List.flatMap_singleton, changesIn_arguments]
  · rfl

/-- A monitor that cannot be split is left as it is. -/
theorem changesMade_apply_of_error {monitor : Monitor} {ratio : Ratio} {cause : SplitFailure}
    (failure : monitor.split ratio = .error cause) (before : Session) :
    changesMade (apply monitor ratio) before = [] := by
  have applied := yields_apply monitor ratio before
  rw [failure] at applied
  exact (applied.silent).changesMade

/-!
### Names that differ

The name of a partition tells where it begins, so two partitions of one split share a name
exactly if they begin at the same place.
-/

section

variable {monitor : Monitor} {ratio : Ratio} {split : Split} {solution : Solution}

/-- The names of partitions are made from the positions of their cells. -/
theorem names_of_split (solved : ratio.solve monitor.resolution = .ok solution)
    (success : monitor.split ratio = .ok split) :
    split.partitions.map (·.name) =
      (solution.pixelCells.map Cell.position).map fun position =>
        partitionName monitor.name (planePair position).1 (planePair position).2 := by
  rw [List.map_map]
  refine List.forall₂_eq_eq_eq ▸ List.forall₂_map_left_iff.mpr (List.forall₂_map_right_iff.mpr ?_)
  refine (Monitor.forall₂_of_split solved success).1.flip.imp fun part cell makes => ?_
  obtain ⟨output, -, made⟩ := makes
  obtain ⟨_, _, -, -, rfl, -⟩ := Monitor.partition_eq_ok_iff.mp made
  rfl

/-- Partitions of a plane have different names exactly if their cells begin at different
places. -/
theorem nodup_names_iff_positions (plane : monitor.resolution.dimensions = 2)
    (solved : ratio.solve monitor.resolution = .ok solution)
    (success : monitor.split ratio = .ok split) :
    (split.partitions.map (·.name)).Nodup ↔ (solution.pixelCells.map Cell.position).Nodup := by
  rw [names_of_split solved success]
  constructor
  · exact List.Nodup.of_map _
  · intro different
    refine different.map_on fun position member other otherMember same => ?_
    obtain ⟨cell, listed, rfl⟩ := List.mem_map.mp member
    obtain ⟨otherCell, otherListed, rfl⟩ := List.mem_map.mp otherMember
    obtain ⟨-, left, top⟩ := partitionName_inj.mp same
    rw [Ratio.position_of_mem_pixelCells solved plane listed,
      Ratio.position_of_mem_pixelCells solved plane otherListed, left, top]

end

theorem exists_of_splitArguments {monitor : Monitor} {ratio : Ratio} {before after : Session}
    {arguments : List String}
    (success : splitArguments monitor ratio before = (.ok arguments, after)) :
    ∃ split, monitor.split ratio = .ok split ∧ arguments = split.arguments := by
  have outcome := (yields_splitArguments monitor ratio before).outcome_eq
  rw [success] at outcome
  obtain ⟨split, made, same⟩ := bind_eq_ok_iff.mp outcome.symm
  exact ⟨split, mapError_eq_ok_iff.mp made, (Except.ok.inj same).symm⟩

/-- The names that a split gives differ exactly if on every axis all solved addends but the last
are positive.  So an addend of zero, known or solved for, that is not the last makes two
definitions share a name. -/
theorem nodup_names_iff {monitor : Monitor} {ratio : Ratio} {before after : Session}
    {arguments : List String} (positive : monitor.resolution.Positive)
    (nonneg : ratio.KnownNonneg) (plane : ratio.dimensions = 2)
    (success : splitArguments monitor ratio before = (.ok arguments, after)) :
    ∃ solution, ratio.solve monitor.resolution = .ok solution ∧
      (((changesIn arguments).map Change.name).Nodup ↔
        ∀ sum ∈ solution.solved.sums, sum.Advances) := by
  obtain ⟨split, made, rfl⟩ := exists_of_splitArguments success
  obtain ⟨solution, solved, -, -⟩ := Monitor.exists_of_split made
  have solved_nonneg := SolvedRatio.nonneg_of_knownNonneg nonneg positive solved
  have resolution : monitor.resolution.dimensions = 2 :=
    (Ratio.dimensions_of_solve solved).trans plane
  refine ⟨solution, solved, ?_⟩
  rw [changesIn_arguments, List.map_map, ← Solution.nodup_positions_iff solved solved_nonneg]
  exact nodup_names_iff_positions resolution solved made

/-- A monitor of ten by twelve pixels. -/
def smallMonitor : Monitor where
  name := "A-1"
  resolution := .plane 10 12

/-- Its first column takes no width, so the second begins at the same place. -/
theorem smallMonitor_nodup_names_iff :
    smallMonitor.resolution.Positive ∧ Ratio.unevenColumns.KnownNonneg ∧
      Ratio.unevenColumns.dimensions = 2 ∧
      ∃ arguments after,
        splitArguments smallMonitor Ratio.unevenColumns {} = (.ok arguments, after) ∧
        ∃ solution, Ratio.unevenColumns.solve smallMonitor.resolution = .ok solution ∧
          (((changesIn arguments).map Change.name).Nodup ↔
            ∀ sum ∈ solution.solved.sums, sum.Advances) := by
  have positive : smallMonitor.resolution.Positive := by decide
  have nonneg : Ratio.unevenColumns.KnownNonneg := by decide
  have made := yields_splitArguments smallMonitor Ratio.unevenColumns {}
  have success : ∃ split, smallMonitor.split Ratio.unevenColumns = .ok split :=
    ⟨_, by cbv⟩
  obtain ⟨split, splits⟩ := success
  rw [splits] at made
  obtain ⟨after, made, -⟩ := made.reaches
  exact ⟨positive, nonneg, rfl, split.arguments, after, made,
    nodup_names_iff positive nonneg rfl made⟩

/-!
### Parents kept apart
-/

/-- The name begins with that of the parent and the mark. -/
def Marked (parent name : String) : Prop := (parent ++ partitionMark).toList <+: name.toList

instance (parent name : String) : Decidable (Marked parent name) :=
  inferInstanceAs (Decidable (_ <+: _))

theorem isPartitionName_iff_marked {name parent : String} :
    isPartitionName name parent = true ↔ Marked parent name := by
  rw [isPartitionName, List.isPrefixOf_iff_prefix, Marked]

/-- A partition that is deleted belongs to the parent, or to one that has the parent's mark. -/
theorem parent_of_mem_changesMade_reset {parent other : String} {before : Session} {x y : Int}
    {change : Change} (member : change ∈ changesMade (reset parent) before)
    (named : change.name = partitionName other x y) : other = parent ∨ Marked parent other := by
  cases listed : before.listing 0 with
  | error cause =>
      rw [changesMade_reset_of_error parent listed] at member
      cases member
  | ok monitors =>
      rw [changesMade_reset parent listed] at member
      split at member
      · obtain ⟨monitor, partition, rfl⟩ := List.mem_map.mp member
        have found : monitor.isPartitionOf parent = true := (List.mem_filter.mp partition).2
        rw [Monitor.isPartitionOf, show monitor.name = partitionName other x y from named] at found
        exact (isPartitionName_partitionName_iff.mp found).imp_right isPartitionName_iff_marked.mp
      · cases member

/-- A partition that is defined belongs to the monitor that is split. -/
theorem exists_of_mem_changesMade_apply {monitor : Monitor} {ratio : Ratio} {before : Session}
    {change : Change} (member : change ∈ changesMade (apply monitor ratio) before) :
    ∃ x y, change.name = partitionName monitor.name x y := by
  cases success : monitor.split ratio with
  | error cause =>
      rw [changesMade_apply_of_error success] at member
      cases member
  | ok split =>
      rw [changesMade_apply success] at member
      split at member
      · obtain ⟨part, listed, rfl⟩ := List.mem_map.mp member
        obtain ⟨cell, output, -, made⟩ := Monitor.exists_of_mem_partitions success listed
        obtain ⟨_, _, -, -, rfl, -⟩ := Monitor.partition_eq_ok_iff.mp made
        exact ⟨_, _, rfl⟩
      · cases member

/-- A tool that has been asked for a listing can be told to delete monitors unless the name of one
holds the character of number zero, which only a stand-in takes. -/
theorem accepts_deleteArguments_iff {session : Session} (started : session.accepts listCall = true)
    {monitors : List Monitor} :
    session.accepts (deleteArguments monitors) = true ↔
      session.tool = .standIn ∨ ∀ monitor ∈ monitors, Char.ofNat 0 ∉ monitor.name.toList := by
  unfold Session.accepts at started ⊢
  generalize session.tool = tool at started ⊢
  cases tool with
  | standIn => simp [Tool.accepts]
  | process =>
      simp only [Tool.accepts, List.all_cons, Bool.and_eq_true] at started
      have display : Char.ofNat 0 ∉ session.display.toList := by simpa using started.1
      simp [Tool.accepts, deleteArguments, display]

/-- Every listed partition of a parent is deleted, if the tool can be told their names. -/
theorem delete_mem_changesMade_reset_iff {parent : String} {before : Session}
    {monitors : List Monitor} (listed : before.listing 0 = .ok monitors) {monitor : Monitor}
    (member : monitor ∈ monitors) (isPartition : monitor.isPartitionOf parent = true) :
    .delete monitor.name ∈ changesMade (reset parent) before ↔
      before.tool = .standIn ∨
        ∀ part ∈ partitionsOf parent monitors, Char.ofNat 0 ∉ part.name.toList := by
  obtain ⟨text, told, -⟩ := Session.listing_eq_ok_iff.mp listed
  have part : monitor ∈ partitionsOf parent monitors :=
    List.mem_filter.mpr ⟨member, isPartition⟩
  rw [changesMade_reset parent listed,
    ← accepts_deleteArguments_iff (Session.answer_eq_ok_iff.mp told).1]
  split
  · exact iff_of_true (List.mem_map_of_mem part) ‹_›
  · exact iff_of_false List.not_mem_nil ‹_›

/-- A partition's name tells its parent and its place, and a parent's mark finds the partitions
of that parent and of parents which have the mark in their own names.  So neither making a parent
whole nor splitting it changes a partition of any other parent.  Whatever splitting it defined is
deleted again if it is listed, but only if the whole listing can be read and the names of all
partitions can be told to the tool. -/
theorem partitions_kept_apart (parent : String) :
    (∀ other x y x' y', partitionName parent x y = partitionName other x' y' →
      parent = other ∧ x = x' ∧ y = y') ∧
    (∀ (monitor : Monitor) other x y, monitor.name = partitionName other x y →
      (monitor.isPartitionOf parent = true ↔ other = parent ∨ Marked parent other)) ∧
    (∀ other, other ≠ parent → ¬ Marked parent other → ∀ before,
      (∀ change ∈ changesMade (reset parent) before, ∀ x y,
        change.name ≠ partitionName other x y) ∧
      ∀ (monitor : Monitor) ratio, monitor.name = parent →
        ∀ change ∈ changesMade (apply monitor ratio) before, ∀ x y,
          change.name ≠ partitionName other x y) ∧
    (∀ (monitor : Monitor) ratio before, monitor.name = parent →
      ∀ change ∈ changesMade (apply monitor ratio) before,
        ∀ (later : Session) monitors, later.listing 0 = .ok monitors →
          ∀ listed ∈ monitors, listed.name = change.name →
            (.delete listed.name ∈ changesMade (reset parent) later ↔
              later.tool = .standIn ∨
                ∀ part ∈ partitionsOf parent monitors, Char.ofNat 0 ∉ part.name.toList)) ∧
    ∀ (later : Session) cause, later.listing 0 = .error cause →
      changesMade (reset parent) later = [] := by
  refine ⟨?_, ?_, ?_, ?_, ?_⟩
  · exact fun _ _ _ _ _ => partitionName_inj.mp
  · intro monitor other x y named
    rw [Monitor.isPartitionOf, named, isPartitionName_partitionName_iff, isPartitionName_iff_marked]
  · intro other differs unmarked before
    constructor
    · intro change member x y named
      exact (parent_of_mem_changesMade_reset member named).elim differs unmarked
    · rintro monitor ratio rfl change member x y named
      obtain ⟨_, _, own⟩ := exists_of_mem_changesMade_apply member
      exact differs (partitionName_inj.mp (named.symm.trans own)).1
  · rintro monitor ratio before rfl change member later monitors told listed present same
    obtain ⟨x, y, named⟩ := exists_of_mem_changesMade_apply member
    refine delete_mem_changesMade_reset_iff told present ?_
    rw [Monitor.isPartitionOf, same, named]
    exact Monitor.isPartitionName_partitionName _ _ _
  · exact fun _ _ unlisted => changesMade_reset_of_error parent unlisted

/-- The last partition that splitting the small monitor defines, as it is listed. -/
def smallEntry : Listing.Entry where
  index := 0
  name := "A-1-XRPEX-8-6"
  geometry := { width := 2, widthMm := 0, height := 6, heightMm := 0, x := 8, y := 6 }

/-- A monitor of a width with one digit too many. -/
def longEntry : Listing.Entry where
  index := 1
  name := "B"
  geometry := { width := longest + 1, widthMm := 1, height := 1, heightMm := 1, x := 0, y := 0 }

/-- A session in which some entries are listed. -/
def listingSession (entries : List Listing.Entry) : Session where
  replies := [("--listmonitors", [.ofText (Listing.text entries)])]

theorem listingSession_answer (entries : List Listing.Entry) :
    (listingSession entries).answer listCall 0 = .ok (Listing.text entries) := by
  have accepted : Tool.process.accepts (ownDisplay :: listCall) = true := by decide
  exact Session.answer_ofText accepted rfl

theorem smallEntry_sound : smallEntry.Sound where
  flags := by simp [smallEntry]
  name := by decide
  nameBegins := by simp [smallEntry, Listing.isFlag]
  width := by decide
  widthMm := by decide
  height := by decide
  heightMm := by decide
  output := by simp [smallEntry]
  short := by decide

theorem longEntry_formed : longEntry.Formed where
  flags := by simp [longEntry]
  name := by decide
  nameBegins := by simp [longEntry, Listing.isFlag]
  width := by
    have positive := longest_pos
    exact (show (0 : Int) ≤ longest + 1 by omega)
  widthMm := by decide
  height := by decide
  heightMm := by decide
  output := by simp [longEntry]

/-- The small monitor's last partition is among the changes that define it. -/
theorem smallEntry_defined : .define smallEntry.name "2/0x6/0+8+6" "none" ∈
    changesMade (apply smallMonitor Ratio.unevenColumns) {} := by
  decide +kernel

/-- A parent whose name ends in a part of the mark does not have the mark. -/
theorem smallMonitor_kept_apart :
    "A-1-XR" ≠ "A-1" ∧ ¬ Marked "A-1" "A-1-XR" ∧
      (∀ change ∈ changesMade (reset "A-1") (listingSession [smallEntry]), ∀ x y,
        change.name ≠ partitionName "A-1-XR" x y) ∧
      (∀ change ∈ changesMade (apply smallMonitor Ratio.unevenColumns) (listingSession [smallEntry]),
        ∀ x y, change.name ≠ partitionName "A-1-XR" x y) ∧
      ∃ change ∈ changesMade (apply smallMonitor Ratio.unevenColumns) {},
        ∃ monitors, (listingSession [smallEntry]).listing 0 = .ok monitors ∧
          ∃ listed ∈ monitors, listed.name = change.name ∧
            .delete listed.name ∈
              changesMade (reset smallMonitor.name) (listingSession [smallEntry]) := by
  obtain ⟨-, -, apart, deletes, -⟩ := partitions_kept_apart "A-1"
  have differs : "A-1-XR" ≠ "A-1" := by decide
  have unmarked : ¬ Marked "A-1" "A-1-XR" := by decide
  have told : (listingSession [smallEntry]).listing 0 = .ok [smallEntry.monitor] :=
    Session.listing_eq_ok_iff.mpr ⟨_, listingSession_answer _,
      Listing.monitors_text fun entry member => List.mem_singleton.mp member ▸ smallEntry_sound⟩
  have namable : ∀ part ∈ partitionsOf smallMonitor.name [smallEntry.monitor],
      Char.ofNat 0 ∉ part.name.toList := by decide
  exact ⟨differs, unmarked, (apart _ differs unmarked _).1,
    (apart _ differs unmarked _).2 smallMonitor _ rfl,
    _, smallEntry_defined, _, told, _, List.mem_singleton_self _, rfl,
    (deletes smallMonitor _ _ rfl _ smallEntry_defined _ _ told _ (List.mem_singleton_self _) rfl).mpr
      (.inr namable)⟩

/-- A line with a number that is too long, wherever it stands in a listing, lets a partition that was
defined and is listed outlast the attempt to make its parent whole. -/
theorem partition_outlasts_long_line :
    ∃ change ∈ changesMade (apply smallMonitor Ratio.unevenColumns) {},
      ∃ listing fields,
        (listingSession [smallEntry, longEntry]).answer listCall 0 = .ok listing ∧
        .monitor fields ∈ Listing.readLines listing ∧ String.ofList fields.name = change.name ∧
        .delete change.name ∉
          changesMade (reset smallMonitor.name) (listingSession [smallEntry, longEntry]) := by
  have formed : ∀ entry ∈ [smallEntry, longEntry], entry.Formed :=
    List.forall_mem_cons.mpr ⟨smallEntry_sound.toFormed,
      List.forall_mem_singleton.mpr longEntry_formed⟩
  have answer := listingSession_answer [smallEntry, longEntry]
  have unlisted : ∃ cause, (listingSession [smallEntry, longEntry]).listing 0 = .error cause := by
    refine exists_error_iff.mpr fun monitors listed => ?_
    obtain ⟨text, told, read⟩ := Session.listing_eq_ok_iff.mp listed
    obtain rfl := Except.ok.inj (answer.symm.trans told)
    have short : Writable longEntry.geometry.width :=
      (Listing.exists_monitors_text_iff formed).mp ⟨monitors, read⟩ longEntry
        (List.mem_cons_of_mem _ (List.mem_singleton_self _)) _ List.mem_cons_self
    exact not_writable_of_longest_lt (Int.lt_succ longest) short
  obtain ⟨cause, failed⟩ := unlisted
  refine ⟨_, smallEntry_defined, _, smallEntry.fields, answer,
    Listing.mem_readLines_text formed List.mem_cons_self, rfl, ?_⟩
  rw [changesMade_reset_of_error smallMonitor.name failed]
  exact List.not_mem_nil

end MonitorSplit.Display
