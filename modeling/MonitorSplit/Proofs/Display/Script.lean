/-
Module: MonitorSplit.Proofs.Display.Script
Purpose: Scripts as a shell reads them, whatever names the monitors have.
Main exports:
  OneLine, oneLine_of_mem_deleteCalls, oneLine_of_split, splitLines_renderScript, ReadsAs,
  Defines, script_reads_back
-/
import MonitorSplit.Proofs.Display.Split
import MonitorSplit.Proofs.Monitor.Listing
import MonitorSplit.Proofs.Monitor.Parent
import MonitorSplit.Proofs.Monitor.Split
import MonitorSplit.Proofs.Text.ShellWord

namespace MonitorSplit.Display

/-!
### Lines of their own

Names in a listing have no line feed, and nor have the names made from them.  So no call takes
more than one line.
-/

/-- No argument has a line feed. -/
def OneLine (arguments : List String) : Prop := ∀ word ∈ arguments, '\n' ∉ word.toList

theorem oneLine_of_mem_deleteCalls {text name : String} {monitors : List Monitor}
    {arguments : List String} (read : Listing.monitors text = .ok monitors)
    (member : arguments ∈ deleteCalls (partitionsOf name monitors)) : OneLine arguments := by
  unfold deleteCalls at member
  split at member
  · cases member
  obtain rfl := List.mem_singleton.mp member
  intro word inside
  obtain ⟨monitor, listed, option | named⟩ : ∃ monitor ∈ partitionsOf name monitors,
      word = "--delmonitor" ∨ word = monitor.name := by simpa [deleteArguments] using inside
  · rw [option]
    decide
  · rw [named]
    exact (Listing.isWord_of_mem_monitors read (List.mem_of_mem_filter listed)).1.noFeed

/-- Splitting a monitor takes one line, even if it has no name at all. -/
theorem oneLine_of_split {monitor : Monitor} {ratio : Ratio} {split : Split}
    (name : '\n' ∉ monitor.name.toList)
    (output : ∀ output ∈ monitor.output, '\n' ∉ output.toList)
    (success : monitor.split ratio = .ok split) : OneLine split.arguments := by
  intro word inside
  obtain ⟨part, member, argument⟩ := List.mem_flatMap.mp inside
  obtain ⟨cell, outputName, either, made⟩ := Monitor.exists_of_mem_partitions success member
  have isOutput : '\n' ∉ outputName.toList := by
    rcases either with rfl | rfl
    · rcases monitor.name_or_output with same | given
      · rwa [same]
      · exact output _ given
    · decide
  obtain ⟨_, _, -, -, rfl, -⟩ := Monitor.partition_eq_ok_iff.mp made
  obtain rfl | rfl | rfl | rfl := by simpa [Partition.arguments] using argument
  · decide
  · exact Monitor.noFeed_partitionName name _ _
  · exact (Listing.isWord_render _).noFeed
  · exact isOutput

/-- Splitting a parent that a listing tells takes one line. -/
theorem oneLine_of_findParent {text name : String} {monitors : List Monitor} {ratio : Ratio}
    {found : Found} {split : Split} (read : Listing.monitors text = .ok monitors)
    (success : findParent name monitors = .ok found)
    (made : found.monitor.split ratio = .ok split) : OneLine split.arguments := by
  refine oneLine_of_split ?_ ?_ made
  · obtain ⟨listed, member, begins⟩ := exists_name_of_findParent success
    rw [name_of_findParent success]
    exact fun feed => (Listing.isWord_of_mem_monitors read member).1.noFeed (begins.subset feed)
  · intro output given
    obtain ⟨listed, member, same⟩ := exists_output_of_findParent success given
    exact ((Listing.isWord_of_mem_monitors read member).2 output same).noFeed

/-!
### Scripts read back
-/

/-- A script is its first line and a line for each of its commands. -/
theorem splitLines_renderScript {commands : List (List String)}
    (oneLine : ∀ arguments ∈ commands, OneLine arguments) :
    Text.splitLines (renderScript commands).toList =
      scriptHead.toList ::
        (commandLines commands).map (fun words => (Text.shellLine words).toList) ++ [[]] := by
  have lines : (renderScript commands).toList =
      (scriptHead.toList ::
        (commandLines commands).map fun words => (Text.shellLine words).toList).flatMap
          (· ++ ['\n']) := by
    rw [renderScript, String.toList_append, String.toList_intercalate, List.map_cons, List.map_map,
      Text.intercalate_append_separator, commandLines, List.map_map]
    rfl
  rw [lines, Text.splitLines_flatMap]
  intro line member
  rcases List.mem_cons.mp member with rfl | command
  · decide
  · obtain ⟨words, made, rfl⟩ := List.mem_map.mp command
    obtain ⟨arguments, listed, rfl⟩ := List.mem_map.mp made
    refine Text.noFeed_shellLine fun word inside => ?_
    rcases List.mem_cons.mp inside with rfl | argument
    · decide
    · exact oneLine arguments listed word argument

/-- A shell reads the line as these words, and what of them is not quoted is harmless. -/
def ReadsWords (line : List Char) (words : List String) : Prop :=
  ∃ found, Text.readShellLine line = some found ∧
    found.map (·.map Text.ReadChar.content) = words.map String.toList ∧
    ∀ word ∈ found, ∀ c ∈ word, c.quoted = false → Text.isPlainShellChar c.content = true

theorem readsWords_shellLine (words : List String) :
    ReadsWords (Text.shellLine words).toList words := by
  refine ⟨_, Text.readShellLine_shellLine words, ?_, ?_⟩
  · rw [List.map_map]
    exact List.map_congr_left fun word _ => Text.content_readBack word.toList
  · intro word member c inside unquoted
    obtain ⟨source, -, rfl⟩ := List.mem_map.mp member
    exact Text.isPlainShellChar_of_mem_readBack inside unquoted

/-- After its first line the script has a line for each command, and a shell reads it as that
command. -/
def ReadsAs (script : String) (commands : List (List String)) : Prop :=
  ∃ lines, Text.splitLines script.toList = scriptHead.toList :: lines ++ [[]] ∧
    List.Forall₂ ReadsWords lines commands

theorem readsAs_renderScript {commands : List (List String)}
    (oneLine : ∀ arguments ∈ commands, OneLine arguments) :
    ReadsAs (renderScript commands) (commandLines commands) := by
  refine ⟨_, splitLines_renderScript oneLine, ?_⟩
  rw [List.forall₂_map_left_iff, List.forall₂_same]
  exact fun words _ => readsWords_shellLine words

/-- The calls that are to define partitions: none without a ratio, and with one the call that
splits the parent by it, as it is found or rebuilt. -/
inductive Defines (parent : String) (monitors : List Monitor) :
    Option Ratio → List (List String) → Prop where
  | none : Defines parent monitors none []
  | some {ratio : Ratio} {found : Found} {split : Split}
      (parentFound : findParent parent monitors = .ok found)
      (made : found.monitor.split ratio = .ok split) :
      Defines parent monitors (some ratio) [split.arguments]

theorem Defines.length_le {parent : String} {monitors : List Monitor} {ratio : Option Ratio}
    {definitions : List (List String)} (defines : Defines parent monitors ratio definitions) :
    definitions.length ≤ 1 := by
  cases defines with
  | none => exact Nat.zero_le 1
  | some => exact Nat.le_refl 1

theorem length_deleteCalls_le (monitors : List Monitor) : (deleteCalls monitors).length ≤ 1 := by
  unfold deleteCalls
  split
  · exact Nat.zero_le 1
  · exact Nat.le_refl 1

/-- There is no script without a listing. -/
theorem exists_listing_of_script {parent : String} {ratio : Option Ratio} {before after : Session}
    {text : String} (made : script parent ratio before = (.ok text, after)) :
    ∃ monitors, before.listing 0 = .ok monitors := by
  cases listed : before.listing 0 with
  | ok monitors => exact ⟨monitors, rfl⟩
  | error cause =>
      have found := yields_listPartitions parent before
      rw [listed] at found
      have failed : Yields (script parent ratio) before [listCall] (.error cause) := found.bind_error
      cases (congrArg Prod.fst made).symm.trans failed.outcome_eq

/-- A script deletes the partitions that are listed and defines those of the parent. -/
theorem exists_of_script {parent : String} {ratio : Option Ratio} {before after : Session}
    {monitors : List Monitor} {text : String}
    (listed : ∀ earlier, before.listing earlier = .ok monitors)
    (made : script parent ratio before = (.ok text, after)) :
    ∃ definitions, Defines parent monitors ratio definitions ∧
      text = renderScript (deleteCalls (partitionsOf parent monitors) ++ definitions) := by
  have returned : (script parent ratio before).1 = .ok text := congrArg Prod.fst made
  cases ratio with
  | none =>
      rw [(yields_script_none parent before).outcome_eq, listed 0] at returned
      exact ⟨[], .none, by rw [List.append_nil]; exact (Except.ok.inj returned).symm⟩
  | some ratio =>
      rw [(yields_script_some parent ratio (listed 0) (listed 1)).outcome_eq] at returned
      obtain ⟨monitor, found, rest⟩ := bind_eq_ok_iff.mp returned
      obtain ⟨split, result, shown⟩ := bind_eq_ok_iff.mp rest
      obtain ⟨parent, parentFound, rfl⟩ := parentIn_eq_ok_iff.mp found
      exact ⟨[split.arguments], .some parentFound (mapError_eq_ok_iff.mp result),
        (Except.ok.inj shown).symm⟩

/-- A script is read as the calls that it was made for, two at most, whatever characters the
listed names have. -/
theorem script_reads_back {parent : String} {ratio : Option Ratio} {before after : Session}
    {listing text : String}
    (listed : ∀ earlier, (before.replies.answer "--listmonitors" earlier).outcome = .ok listing)
    (made : script parent ratio before = (.ok text, after)) :
    ∃ monitors calls definitions, Listing.monitors listing = .ok monitors ∧
      Defines parent monitors ratio definitions ∧
      calls = deleteCalls (partitionsOf parent monitors) ++ definitions ∧
      calls.length ≤ 2 ∧ ReadsAs text (commandLines calls) := by
  obtain ⟨monitors, first⟩ := exists_listing_of_script made
  obtain ⟨told, answered, read⟩ := Session.listing_eq_ok_iff.mp first
  obtain ⟨accepted, outcome⟩ := Session.answer_eq_ok_iff.mp answered
  obtain rfl : listing = told := Except.ok.inj ((listed 0).symm.trans outcome)
  have again (earlier : Nat) : before.listing earlier = .ok monitors :=
    Session.listing_eq_ok_iff.mpr
      ⟨listing, Session.answer_eq_ok_iff.mpr ⟨accepted, listed earlier⟩, read⟩
  obtain ⟨definitions, defines, rfl⟩ := exists_of_script again made
  refine ⟨monitors, _, definitions, read, defines, rfl, ?_,
    readsAs_renderScript fun arguments member => ?_⟩
  · rw [List.length_append]
    exact Nat.add_le_add (length_deleteCalls_le _) defines.length_le
  · rcases List.mem_append.mp member with deletion | definition
    · exact oneLine_of_mem_deleteCalls read deletion
    · cases defines with
      | none => cases definition
      | some parentFound split =>
          rw [List.mem_singleton.mp definition]
          exact oneLine_of_findParent read parentFound split

/-- A listing of one partition, which makes up its parent, with names full of marks. -/
def markedListing : String := " 0: $(id);'\"-XRPEX-0-0 4/4x2/2+0+0  #`é&\n"

/-- A session in which that is listed again and again. -/
def markedSession : Session where
  replies := [("--listmonitors", [.ofText markedListing])]

theorem markedSession_outcome (earlier : Nat) :
    (markedSession.replies.answer "--listmonitors" earlier).outcome = .ok markedListing := by
  induction earlier with
  | zero => exact Reply.outcome_ofText markedListing
  | succ earlier inductionHypothesis => exact inductionHypothesis

/-- The parent, whose name is no word that a shell would leave alone. -/
def markedParent : String := "$(id);'\""

/-- The parent as it is rebuilt from its partition. -/
def markedMonitor : Monitor where
  name := markedParent
  resolution := .plane 4 2
  sizeMm := (4, 2)
  output := some "#`é&"

/-- The partition, as it is listed. -/
def markedPart : Monitor where
  name := partitionName markedParent 0 0
  resolution := .plane 4 2
  sizeMm := (4, 2)
  output := some "#`é&"

/-- The ratio of two columns. -/
def evenColumns : Ratio := .ofPlane (.of (some 1) [some 1]) (.of none [])

/-- A column of the parent. -/
def markedColumn (x : Int) (output : String) : Partition where
  name := partitionName markedParent x 0
  geometry := { width := 2, widthMm := 2, height := 2, heightMm := 2, x, y := 0 }
  output

theorem markedMonitor_split : markedMonitor.split evenColumns =
    .ok { partitions := [markedColumn 0 "#`é&", markedColumn 2 "none"], scale := 2 } := by cbv

theorem markedSession_script : ∃ text after,
    script markedParent (some evenColumns) markedSession = (.ok text, after) := by
  obtain ⟨monitors, read, rebuilt⟩ : ∃ monitors, Listing.monitors markedListing = .ok monitors ∧
      findParent markedParent monitors = .ok { monitor := markedMonitor, rebuiltFrom := 1 } :=
    ⟨[markedPart], by decide +kernel, by decide +kernel⟩
  have listed (earlier : Nat) : markedSession.listing earlier = .ok monitors :=
    Session.listing_eq_ok_iff.mpr ⟨markedListing,
      Session.answer_eq_ok_iff.mpr ⟨by decide, markedSession_outcome earlier⟩, read⟩
  have yields := yields_script_some markedParent evenColumns (listed 0) (listed 1)
  rw [parentIn_eq_ok_iff.mpr ⟨_, rebuilt, rfl⟩] at yields
  have returned : Yields (script markedParent (some evenColumns)) markedSession [listCall, listCall]
      ((markedMonitor.split evenColumns).mapError .split >>= fun split => .ok (renderScript
        (deleteCalls (partitionsOf markedParent monitors) ++ [split.arguments]))) := yields
  rw [markedMonitor_split] at returned
  obtain ⟨after, ran, -⟩ := returned.reaches
  exact ⟨_, after, ran⟩

theorem marked_reads_back :
    (∀ earlier, (markedSession.replies.answer "--listmonitors" earlier).outcome =
        .ok markedListing) ∧
      ∃ text after, script markedParent (some evenColumns) markedSession = (.ok text, after) ∧
        ∃ monitors calls definitions, Listing.monitors markedListing = .ok monitors ∧
          Defines markedParent monitors (some evenColumns) definitions ∧
          calls = deleteCalls (partitionsOf markedParent monitors) ++ definitions ∧
          calls.length ≤ 2 ∧ ReadsAs text (commandLines calls) := by
  obtain ⟨text, after, made⟩ := markedSession_script
  exact ⟨markedSession_outcome, text, after, made, script_reads_back markedSession_outcome made⟩

end MonitorSplit.Display
