/-
Module: MonitorSplit.Proofs.Monitor.Parent
Purpose: Monitors found by name, whole or rebuilt from partitions.
Main exports:
  mem_of_find, name_of_find, spanWidth, spanHeight, exists_of_rebuild, name_of_findParent,
  Spread, Spread.span_eq, Monitor.PartOf, Covers, Monitor.Restores, findParent_of_covers
-/
import MonitorSplit.Monitor.Parent
import MonitorSplit.Proofs.Monitor.Millimetres

namespace MonitorSplit

/-!
### Names
-/

section

variable {name : String} {monitors : List Monitor}

theorem find_eq_ok_iff {monitor : Monitor} :
    find name monitors = .ok monitor ↔ monitors.find? (·.name = name) = some monitor := by
  unfold find
  cases monitors.find? (·.name = name) <;> simp

theorem mem_of_find {monitor : Monitor} (found : find name monitors = .ok monitor) :
    monitor ∈ monitors :=
  List.mem_of_find?_eq_some (find_eq_ok_iff.mp found)

theorem name_of_find {monitor : Monitor} (found : find name monitors = .ok monitor) :
    monitor.name = name := by
  simpa using List.find?_some (find_eq_ok_iff.mp found)

/-- Only the name can be missing from the list. -/
theorem find_eq_error {cause : FindFailure} (failed : find name monitors = .error cause) :
    cause = .noSuchMonitor name := by
  unfold find at failed
  split at failed
  · cases failed
  · exact (Except.error.inj failed).symm

/-- The width of the smallest box that holds the parts. -/
def spanWidth (first : Monitor) (others : List Monitor) : Int :=
  greatestOf (fun part => part.position.1 + part.resolution.width) first others -
    leastOf (·.position.1) first others

/-- The height of that box. -/
def spanHeight (first : Monitor) (others : List Monitor) : Int :=
  greatestOf (fun part => part.position.2 + part.resolution.height) first others -
    leastOf (·.position.2) first others

/-- A rebuilt monitor is given by the box of its parts and two shares of millimetres.  Its output
is the first that a part has. -/
theorem exists_of_rebuild {first : Monitor} {others : List Monitor} {rebuilt : Monitor}
    (success : rebuild name first others = .ok rebuilt) :
    ∃ widthMm heightMm,
      proportion first.sizeMm.1 (spanWidth first others) first.resolution.width = .ok widthMm ∧
      proportion first.sizeMm.2 (spanHeight first others) first.resolution.height = .ok heightMm ∧
      rebuilt = {
        name
        resolution := .plane (spanWidth first others) (spanHeight first others)
        sizeMm := (widthMm, heightMm)
        position := (leastOf (·.position.1) first others, leastOf (·.position.2) first others)
        output := (first :: others).findSome? fun part => part.output.filter (· ≠ "") } := by
  exact both_eq_ok_iff.mp success

/-- Two shares are all that it takes. -/
theorem exists_rebuild_of_shares {first : Monitor} {others : List Monitor} {widthMm heightMm : Int}
    (wide : proportion first.sizeMm.1 (spanWidth first others) first.resolution.width = .ok widthMm)
    (high : proportion first.sizeMm.2 (spanHeight first others) first.resolution.height =
      .ok heightMm) :
    ∃ rebuilt, rebuild name first others = .ok rebuilt ∧ rebuilt.sizeMm = (widthMm, heightMm) :=
  ⟨_, both_eq_ok_iff.mpr ⟨widthMm, heightMm, wide, high, rfl⟩, rfl⟩

/-- A monitor is rebuilt under the name that was asked for. -/
theorem name_of_rebuild {first : Monitor} {others : List Monitor} {rebuilt : Monitor}
    (success : rebuild name first others = .ok rebuilt) : rebuilt.name = name := by
  obtain ⟨_, _, -, -, rfl⟩ := exists_of_rebuild success
  rfl

/-- A parent is listed under its name, or it is rebuilt from partitions that are listed. -/
theorem whole_or_rebuilt {found : Found} (success : findParent name monitors = .ok found) :
    (found.monitor ∈ monitors ∧ found.monitor.name = name) ∨
      ∃ first others, partitionsOf name monitors = first :: others ∧
        rebuild name first others = .ok found.monitor := by
  unfold findParent at success
  split at success
  · rename_i monitor whole
    cases success
    exact .inl ⟨List.mem_of_find?_eq_some whole, by simpa using List.find?_some whole⟩
  · split at success
    · cases success
    · rename_i first others parts
      cases rebuilt : rebuild name first others with
      | error cause =>
          rw [rebuilt] at success
          cases success
      | ok monitor =>
          rw [rebuilt] at success
          cases success
          exact .inr ⟨first, others, parts, rebuilt⟩

/-- A name that is reported missing is the one that was asked for. -/
theorem findParent_eq_noSuchMonitor {missing : String}
    (failed : findParent name monitors = .error (.noSuchMonitor missing)) : missing = name := by
  unfold findParent at failed
  split at failed
  · cases failed
  · split at failed
    · cases failed
      rfl
    · split at failed <;> cases failed

theorem name_of_findParent {found : Found} (success : findParent name monitors = .ok found) :
    found.monitor.name = name := by
  rcases whole_or_rebuilt success with ⟨-, named⟩ | ⟨_, _, -, rebuilt⟩
  · exact named
  · exact name_of_rebuild rebuilt

/-- A parent is found by the beginning of a name that is listed. -/
theorem exists_name_of_findParent {found : Found} (success : findParent name monitors = .ok found) :
    ∃ monitor ∈ monitors, name.toList <+: monitor.name.toList := by
  rcases whole_or_rebuilt success with ⟨listed, named⟩ | ⟨first, others, parts, -⟩
  · exact ⟨found.monitor, listed, by rw [named]⟩
  · have part : first ∈ partitionsOf name monitors := parts ▸ List.mem_cons_self
    obtain ⟨listed, marked⟩ := List.mem_filter.mp part
    refine ⟨first, listed, ?_⟩
    have begins := List.isPrefixOf_iff_prefix.mp marked
    rw [String.toList_append] at begins
    exact (List.prefix_append _ _).trans begins

/-- The output of a parent is that of a monitor that is listed. -/
theorem exists_output_of_findParent {found : Found} {output : String}
    (success : findParent name monitors = .ok found) (given : found.monitor.output = some output) :
    ∃ monitor ∈ monitors, monitor.output = some output := by
  rcases whole_or_rebuilt success with ⟨listed, -⟩ | ⟨first, others, parts, rebuilt⟩
  · exact ⟨found.monitor, listed, given⟩
  · obtain ⟨_, _, -, -, monitor⟩ := exists_of_rebuild rebuilt
    rw [monitor, ← parts] at given
    obtain ⟨part, member, kept⟩ := List.exists_of_findSome?_eq_some given
    exact ⟨part, List.mem_of_mem_filter member, (Option.filter_eq_some_iff.mp kept).1⟩

/-- The partitions in a list are the parts that are listed, in some order, if all parts are marked
and nothing else is. -/
theorem partitionsOf_perm_of_mixed {parts others listed : List Monitor}
    (marked : ∀ part ∈ parts, part.isPartitionOf name = true)
    (unmarked : ∀ other ∈ others, other.isPartitionOf name = false)
    (mixed : listed.Perm (parts ++ others)) : (partitionsOf name listed).Perm parts := by
  have kept : partitionsOf name (parts ++ others) = parts := by
    rw [partitionsOf, List.filter_append, List.filter_eq_self.mpr marked,
      List.filter_eq_nil_iff.mpr (fun other member => by simp [unmarked other member]),
      List.append_nil]
  exact (mixed.filter _).trans (.of_eq kept)

end

/-!
### Ends

The least and the greatest value among some monitors do not depend on their order.
-/

section

variable {value : Monitor → Int} {first : Monitor} {others : List Monitor} {bound : Int}

/-- The least value is the greatest lower bound. -/
theorem le_leastOf_iff :
    bound ≤ leastOf value first others ↔ ∀ part ∈ first :: others, bound ≤ value part := by
  have fold (start : Int) : bound ≤ others.foldl (fun least part => min least (value part)) start ↔
      bound ≤ start ∧ ∀ part ∈ others, bound ≤ value part := by
    induction others generalizing start with
    | nil => simp
    | cons next rest inductionHypothesis => simp [inductionHypothesis, and_assoc]
  rw [leastOf, fold, List.forall_mem_cons]

/-- The greatest value is the least upper bound. -/
theorem greatestOf_le_iff :
    greatestOf value first others ≤ bound ↔ ∀ part ∈ first :: others, value part ≤ bound := by
  have fold (start : Int) :
      others.foldl (fun greatest part => max greatest (value part)) start ≤ bound ↔
        start ≤ bound ∧ ∀ part ∈ others, value part ≤ bound := by
    induction others generalizing start with
    | nil => simp
    | cons next rest inductionHypothesis => simp [inductionHypothesis, and_assoc]
  rw [greatestOf, fold, List.forall_mem_cons]

theorem leastOf_le {part : Monitor} (member : part ∈ first :: others) :
    leastOf value first others ≤ value part :=
  le_leastOf_iff.mp le_rfl part member

theorem le_greatestOf {part : Monitor} (member : part ∈ first :: others) :
    value part ≤ greatestOf value first others :=
  greatestOf_le_iff.mp le_rfl part member

/-- A lower bound that some part attains is the least value. -/
theorem leastOf_eq (lower : ∀ part ∈ first :: others, bound ≤ value part)
    (attained : ∃ part ∈ first :: others, value part = bound) : leastOf value first others = bound := by
  rcases attained with ⟨part, member, rfl⟩
  apply le_antisymm
  · exact le_leastOf_iff.mp le_rfl part member
  · exact le_leastOf_iff.mpr lower

theorem greatestOf_eq (upper : ∀ part ∈ first :: others, value part ≤ bound)
    (attained : ∃ part ∈ first :: others, value part = bound) :
    greatestOf value first others = bound := by
  rcases attained with ⟨part, member, rfl⟩
  apply le_antisymm
  · exact greatestOf_le_iff.mpr upper
  · exact greatestOf_le_iff.mp le_rfl part member

end

/-- The part lies within the box of the whole. -/
structure Monitor.Within (part whole : Monitor) : Prop where
  left : whole.position.1 ≤ part.position.1
  top : whole.position.2 ≤ part.position.2
  right : part.position.1 + part.resolution.width ≤ whole.position.1 + whole.resolution.width
  bottom : part.position.2 + part.resolution.height ≤ whole.position.2 + whole.resolution.height

/-- The parts lie within the box of the whole and reach all of its ends. -/
structure Spread (parts : List Monitor) (whole : Monitor) : Prop where
  within : ∀ part ∈ parts, part.Within whole
  begins : ∃ part ∈ parts, part.position = whole.position
  ends : ∃ part ∈ parts,
    part.position.1 + part.resolution.width = whole.position.1 + whole.resolution.width ∧
      part.position.2 + part.resolution.height = whole.position.2 + whole.resolution.height

namespace Spread

variable {first whole : Monitor} {others : List Monitor}

/-- A spread does not depend on the order of the parts. -/
theorem perm {parts reordered : List Monitor} (spread : Spread parts whole)
    (perm : reordered.Perm parts) : Spread reordered whole := by
  rcases spread with ⟨within, begins, ends⟩
  simp only [← perm.mem_iff] at within begins ends
  exact ⟨within, begins, ends⟩

/-- The parts begin where the whole does. -/
theorem leastOf_left (spread : Spread (first :: others) whole) :
    leastOf (·.position.1) first others = whole.position.1 := by
  rcases spread.begins with ⟨part, listed, begins⟩
  exact leastOf_eq (fun part member => (spread.within part member).left) ⟨part, listed, congrArg Prod.fst begins⟩

theorem leastOf_top (spread : Spread (first :: others) whole) :
    leastOf (·.position.2) first others = whole.position.2 := by
  rcases spread.begins with ⟨part, listed, begins⟩
  exact leastOf_eq (fun part member => (spread.within part member).top) ⟨part, listed, congrArg Prod.snd begins⟩

/-- The parts end where the whole does. -/
theorem greatestOf_right (spread : Spread (first :: others) whole) :
    greatestOf (fun part => part.position.1 + part.resolution.width) first others =
      whole.position.1 + whole.resolution.width := by
  rcases spread.ends with ⟨part, listed, right, -⟩
  exact greatestOf_eq (fun part member => (spread.within part member).right) ⟨part, listed, right⟩

theorem greatestOf_bottom (spread : Spread (first :: others) whole) :
    greatestOf (fun part => part.position.2 + part.resolution.height) first others =
      whole.position.2 + whole.resolution.height := by
  rcases spread.ends with ⟨part, listed, -, bottom⟩
  exact greatestOf_eq (fun part member => (spread.within part member).bottom) ⟨part, listed, bottom⟩

/-- The smallest box that holds them is that of the whole. -/
theorem span_eq (spread : Spread (first :: others) whole) :
    spanWidth first others = whole.resolution.width ∧
      spanHeight first others = whole.resolution.height := by
  constructor
  · rw [spanWidth, spread.greatestOf_right, spread.leastOf_left, add_sub_cancel_left]
  · rw [spanHeight, spread.greatestOf_bottom, spread.leastOf_top, add_sub_cancel_left]

end Spread

/-- A function that has one value at most, and has it on some member, has it first. -/
theorem findSome?_eq_some {α β : Type} {read : α → Option β} {members : List α} {value : β}
    (some_read : ∃ member ∈ members, read member = some value)
    (same : ∀ member ∈ members, ∀ found ∈ read member, found = value) :
    members.findSome? read = some value := by
  rcases some_read with ⟨member, listed, has⟩
  cases found : members.findSome? read with
  | none =>
      rw [List.findSome?_eq_none_iff.mp found member listed] at has
      cases has
  | some first =>
      rcases List.exists_of_findSome?_eq_some found with ⟨other, present, has_first⟩
      rw [same other present first has_first]

/-!
### Parts of a whole

What it takes to rebuild a monitor is said of its parts one by one.  So their order does not
matter, and nor does which of them comes first.
-/

/-- The part lies within the whole.  Its millimetres can be taken back to the whole, and its
output can only be that of the whole. -/
structure Monitor.PartOf (part whole : Monitor) : Prop extends part.Within whole where
  widthMm : ∃ back, proportion part.sizeMm.1 whole.resolution.width part.resolution.width = .ok back
  heightMm : ∃ back,
    proportion part.sizeMm.2 whole.resolution.height part.resolution.height = .ok back
  outputs : ∀ output ∈ part.output, output = whole.outputOrName

/-- The parts reach all ends of the whole, and one of them has its output. -/
structure Covers (parts : List Monitor) (whole : Monitor) : Prop where
  each : ∀ part ∈ parts, part.PartOf whole
  begins : ∃ part ∈ parts, part.position = whole.position
  ends : ∃ part ∈ parts,
    part.position.1 + part.resolution.width = whole.position.1 + whole.resolution.width ∧
      part.position.2 + part.resolution.height = whole.position.2 + whole.resolution.height
  output : ∃ part ∈ parts, part.output = some whole.outputOrName
  named : whole.outputOrName ≠ ""

section

variable {whole : Monitor}

theorem Covers.perm {parts reordered : List Monitor} (covers : Covers parts whole)
    (perm : reordered.Perm parts) : Covers reordered whole := by
  rcases covers with ⟨each, begins, ends, output, named⟩
  simp only [← perm.mem_iff] at each begins ends output
  exact ⟨each, begins, ends, output, named⟩

theorem Covers.spread {parts : List Monitor} (covers : Covers parts whole) : Spread parts whole where
  within part member := (covers.each part member).toWithin
  begins := covers.begins
  ends := covers.ends

/-- The monitor has the name, box, position and output of the whole. -/
structure Monitor.Restores (rebuilt whole : Monitor) : Prop where
  name : rebuilt.name = whole.name
  resolution : rebuilt.resolution = whole.resolution
  position : rebuilt.position = whole.position
  output : rebuilt.output = some whole.outputOrName

theorem Box.plane_of_dimensions {box : Box} (flat : box.dimensions = 2) :
    .plane box.width box.height = box := by
  rcases box with ⟨lengths, nonempty⟩
  rcases List.length_eq_two.mp flat with ⟨width, height, rfl⟩
  rfl

theorem Box.lengths_of_dimensions {box : Box} (flat : box.dimensions = 2) :
    box.lengths = [box.width, box.height] :=
  (congrArg Box.lengths (plane_of_dimensions flat)).symm

/-- Parts that cover a plane give it back. -/
theorem exists_rebuild_of_covers {first : Monitor} {others : List Monitor}
    (flat : whole.resolution.dimensions = 2) (covers : Covers (first :: others) whole) :
    ∃ rebuilt, rebuild whole.name first others = .ok rebuilt ∧ rebuilt.Restores whole := by
  have spread := covers.spread
  rcases (covers.each first List.mem_cons_self).widthMm with ⟨widthMm, width⟩
  rcases (covers.each first List.mem_cons_self).heightMm with ⟨heightMm, height⟩
  have output : (first :: others).findSome? (fun part => part.output.filter (· ≠ "")) =
      some whole.outputOrName := by
    apply findSome?_eq_some
    · rcases covers.output with ⟨part, listed, given⟩
      exact ⟨part, listed, by simp [given, covers.named]⟩
    · intro part listed found member
      exact (covers.each part listed).outputs found (Option.mem_filter_iff.mp member).1
  have rebuilt : rebuild whole.name first others = .ok {
      name := whole.name
      resolution := .plane whole.resolution.width whole.resolution.height
      sizeMm := (widthMm, heightMm)
      position := whole.position
      output := some whole.outputOrName } := by
    unfold rebuild
    simp only [spread.leastOf_left, spread.leastOf_top, spread.greatestOf_right,
      spread.greatestOf_bottom, add_sub_cancel_left, width, height, output]
    rfl
  exact ⟨_, rebuilt, rfl, Box.plane_of_dimensions flat, rfl, rfl⟩

/-- A monitor that is not listed itself is found by the parts that cover it. -/
theorem findParent_of_covers {monitors : List Monitor} (flat : whole.resolution.dimensions = 2)
    (unlisted : ∀ monitor ∈ monitors, monitor.name ≠ whole.name)
    (covers : Covers (partitionsOf whole.name monitors) whole) :
    ∃ found, findParent whole.name monitors = .ok found ∧ found.monitor.Restores whole := by
  have absent : monitors.find? (·.name = whole.name) = none := by
    simpa using unlisted
  cases parts : partitionsOf whole.name monitors with
  | nil =>
      rcases covers.begins with ⟨part, member, -⟩
      rw [parts] at member
      cases member
  | cons first others =>
      rw [parts] at covers
      rcases exists_rebuild_of_covers flat covers with ⟨monitor, rebuilt, restores⟩
      have found : findParent whole.name monitors =
          .ok { monitor, rebuiltFrom := others.length + 1 } := by
        simp only [findParent, absent, parts, rebuilt]
      exact ⟨_, found, restores⟩

end

end MonitorSplit
