/-
Module: MonitorSplit.Proofs.Monitor.Split
Purpose: What splitting a monitor gives, and what of the monitor it depends on.
Main exports:
  Monitor.split_of_solve, Monitor.exists_of_split, Monitor.partition_eq_ok_iff, Monitor.Makes,
  Monitor.forall₂_of_split, Monitor.begins_of_split, Monitor.isWord_partitionName, Monitor.Alike
-/
import MonitorSplit.Monitor.Partition
import MonitorSplit.Proofs.Monitor.Millimetres
import MonitorSplit.Proofs.Ratio.Totals
import MonitorSplit.Proofs.Text.Lines

namespace MonitorSplit

namespace Monitor

/-!
### Partitions of cells

A split solves the ratio on the monitor's resolution and makes one partition for each
cell of the solution.
-/

theorem split_of_solve {monitor : Monitor} {ratio : Ratio} {solution : Solution}
    (solved : ratio.solve monitor.resolution = .ok solution) :
    monitor.split ratio =
      match monitor.partitions solution.pixelCells with
      | .error cause => .error (.ofPartition cause)
      | .ok partitions => .ok { partitions, scale := solution.scale } := by
  rw [Monitor.split, solved]
  rfl

/-- A split is made of the cells of a solution. -/
theorem exists_of_split {monitor : Monitor} {ratio : Ratio} {split : Split}
    (success : monitor.split ratio = .ok split) :
    ∃ solution, ratio.solve monitor.resolution = .ok solution ∧ split.scale = solution.scale ∧
      monitor.partitions solution.pixelCells = .ok split.partitions := by
  cases solved : ratio.solve monitor.resolution with
  | error cause =>
      rw [Monitor.split, solved] at success
      cases success
  | ok solution =>
      rw [split_of_solve solved] at success
      cases made : monitor.partitions solution.pixelCells with
      | error cause =>
          rw [made] at success
          cases success
      | ok partitions =>
          rw [made] at success
          cases success
          exact ⟨solution, rfl, rfl, made⟩

/-- A partition has the place and size of its cell, and its share of the millimetres.  It is made just
if these can be told and no number of it is too long to be written. -/
theorem partition_eq_ok_iff {monitor : Monitor} {output : String} {cell : Cell} {part : Partition} :
    monitor.partition output cell = .ok part ↔
      ∃ widthMm heightMm,
        proportion monitor.sizeMm.1 (planePair cell.size).1 monitor.resolution.width = .ok widthMm ∧
        proportion monitor.sizeMm.2 (planePair cell.size).2 monitor.resolution.height =
          .ok heightMm ∧
        part = {
          name := partitionName monitor.name (planePair cell.position).1 (planePair cell.position).2
          geometry := {
            width := (planePair cell.size).1, widthMm
            height := (planePair cell.size).2, heightMm
            x := monitor.position.1 + (planePair cell.position).1
            y := monitor.position.2 + (planePair cell.position).2 }
          output } ∧
        ∀ number ∈ (planePair cell.position).1 :: (planePair cell.position).2 :: part.geometry.numbers,
          Writable number := by
  unfold Monitor.partition
  rcases planePair cell.position with ⟨x, y⟩
  rcases planePair cell.size with ⟨width, height⟩
  constructor
  · intro made
    obtain ⟨widthMm, wide, made⟩ := bind_eq_ok_iff.mp made
    obtain ⟨heightMm, high, made⟩ := bind_eq_ok_iff.mp made
    dsimp only at made
    split at made
    · rename_i short
      cases made
      exact ⟨widthMm, heightMm, mapError_eq_ok_iff.mp wide, mapError_eq_ok_iff.mp high, rfl, short⟩
    · cases made
  · rintro ⟨widthMm, heightMm, wide, high, rfl, short⟩
    refine bind_eq_ok_iff.mpr ⟨widthMm, mapError_eq_ok_iff.mpr wide,
      bind_eq_ok_iff.mpr ⟨heightMm, mapError_eq_ok_iff.mpr high, ?_⟩⟩
    exact if_pos short

/-- No number of a partition is too long to be written. -/
theorem writable_of_partition {monitor : Monitor} {output : String} {cell : Cell} {part : Partition}
    (success : monitor.partition output cell = .ok part) :
    ∀ number ∈ part.geometry.numbers, Writable number := by
  obtain ⟨_, _, -, -, -, short⟩ := partition_eq_ok_iff.mp success
  exact fun number member => short number (List.mem_cons_of_mem _ (List.mem_cons_of_mem _ member))

/-- The first partition takes over the output, and every cell has its partition. -/
theorem forall₂_of_partitions {monitor : Monitor} {first : Cell} {rest : List Cell}
    {partitions : List Partition} (success : monitor.partitions (first :: rest) = .ok partitions) :
    ∃ head others, partitions = head :: others ∧
      monitor.partition monitor.outputOrName first = .ok head ∧
      List.Forall₂ (fun cell part => monitor.partition noOutput cell = .ok part) rest others := by
  rw [Monitor.partitions] at success
  cases made : monitor.partition monitor.outputOrName first with
  | error cause =>
      rw [made] at success
      cases success
  | ok head =>
      cases gathered : rest.mapM (monitor.partition noOutput) with
      | error cause =>
          rw [made, gathered] at success
          cases success
      | ok others =>
          rw [made, gathered] at success
          cases success
          exact ⟨head, others, rfl, rfl, forall₂_of_mapM gathered⟩

/-- The part is what the monitor makes of the cell, with its output or with none. -/
def Makes (monitor : Monitor) (cell : Cell) (part : Partition) : Prop :=
  ∃ output, (output = monitor.outputOrName ∨ output = noOutput) ∧
    monitor.partition output cell = .ok part

/-- Partitions and cells go together, and the output goes to the first partition. -/
theorem forall₂_of_split {monitor : Monitor} {ratio : Ratio} {split : Split} {solution : Solution}
    (solved : ratio.solve monitor.resolution = .ok solution)
    (success : monitor.split ratio = .ok split) :
    List.Forall₂ monitor.Makes solution.pixelCells split.partitions ∧
      ∃ first others, split.partitions = first :: others ∧ first.output = monitor.outputOrName := by
  rcases exists_of_split success with ⟨same, again, -, made⟩
  obtain rfl : solution = same := Except.ok.inj (solved.symm.trans again)
  have nonempty : solution.pixelCells ≠ [] := by
    simpa [Solution.pixelCells] using Ratio.cells_of_solve_ne_nil solved
  rcases List.exists_cons_of_ne_nil nonempty with ⟨first, rest, cells⟩
  rw [cells] at made ⊢
  rcases forall₂_of_partitions made with ⟨head, others, partitions, first_made, others_made⟩
  rw [partitions]
  constructor
  · apply List.Forall₂.cons
    · exact ⟨_, .inl rfl, first_made⟩
    · exact others_made.imp fun cell part made => ⟨_, .inr rfl, made⟩
  · rcases partition_eq_ok_iff.mp first_made with ⟨_, _, -, -, rfl, -⟩
    exact ⟨_, others, rfl, rfl⟩

/-- Every partition of a split is that of some cell. -/
theorem exists_of_mem_partitions {monitor : Monitor} {ratio : Ratio} {split : Split}
    (success : monitor.split ratio = .ok split) {part : Partition}
    (member : part ∈ split.partitions) : ∃ cell, monitor.Makes cell part := by
  rcases exists_of_split success with ⟨solution, solved, -, -⟩
  rcases exists_of_mem_right (forall₂_of_split solved success).1 member with ⟨cell, -, makes⟩
  exact ⟨cell, makes⟩

/-- The arguments of a split define a partition first of all. -/
theorem begins_of_split {monitor : Monitor} {ratio : Ratio} {split : Split}
    (success : monitor.split ratio = .ok split) :
    ∃ rest, split.arguments = "--setmonitor" :: rest := by
  rcases exists_of_split success with ⟨solution, solved, -, -⟩
  rcases (forall₂_of_split solved success).2 with ⟨first, others, partitions, -⟩
  simp [Split.arguments, partitions, Partition.arguments]

/-!
### Words

All that a split makes of words is words.
-/

theorem name_or_output (monitor : Monitor) :
    monitor.outputOrName = monitor.name ∨ monitor.outputOrName ∈ monitor.output := by
  unfold Monitor.outputOrName
  cases monitor.output with
  | none => exact .inl rfl
  | some outputName =>
      dsimp only
      split
      · exact .inl rfl
      · exact .inr rfl

theorem isWord_outputOrName {monitor : Monitor} (name : Text.IsWord monitor.name.toList)
    (output : ∀ output ∈ monitor.output, Text.IsWord output.toList) :
    Text.IsWord monitor.outputOrName.toList := by
  rcases monitor.name_or_output with same | given
  · rwa [same]
  · exact output _ given

theorem toList_partitionName (name : String) (x y : Int) :
    (partitionName name x y).toList =
      (name ++ partitionMark).toList ++ ("-" ++ toString x ++ "-" ++ toString y).toList := by
  have parts : partitionName name x y =
      name ++ partitionMark ++ ("-" ++ toString x ++ "-" ++ toString y) := rfl
  rw [parts, String.toList_append]

theorem isPartitionName_partitionName (name : String) (x y : Int) :
    isPartitionName (partitionName name x y) name = true := by
  rw [isPartitionName, List.isPrefixOf_iff_prefix, toList_partitionName]
  apply List.prefix_append

theorem isWord_partitionName {name : String} (isWord : Text.IsWord name.toList) (x y : Int) :
    Text.IsWord (partitionName name x y).toList := by
  have number := Text.isWord_toString_int
  have mark : Text.IsWord partitionMark.toList := by decide
  have hyphen : Text.IsWord "-".toList := by decide
  simp only [toList_partitionName, String.toList_append]
  exact (isWord.append mark).append (((hyphen.append (number x)).append hyphen).append (number y))

/-- A partition's name has a line feed only if that of its parent has one. -/
theorem noFeed_partitionName {name : String} (noFeed : '\n' ∉ name.toList) (x y : Int) :
    '\n' ∉ (partitionName name x y).toList := by
  have mark : '\n' ∉ partitionMark.toList := by decide
  have hyphen : '\n' ∉ "-".toList := by decide
  have number (value : Int) : '\n' ∉ (toString value).toList :=
    (Text.isWord_toString_int value).noFeed
  simp only [toList_partitionName, String.toList_append, List.mem_append, not_or]
  exact ⟨⟨noFeed, mark⟩, ⟨⟨hyphen, number x⟩, hyphen⟩, number y⟩

/-- A partition's name begins like that of its parent. -/
theorem head?_partitionName {name : String} (nonempty : name.toList ≠ []) (x y : Int) :
    (partitionName name x y).toList.head? = name.toList.head? := by
  rcases List.exists_cons_of_ne_nil nonempty with ⟨first, rest, text⟩
  simp [toList_partitionName, text]

/-!
### Monitors that split alike
-/

/-- Two monitors have everything in common that a split depends on, but for their names. -/
structure Alike (monitor other : Monitor) : Prop where
  resolution : monitor.resolution = other.resolution
  sizeMm : monitor.sizeMm = other.sizeMm
  position : monitor.position = other.position
  outputOrName : monitor.outputOrName = other.outputOrName

theorem Alike.split_eq {monitor other : Monitor} (alike : monitor.Alike other)
    (name : monitor.name = other.name) : monitor.split = other.split := by
  have partition : monitor.partition = other.partition := by
    funext output cell
    simp only [Monitor.partition, name, alike.resolution, alike.sizeMm, alike.position]
  have partitions : monitor.partitions = other.partitions := by
    funext cells
    cases cells with
    | nil => rfl
    | cons first rest => simp only [Monitor.partitions, partition, alike.outputOrName]
  funext ratio
  simp only [Monitor.split, partitions, name, alike.resolution]

end Monitor

end MonitorSplit
