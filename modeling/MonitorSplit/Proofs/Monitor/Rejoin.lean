/-
Module: MonitorSplit.Proofs.Monitor.Rejoin
Purpose: A split monitor is recovered from the listing of its partitions.
Main exports:
  Listing.Entry.Lists, Monitor.Listable, Monitor.Shows, Monitor.Depicts, Monitor.Rejoins,
  Monitor.rejoins_iff_nonneg
-/
import MonitorSplit.Proofs.Monitor.Listing
import MonitorSplit.Proofs.Monitor.Millimetres
import MonitorSplit.Proofs.Monitor.Parent
import MonitorSplit.Proofs.Monitor.Plane
import MonitorSplit.Proofs.Monitor.Split

namespace MonitorSplit

open Text (IsWord)

/-!
### Parts in a listing

A line for a partition has its name and geometry.  It has its output too, unless that is none.
-/

/-- The entry is one for the partition. -/
structure Listing.Entry.Lists (part : Partition) (entry : Listing.Entry) : Prop where
  flags : ∀ c ∈ entry.flags.toList, Listing.isFlag c = true
  name : entry.name = part.name
  geometry : entry.geometry = part.geometry
  output : entry.output = if part.output = Monitor.noOutput then none else some part.output

/-- The entry of a partition under an index. -/
def Partition.entry (part : Partition) (index : Nat) : Listing.Entry where
  index
  name := part.name
  geometry := part.geometry
  output := if part.output = Monitor.noOutput then none else some part.output

theorem Partition.lists_entry (part : Partition) (index : Nat) :
    Listing.Entry.Lists part (part.entry index) where
  flags := by simp [Partition.entry]
  name := rfl
  geometry := rfl
  output := rfl

namespace Monitor

/-- Lines can tell the monitor, and its size in millimetres is far from too large. -/
structure Listable (monitor : Monitor) : Prop where
  positive : monitor.resolution.Positive
  widthMm : 0 ≤ monitor.sizeMm.1 ∧ monitor.sizeMm.1 < 10 ^ 300
  heightMm : 0 ≤ monitor.sizeMm.2 ∧ monitor.sizeMm.2 < 10 ^ 300
  name : IsWord monitor.name.toList
  nameBegins : ∀ c ∈ monitor.name.toList.head?, Listing.isFlag c = false
  output : ∀ output ∈ monitor.output, IsWord output.toList
  attached : monitor.outputOrName ≠ noOutput

/-- The part is listed with the place and the size of a cell of the whole. -/
structure Shows (whole : Monitor) (cell : Cell) (part : Monitor) : Prop where
  resolution : part.resolution = .plane (planePair cell.size).1 (planePair cell.size).2
  position : part.position = (whole.position.1 + (planePair cell.position).1,
    whole.position.2 + (planePair cell.position).2)

section

variable {whole part : Monitor} {cell : Cell}

theorem Shows.width (shown : whole.Shows cell part) :
    part.resolution.width = (planePair cell.size).1 := by
  rw [shown.resolution]
  rfl

theorem Shows.height (shown : whole.Shows cell part) :
    part.resolution.height = (planePair cell.size).2 := by
  rw [shown.resolution]
  rfl

/-- What shows a cell within the whole lies within the whole. -/
theorem Shows.within (shown : whole.Shows cell part)
    (inPlane : cell.InPlane whole.resolution.width whole.resolution.height) : part.Within whole := by
  constructor
  case left =>
    rw [shown.position]
    exact le_add_of_nonneg_right inPlane.left
  case top =>
    rw [shown.position]
    exact le_add_of_nonneg_right inPlane.top
  case right =>
    rw [shown.position, shown.width, add_assoc]
    exact add_le_add_right inPlane.right _
  case bottom =>
    rw [shown.position, shown.height, add_assoc]
    exact add_le_add_right inPlane.bottom _

end

section

variable {monitor : Monitor} {cell : Cell} {part : Partition} {entry : Listing.Entry}

theorem Makes.shows (makes : monitor.Makes cell part) (lists : Listing.Entry.Lists part entry) :
    monitor.Shows cell entry.monitor := by
  rcases makes with ⟨output, -, made⟩
  rcases partition_eq_ok_iff.mp made with ⟨_, _, -, -, rfl, -⟩
  constructor <;> rw [Listing.Entry.monitor, lists.geometry]

theorem Makes.isPartitionName (makes : monitor.Makes cell part)
    (lists : Listing.Entry.Lists part entry) :
    MonitorSplit.isPartitionName entry.name monitor.name = true := by
  rcases makes with ⟨output, -, made⟩
  rcases partition_eq_ok_iff.mp made with ⟨_, _, -, -, rfl, -⟩
  rw [lists.name]
  apply isPartitionName_partitionName

/-- An output in the line of a part is that of the whole. -/
theorem Makes.outputs (makes : monitor.Makes cell part) (lists : Listing.Entry.Lists part entry) :
    ∀ output ∈ entry.output, output = monitor.outputOrName := by
  rcases makes with ⟨output, rfl | rfl, made⟩
  all_goals
    rcases partition_eq_ok_iff.mp made with ⟨_, _, -, -, rfl, -⟩
    rw [lists.output]
  · split <;> simp
  · simp

variable (listable : monitor.Listable) (wide : 0 < monitor.resolution.width)
  (high : 0 < monitor.resolution.height)
  (inPlane : cell.InPlane monitor.resolution.width monitor.resolution.height)
  (makes : monitor.Makes cell part) (lists : Listing.Entry.Lists part entry)

include listable wide high inPlane makes lists

/-- Cells within a monitor make lines that can be read. -/
theorem Makes.sound : entry.Sound := by
  have outputs := makes.outputs lists
  rcases makes with ⟨output, -, made⟩
  have short := writable_of_partition made
  rcases partition_eq_ok_iff.mp made with ⟨widthMm, heightMm, width, height, rfl, -⟩
  have widths := bounds_of_proportion listable.widthMm.1 inPlane.widthNonneg wide width
  have heights := bounds_of_proportion listable.heightMm.1 inPlane.heightNonneg high height
  refine { toFormed := ?_, short := by rw [lists.geometry]; exact short }
  constructor
  · exact lists.flags
  · rw [lists.name]
    exact isWord_partitionName listable.name _ _
  · rw [lists.name, head?_partitionName listable.name.1]
    exact listable.nameBegins
  · rw [lists.geometry]
    exact inPlane.widthNonneg
  · rw [lists.geometry]
    exact widths.1
  · rw [lists.geometry]
    exact inPlane.heightNonneg
  · rw [lists.geometry]
    exact heights.1
  · intro output given
    rw [outputs output given]
    exact isWord_outputOrName listable.name listable.output

/-- The millimetres of a part can be taken back to the whole. -/
theorem Makes.exists_back :
    (∃ back, proportion entry.monitor.sizeMm.1 monitor.resolution.width
        entry.monitor.resolution.width = .ok back) ∧
      ∃ back, proportion entry.monitor.sizeMm.2 monitor.resolution.height
        entry.monitor.resolution.height = .ok back := by
  rcases makes with ⟨output, -, made⟩
  rcases partition_eq_ok_iff.mp made with ⟨widthMm, heightMm, width, height, rfl, -⟩
  rw [Listing.Entry.monitor, lists.geometry]
  constructor
  · exact exists_proportion_back listable.widthMm.1 listable.widthMm.2 inPlane.widthNonneg wide width
  · exact exists_proportion_back listable.heightMm.1 listable.heightMm.2 inPlane.heightNonneg high
      height

/-- A part of a cell within a monitor is part of the monitor. -/
theorem Makes.partOf : entry.monitor.PartOf monitor := by
  rcases Makes.exists_back listable wide high inPlane makes lists with ⟨widthMm, heightMm⟩
  exact {
    toWithin := (makes.shows lists).within inPlane
    widthMm, heightMm
    outputs := makes.outputs lists }

end

/-- What the entry of a part has to do with the cell that the part is made of. -/
structure Depicts (monitor : Monitor) (cell : Cell) (entry : Listing.Entry) : Prop where
  sound : entry.Sound
  inPlane : cell.InPlane monitor.resolution.width monitor.resolution.height
  shows : monitor.Shows cell entry.monitor
  isPartition : entry.monitor.isPartitionOf monitor.name = true
  partOf : entry.monitor.PartOf monitor

section

variable {monitor : Monitor} {ratio : Ratio} {solution : Solution} {split : Split}
  {parts others entries : List Listing.Entry}

theorem depicts_of_lists (listable : monitor.Listable)
    (flat : monitor.resolution.lengths = [monitor.resolution.width, monitor.resolution.height])
    (solved : ratio.solve monitor.resolution = .ok solution) (nonneg : solution.solved.Nonneg)
    (success : monitor.split ratio = .ok split)
    (lists : List.Forall₂ Listing.Entry.Lists split.partitions parts) :
    List.Forall₂ monitor.Depicts solution.pixelCells parts := by
  have wide : 0 < monitor.resolution.width := listable.positive _ (by simp [flat])
  have high : 0 < monitor.resolution.height := listable.positive _ (by simp [flat])
  have related := forall₂_comp (forall₂_of_split solved success).1 lists
  apply forall₂_imp_of_mem related
  rintro cell member entry - ⟨part, -, makes, listed⟩
  have inPlane :=
    Ratio.inPlane_of_mem_pixelCells solved nonneg flat member
  exact {
    sound := Makes.sound listable wide high inPlane makes listed
    inPlane
    shows := makes.shows listed
    isPartition := makes.isPartitionName listed
    partOf := Makes.partOf listable wide high inPlane makes listed }

/-- The first partition is listed with the output. -/
theorem exists_output_of_lists (attached : monitor.outputOrName ≠ noOutput)
    (solved : ratio.solve monitor.resolution = .ok solution)
    (success : monitor.split ratio = .ok split)
    (lists : List.Forall₂ Listing.Entry.Lists split.partitions parts) :
    ∃ entry ∈ parts, entry.output = some monitor.outputOrName := by
  rcases (forall₂_of_split solved success).2 with ⟨first, rest, partitions, output⟩
  have member : first ∈ split.partitions := by
    rw [partitions]
    exact List.mem_cons_self
  rcases exists_of_mem_left lists member with ⟨entry, listed, written⟩
  have given := written.output
  rw [output, if_neg attached] at given
  exact ⟨entry, listed, given⟩

/-- The cells at two opposite corners of a plane reach all ends. -/
theorem spread_of_shown {cells : List Cell} {shown : List Monitor}
    (wide : 0 < monitor.resolution.width) (high : 0 < monitor.resolution.height)
    (shows : List.Forall₂ (fun cell part =>
      cell.InPlane monitor.resolution.width monitor.resolution.height ∧ monitor.Shows cell part)
      cells shown)
    (filled : ∀ x y, 0 ≤ x ∧ x < monitor.resolution.width → 0 ≤ y ∧ y < monitor.resolution.height →
      ∃ cell ∈ cells, InSpan (planePair cell.position).1 (planePair cell.size).1 x ∧
        InSpan (planePair cell.position).2 (planePair cell.size).2 y) : Spread shown monitor := by
  constructor
  case within =>
    intro part member
    rcases exists_of_mem_right shows member with ⟨cell, -, inPlane, shown⟩
    exact shown.within inPlane
  case begins =>
    rcases filled 0 0 ⟨le_rfl, wide⟩ ⟨le_rfl, high⟩ with ⟨cell, member, holds⟩
    rcases exists_of_mem_left shows member with ⟨part, listed, inPlane, shown⟩
    refine ⟨part, listed, ?_⟩
    have left : (planePair cell.position).1 = 0 := le_antisymm holds.1.1 inPlane.left
    have top : (planePair cell.position).2 = 0 := le_antisymm holds.2.1 inPlane.top
    rw [shown.position, left, top, add_zero, add_zero]
  case ends =>
    rcases filled (monitor.resolution.width - 1) (monitor.resolution.height - 1) (by omega) (by omega)
      with ⟨cell, member, ⟨-, right⟩, -, bottom⟩
    rcases exists_of_mem_left shows member with ⟨part, listed, inPlane, shown⟩
    refine ⟨part, listed, ?_⟩
    have rightmost := inPlane.right
    have lowest := inPlane.bottom
    rw [shown.position, shown.width, shown.height]
    constructor <;> omega

theorem covers_of_depicts {cells : List Cell} (wide : 0 < monitor.resolution.width)
    (high : 0 < monitor.resolution.height) (depicts : List.Forall₂ monitor.Depicts cells parts)
    (filled : ∀ x y, 0 ≤ x ∧ x < monitor.resolution.width → 0 ≤ y ∧ y < monitor.resolution.height →
      ∃ cell ∈ cells, InSpan (planePair cell.position).1 (planePair cell.size).1 x ∧
        InSpan (planePair cell.position).2 (planePair cell.size).2 y)
    (output : ∃ entry ∈ parts, entry.output = some monitor.outputOrName)
    (named : monitor.outputOrName ≠ "") :
    Covers (parts.map Listing.Entry.monitor) monitor := by
  have spread : Spread (parts.map Listing.Entry.monitor) monitor := by
    apply spread_of_shown wide high _ filled
    rw [List.forall₂_map_right_iff]
    exact depicts.imp fun _ _ depicted => ⟨depicted.inPlane, depicted.shows⟩
  constructor
  case each =>
    intro part member
    rcases List.mem_map.mp member with ⟨entry, listed, rfl⟩
    rcases exists_of_mem_right depicts listed with ⟨cell, -, depicted⟩
    exact depicted.partOf
  case begins => exact spread.begins
  case ends => exact spread.ends
  case output =>
    rcases output with ⟨entry, listed, given⟩
    exact ⟨entry.monitor, List.mem_map_of_mem listed, given⟩
  case named => exact named

/-!
### Split and read back
-/

/-- The entry is for another monitor, and its name is not like that of a partition of this one. -/
structure Foreign (monitor : Monitor) (entry : Listing.Entry) : Prop where
  sound : entry.Sound
  name : entry.name ≠ monitor.name
  unmarked : entry.monitor.isPartitionOf monitor.name = false

/-- The listing gives each part of the monitor with its cell, and gives the monitor itself back. -/
structure Rejoins (monitor : Monitor) (solution : Solution) (parts entries : List Listing.Entry) :
    Prop where
  listed : Listing.monitors (Listing.text entries) = .ok (entries.map Listing.Entry.monitor)
  cells : List.Forall₂ (fun cell entry => entry ∈ entries ∧ monitor.Shows cell entry.monitor)
    solution.pixelCells parts
  parent : ∃ found, findParent monitor.name (entries.map Listing.Entry.monitor) = .ok found ∧
    found.monitor.Restores monitor

theorem isPartitionName_self (name : String) : MonitorSplit.isPartitionName name name = false := by
  rw [Bool.eq_false_iff, ne_eq, MonitorSplit.isPartitionName, List.isPrefixOf_iff_prefix]
  intro longer
  have length := longer.length_le
  simp [partitionMark] at length

/-- No partition of a monitor has its name. -/
theorem name_ne_of_isPartitionOf {part : Monitor} {name : String}
    (marked : part.isPartitionOf name = true) : part.name ≠ name := by
  rintro rfl
  rw [isPartitionOf, isPartitionName_self] at marked
  cases marked

section

variable {cells : List Cell} (depicts : List.Forall₂ monitor.Depicts cells parts)
  (foreign : ∀ entry ∈ others, monitor.Foreign entry) (mixed : entries.Perm (parts ++ others))

include depicts foreign mixed

theorem sound_of_mem_mixed : ∀ entry ∈ entries, entry.Sound := by
  intro entry listed
  rcases List.mem_append.mp (mixed.mem_iff.mp listed) with part | other
  · rcases exists_of_mem_right depicts part with ⟨cell, -, depicted⟩
    exact depicted.sound
  · exact (foreign entry other).sound

theorem name_ne_of_mem_mixed :
    ∀ listed ∈ entries.map Listing.Entry.monitor, listed.name ≠ monitor.name := by
  intro listed member
  rcases List.mem_map.mp member with ⟨entry, present, rfl⟩
  rcases List.mem_append.mp (mixed.mem_iff.mp present) with part | other
  · rcases exists_of_mem_right depicts part with ⟨cell, -, depicted⟩
    exact name_ne_of_isPartitionOf depicted.isPartition
  · exact (foreign entry other).name

/-- The partitions in a listing are the parts. -/
theorem partitionsOf_perm :
    (partitionsOf monitor.name (entries.map Listing.Entry.monitor)).Perm
      (parts.map Listing.Entry.monitor) := by
  apply partitionsOf_perm_of_mixed
  · rw [List.forall_mem_map]
    intro entry part
    rcases exists_of_mem_right depicts part with ⟨cell, -, depicted⟩
    exact depicted.isPartition
  · rw [List.forall_mem_map]
    intro entry other
    exact (foreign entry other).unmarked
  · rw [← List.map_append]
    exact mixed.map Listing.Entry.monitor

end

theorem rejoins_of_nonneg (listable : monitor.Listable) (plane : ratio.dimensions = 2)
    (solved : ratio.solve monitor.resolution = .ok solution) (nonneg : solution.solved.Nonneg)
    (success : monitor.split ratio = .ok split)
    (lists : List.Forall₂ Listing.Entry.Lists split.partitions parts)
    (foreign : ∀ entry ∈ others, monitor.Foreign entry) (mixed : entries.Perm (parts ++ others)) :
    monitor.Rejoins solution parts entries := by
  have flat : monitor.resolution.dimensions = 2 := (Ratio.dimensions_of_solve solved).trans plane
  have lengths := Box.lengths_of_dimensions flat
  have depicts := depicts_of_lists listable lengths solved nonneg success lists
  have covers : Covers (parts.map Listing.Entry.monitor) monitor := by
    apply covers_of_depicts (listable.positive _ (by simp [lengths]))
      (listable.positive _ (by simp [lengths])) depicts
    · intro x y horizontal vertical
      exact Ratio.exists_pixelCell_holds solved nonneg lengths horizontal vertical
    · exact exists_output_of_lists listable.attached solved success lists
    · intro empty
      have isWord := isWord_outputOrName listable.name listable.output
      rw [empty] at isWord
      exact isWord.1 rfl
  constructor
  case listed => exact Listing.monitors_text (sound_of_mem_mixed depicts foreign mixed)
  case cells =>
    apply forall₂_imp_of_mem depicts
    intro cell _ entry part depicted
    exact ⟨mixed.mem_iff.mpr (List.mem_append_left others part), depicted.shows⟩
  case parent =>
    apply findParent_of_covers flat
    · exact name_ne_of_mem_mixed depicts foreign mixed
    · exact covers.perm (partitionsOf_perm depicts foreign mixed)

/-- No line gives a cell of negative size. -/
theorem Rejoins.nonneg (flat : monitor.resolution.dimensions = 2)
    (solved : ratio.solve monitor.resolution = .ok solution)
    (rejoins : monitor.Rejoins solution parts entries) : solution.solved.Nonneg := by
  apply SolvedRatio.nonneg_of_size_nonneg solved
  intro cell member
  rcases exists_of_mem_left rejoins.cells member with ⟨entry, -, listed, shown⟩
  have sized := Listing.sized_of_mem_monitors rejoins.listed (List.mem_map_of_mem listed)
    (Listing.digitsAtMost_of_length_le le_rfl)
  have width := sized.width.1
  have height := sized.height.1
  rw [shown.width] at width
  rw [shown.height] at height
  rw [Ratio.size_of_mem_pixelCells solved flat member]
  simpa using ⟨width, height⟩

/-- A split monitor is recovered from any listing of its partitions, in whatever order and among
whatever other monitors they are listed, exactly if no addend of the solution is negative. -/
theorem rejoins_iff_nonneg (listable : monitor.Listable) (plane : ratio.dimensions = 2)
    (solved : ratio.solve monitor.resolution = .ok solution)
    (success : monitor.split ratio = .ok split)
    (lists : List.Forall₂ Listing.Entry.Lists split.partitions parts)
    (foreign : ∀ entry ∈ others, monitor.Foreign entry) (mixed : entries.Perm (parts ++ others)) :
    monitor.Rejoins solution parts entries ↔ solution.solved.Nonneg := by
  constructor
  · intro rejoins
    have flat : monitor.resolution.dimensions = 2 := (Ratio.dimensions_of_solve solved).trans plane
    exact rejoins.nonneg flat solved
  · intro nonneg
    exact rejoins_of_nonneg listable plane solved nonneg success lists foreign mixed

end

/-- A monitor to the left of the screen's origin. -/
def slab : Monitor where
  name := "A"
  resolution := .plane 4 2
  sizeMm := (400, 200)
  position := (-4, 0)

/-- A part of the monitor over its whole height. -/
def slabPart (x width widthMm : Int) (output : String) : Partition where
  name := partitionName "A" x 0
  geometry := { width, widthMm, height := 2, heightMm := 200, x := -4 + x, y := 0 }
  output

/-- The ratio of two columns, the first of this many units and the second of three. -/
def beforeThree (units : Int) : Ratio := .ofPlane (.of (some units) [some 3]) (.of none [])

/-- A monitor above that of the parts, whose name begins like theirs. -/
def neighbour : Listing.Entry where
  index := 1
  flags := "+*"
  name := "AB"
  geometry := { width := 4, widthMm := 400, height := 2, heightMm := 200, x := -4, y := -2 }
  output := some "AB"

theorem slab_listable : slab.Listable where
  positive := by decide
  widthMm := by
    have few : (400 : Int) < 10 ^ 3 := by decide
    exact ⟨by decide, few.trans_le (pow_le_pow_right₀ (by decide) (by decide))⟩
  heightMm := by
    have few : (200 : Int) < 10 ^ 3 := by decide
    exact ⟨by decide, few.trans_le (pow_le_pow_right₀ (by decide) (by decide))⟩
  name := by decide
  nameBegins := by simp [slab, Listing.isFlag]
  output := by simp [slab]
  attached := by decide

theorem neighbour_sound : neighbour.Sound where
  flags := by simp [neighbour, Listing.isFlag]
  name := by decide
  nameBegins := by simp [neighbour, Listing.isFlag]
  width := by decide
  widthMm := by decide
  height := by decide
  heightMm := by decide
  short := by decide
  output := by
    intro output member
    rcases Option.mem_some.mp member with rfl
    decide

/-- The monitor in columns of one and three pixels. -/
def slabSolution : Solution :=
  { solved := { sums := [{ addends := [1, 3] }, { addends := [2] }] }, scale := 1 }

/-- The lines of the two columns. -/
def slabLines : List Listing.Entry :=
  [(slabPart 0 1 100 "A").entry 2, (slabPart 1 3 300 "none").entry 0]

theorem slab_rejoins :
    slab.Listable ∧ (beforeThree 1).dimensions = 2 ∧
      (beforeThree 1).solve slab.resolution = .ok slabSolution ∧
      slab.split (beforeThree 1) =
        .ok { partitions := [slabPart 0 1 100 "A", slabPart 1 3 300 "none"], scale := 1 } ∧
      List.Forall₂ Listing.Entry.Lists [slabPart 0 1 100 "A", slabPart 1 3 300 "none"] slabLines ∧
      (∀ entry ∈ [neighbour], slab.Foreign entry) ∧
      [(slabPart 1 3 300 "none").entry 0, neighbour, (slabPart 0 1 100 "A").entry 2].Perm
        (slabLines ++ [neighbour]) ∧
      slab.Rejoins slabSolution slabLines
        [(slabPart 1 3 300 "none").entry 0, neighbour, (slabPart 0 1 100 "A").entry 2] := by
  have plane : (beforeThree 1).dimensions = 2 := rfl
  have solved : (beforeThree 1).solve slab.resolution = .ok slabSolution := by cbv
  have nonneg : slabSolution.solved.Nonneg := by decide
  have success : slab.split (beforeThree 1) =
      .ok { partitions := [slabPart 0 1 100 "A", slabPart 1 3 300 "none"], scale := 1 } := by
    decide +kernel
  have lists : List.Forall₂ Listing.Entry.Lists [slabPart 0 1 100 "A", slabPart 1 3 300 "none"]
      slabLines := .cons (Partition.lists_entry _ 2) (.cons (Partition.lists_entry _ 0) .nil)
  have foreign : ∀ entry ∈ [neighbour], slab.Foreign entry := by
    intro entry member
    rcases List.mem_singleton.mp member with rfl
    exact ⟨neighbour_sound, by decide, by decide⟩
  have mixed : [(slabPart 1 3 300 "none").entry 0, neighbour, (slabPart 0 1 100 "A").entry 2].Perm
      (slabLines ++ [neighbour]) := by decide
  exact ⟨slab_listable, plane, solved, success, lists, foreign, mixed,
    (rejoins_iff_nonneg slab_listable plane solved success lists foreign mixed).mpr nonneg⟩

/-- The monitor in columns of one negative unit and three. -/
def crossedSolution : Solution :=
  { solved := { sums := [{ addends := [-1, 3] }, { addends := [1] }] }, scale := 2 }

/-- The lines of the two columns, one of them of negative width. -/
def crossedLines : List Listing.Entry :=
  [(slabPart 0 (-2) (-200) "A").entry 0, (slabPart (-2) 6 600 "none").entry 1]

/-- A line with a negative width describes no monitor, and without it the others do not give the
whole back. -/
theorem slab_not_rejoins :
    slab.Listable ∧ (beforeThree (-1)).dimensions = 2 ∧
      (beforeThree (-1)).solve slab.resolution = .ok crossedSolution ∧
      slab.split (beforeThree (-1)) =
        .ok { partitions := [slabPart 0 (-2) (-200) "A", slabPart (-2) 6 600 "none"], scale := 2 } ∧
      List.Forall₂ Listing.Entry.Lists [slabPart 0 (-2) (-200) "A", slabPart (-2) 6 600 "none"]
        crossedLines ∧
      ¬ slab.Rejoins crossedSolution crossedLines crossedLines ∧
      ∃ monitors found, Listing.monitors (Listing.text crossedLines) = .ok monitors ∧
        findParent slab.name monitors = .ok found ∧
        found.monitor.resolution = .plane 6 2 ∧ found.monitor.position = (-6, 0) := by
  have solved : (beforeThree (-1)).solve slab.resolution = .ok crossedSolution := by cbv
  have success : slab.split (beforeThree (-1)) =
      .ok { partitions := [slabPart 0 (-2) (-200) "A", slabPart (-2) 6 600 "none"], scale := 2 } := by
    decide +kernel
  have read : Listing.monitors (Listing.text crossedLines) =
      .ok [((slabPart (-2) 6 600 "none").entry 1).monitor] := by decide +kernel
  have rebuilt : findParent slab.name [((slabPart (-2) 6 600 "none").entry 1).monitor] =
      .ok {
        monitor := { slab with resolution := .plane 6 2, sizeMm := (600, 200), position := (-6, 0) }
        rebuiltFrom := 1 } := by decide +kernel
  refine ⟨slab_listable, rfl, solved, success,
    .cons (Partition.lists_entry _ 0) (.cons (Partition.lists_entry _ 1) .nil), ?_, ?_⟩
  · intro rejoins
    have listed := rejoins.listed
    rw [read] at listed
    exact absurd (congrArg List.length (Except.ok.inj listed)) (by decide)
  · exact ⟨_, _, read, rebuilt, rfl, rfl⟩

end Monitor

end MonitorSplit
