/-
Module: MonitorSplit.Proofs.Monitor.Faults
Purpose: When splitting and rebuilding monitors divides by zero or gives too large a number.
Main exports:
  Monitor.Measurable, Monitor.Unshared, Monitor.LacksPixels, Monitor.Defies, Monitor.exists_fault_iff,
  exists_rebuild_error_iff, measurable_of_rebuild, defies_iff_of_rebuild, ParentDefies,
  exists_parent_fault_iff
-/
import MonitorSplit.Proofs.Monitor.Millimetres
import MonitorSplit.Proofs.Monitor.Parent
import MonitorSplit.Proofs.Monitor.Plane
import MonitorSplit.Proofs.Monitor.Split
import MonitorSplit.Proofs.Number.Digits
import MonitorSplit.Proofs.Ratio.Flat

namespace MonitorSplit

/-!
### Reach

Monitors are so near the origin that all numbers about them can be written.
-/

/-- How far from the origin the pixels may be. -/
def reach : Int := 10 ^ (mostDigits - 1)

/-- Lengths between two places within reach can be written. -/
theorem writable_of_reach {number : Int} (low : -(2 * reach) ≤ number) (high : number ≤ 2 * reach) :
    Writable number := by
  have power : ((10 ^ mostDigits : Nat) : Int) = 10 * reach := by
    rw [reach, Nat.cast_pow, ← pow_succ']
    rfl
  have reach_pos : 0 < reach := pow_pos (by decide) _
  rw [writable_iff]
  omega

theorem shareLimit_le_reach : (shareLimit : Int) ≤ reach := by
  have limit : shareLimit ≤ 10 ^ (mostDigits - 1) := lastTie_le_pow (by decide)
  rw [reach]
  exact_mod_cast limit

namespace Monitor

/-!
### Shares of a monitor
-/

/-- The monitor is a plane without negative lengths.  Its millimetres do not reach the limit, and its
pixels are within reach. -/
structure Measurable (monitor : Monitor) : Prop where
  plane : monitor.resolution.dimensions = 2
  width : 0 ≤ monitor.resolution.width
  height : 0 ≤ monitor.resolution.height
  widthMm : 0 ≤ monitor.sizeMm.1 ∧ monitor.sizeMm.1 < shareLimit
  heightMm : 0 ≤ monitor.sizeMm.2 ∧ monitor.sizeMm.2 < shareLimit
  horizontal : -reach ≤ monitor.position.1 ∧ monitor.position.1 + monitor.resolution.width ≤ reach
  vertical : -reach ≤ monitor.position.2 ∧ monitor.position.2 + monitor.resolution.height ≤ reach

/-- A length of so many pixels has no share of the monitor's millimetres on one of the axes. -/
def Unshared (monitor : Monitor) (width height : Int) : Prop :=
  NoShare monitor.sizeMm.1 width monitor.resolution.width ∨
    NoShare monitor.sizeMm.2 height monitor.resolution.height

/-- The monitor has no pixels for the millimetres of one of its axes. -/
def LacksPixels (monitor : Monitor) : Prop :=
  monitor.sizeMm.1 ≠ 0 ∧ monitor.resolution.width = 0 ∨
    monitor.sizeMm.2 ≠ 0 ∧ monitor.resolution.height = 0

section

variable {monitor : Monitor}

theorem Measurable.nonneg (measurable : monitor.Measurable) : monitor.resolution.Nonneg := by
  rw [Box.Nonneg, Box.lengths_of_dimensions measurable.plane]
  simp [measurable.width, measurable.height]

/-- On both axes the share cannot be told just if there is none. -/
theorem Measurable.exists_shares_error_iff (measurable : monitor.Measurable) {width height : Int}
    (width_nonneg : 0 ≤ width) (height_nonneg : 0 ≤ height) :
    ((∃ fault, proportion monitor.sizeMm.1 width monitor.resolution.width = .error fault) ∨
        ∃ fault, proportion monitor.sizeMm.2 height monitor.resolution.height = .error fault) ↔
      monitor.Unshared width height := by
  rw [exists_proportion_eq_error_iff measurable.widthMm.1 width_nonneg measurable.width,
    exists_proportion_eq_error_iff measurable.heightMm.1 height_nonneg measurable.height, Unshared]

/-- A cell of a monitor has its share unless there are no pixels to share them by. -/
theorem Measurable.unshared_iff (measurable : monitor.Measurable) {cell : Cell}
    (inPlane : cell.InPlane monitor.resolution.width monitor.resolution.height) :
    monitor.Unshared (planePair cell.size).1 (planePair cell.size).2 ↔ monitor.LacksPixels := by
  have wide : (planePair cell.size).1 ≤ monitor.resolution.width := by
    have := inPlane.left
    have := inPlane.right
    omega
  have high : (planePair cell.size).2 ≤ monitor.resolution.height := by
    have := inPlane.top
    have := inPlane.bottom
    omega
  rw [Unshared, noShare_iff_of_le measurable.widthMm.1 measurable.widthMm.2 wide measurable.width,
    noShare_iff_of_le measurable.heightMm.1 measurable.heightMm.2 high measurable.height, LacksPixels]

/-- All numbers of a cell's partition can be written. -/
theorem Measurable.writable (measurable : monitor.Measurable) {cell : Cell}
    (inPlane : cell.InPlane monitor.resolution.width monitor.resolution.height)
    {widthMm heightMm : Int}
    (wide : proportion monitor.sizeMm.1 (planePair cell.size).1 monitor.resolution.width = .ok widthMm)
    (high : proportion monitor.sizeMm.2 (planePair cell.size).2 monitor.resolution.height =
      .ok heightMm) :
    ∀ number ∈ [(planePair cell.position).1, (planePair cell.position).2, (planePair cell.size).1,
        widthMm, (planePair cell.size).2, heightMm, monitor.position.1 + (planePair cell.position).1,
        monitor.position.2 + (planePair cell.position).2], Writable number := by
  obtain ⟨left, right⟩ := measurable.horizontal
  obtain ⟨top, bottom⟩ := measurable.vertical
  have limit := shareLimit_le_reach
  have widthMm_nonneg :=
    nonneg_of_proportion measurable.widthMm.1 inPlane.widthNonneg measurable.width wide
  have heightMm_nonneg :=
    nonneg_of_proportion measurable.heightMm.1 inPlane.heightNonneg measurable.height high
  have widthMm_lt := proportion_lt_shareLimit wide
  have heightMm_lt := proportion_lt_shareLimit high
  obtain ⟨cellLeft, cellTop, cellRight, cellBottom, wide_nonneg, high_nonneg⟩ := inPlane
  have width := measurable.width
  have height := measurable.height
  simp only [List.forall_mem_cons]
  refine ⟨?_, ?_, ?_, ?_, ?_, ?_, ?_, ?_, List.forall_mem_nil _⟩ <;>
    apply writable_of_reach <;> omega

theorem Measurable.exists_partition_error_iff (measurable : monitor.Measurable) {cell : Cell}
    (inPlane : cell.InPlane monitor.resolution.width monitor.resolution.height) (output : String) :
    (∃ fault, monitor.partition output cell = .error fault) ↔ monitor.LacksPixels := by
  rw [← measurable.unshared_iff inPlane,
    ← measurable.exists_shares_error_iff inPlane.widthNonneg inPlane.heightNonneg, exists_error_iff]
  constructor
  · intro none_made
    by_contra shared
    simp only [exists_error_iff, not_or, not_forall, not_not] at shared
    obtain ⟨⟨widthMm, wide⟩, heightMm, high⟩ := shared
    exact none_made _ (partition_eq_ok_iff.mpr
      ⟨widthMm, heightMm, wide, high, rfl, measurable.writable inPlane wide high⟩)
  · intro unshared part made
    obtain ⟨widthMm, heightMm, wide, high, -, -⟩ := partition_eq_ok_iff.mp made
    rcases unshared with ⟨fault, failed⟩ | ⟨fault, failed⟩
    · cases wide.symm.trans failed
    · cases high.symm.trans failed

/-- So the partitions of some cells all fail or none does. -/
theorem Measurable.exists_partitions_error_iff (measurable : monitor.Measurable) {cells : List Cell}
    (nonempty : cells ≠ [])
    (inPlane : ∀ cell ∈ cells, cell.InPlane monitor.resolution.width monitor.resolution.height) :
    (∃ fault, monitor.partitions cells = .error fault) ↔ monitor.LacksPixels := by
  obtain ⟨first, rest, rfl⟩ := List.exists_cons_of_ne_nil nonempty
  obtain ⟨head, others⟩ := List.forall_mem_cons.mp inPlane
  have both : (∃ fault, monitor.partitions (first :: rest) = .error fault) ↔
      (∃ fault, monitor.partition monitor.outputOrName first = .error fault) ∨
        ∃ fault, rest.mapM (monitor.partition noOutput) = .error fault := exists_error_of_both_iff
  rw [both, measurable.exists_partition_error_iff head, exists_mapM_error_iff, or_iff_left_iff_imp]
  rintro ⟨cell, member, failed⟩
  exact (measurable.exists_partition_error_iff (others cell member) noOutput).mp failed

end

/-!
### Faults of a split
-/

/-- Why splitting a monitor by a ratio is no matter of the ratio, or cannot be told to be one: no axis
has a length while all that imply a scale imply zero, or the ratio fits and the millimetres cannot be
shared, or the ratio does not fit and why takes a number that is too long to be written. -/
inductive Defies (monitor : Monitor) (ratio : Ratio) : Prop where
  | scale (flat : monitor.resolution.Flat) (scales : ratio.ScalesToZero)
  | share {solution : Solution} (solved : ratio.solve monitor.resolution = .ok solution)
      (lacks : monitor.LacksPixels)
  | untold {cause : RatioFailure} (unfit : ratio.solve monitor.resolution = .error (.raise cause))
      (long : ¬ ∀ number ∈ cause.numbers, Writable number)

section

variable {monitor : Monitor} {ratio : Ratio}

/-- A ratio that does not fit is said of the monitor that was to be split. -/
theorem name_of_split_unfit {name : String} {cause : RatioFailure}
    (unfit : monitor.split ratio = .error (.unfit name cause)) : name = monitor.name := by
  cases outcome : ratio.solve monitor.resolution with
  | ok solution =>
      rw [split_of_solve outcome] at unfit
      cases made : monitor.partitions solution.pixelCells <;> simp [made] at unfit
  | error failure =>
      rw [split, outcome] at unfit
      cases failure with
      | unfit found =>
          cases unfit
          rfl
      | shape found | zeroScale | overlong => cases unfit

/-- Apart from a ratio that does not fit, just the monitors that defy it are not split. -/
theorem exists_fault_iff (measurable : monitor.Measurable) (nonneg : ratio.KnownNonneg)
    (plane : ratio.dimensions = 2) :
    (∃ failure, monitor.split ratio = .error failure ∧ ∀ name cause, failure ≠ .unfit name cause) ↔
      monitor.Defies ratio := by
  have same : monitor.resolution.dimensions = ratio.dimensions := measurable.plane.trans plane.symm
  have scale_iff := Ratio.solve_eq_zeroScale_iff same
  cases outcome : ratio.solve monitor.resolution with
  | ok solution =>
      have inPlane : ∀ cell ∈ solution.pixelCells,
          cell.InPlane monitor.resolution.width monitor.resolution.height := fun cell member =>
        Ratio.inPlane_of_mem_pixelCells outcome
          (SolvedRatio.nonneg_of_lengths nonneg measurable.nonneg outcome)
          (Box.lengths_of_dimensions measurable.plane) member
      have some_cell : solution.pixelCells ≠ [] := by
        simpa [Solution.pixelCells] using Ratio.cells_of_solve_ne_nil outcome
      have failed_iff : (∃ failure, monitor.split ratio = .error failure ∧
          ∀ name cause, failure ≠ .unfit name cause) ↔
            ∃ fault, monitor.partitions solution.pixelCells = .error fault := by
        rw [split_of_solve outcome]
        cases monitor.partitions solution.pixelCells <;> simp
      rw [failed_iff, measurable.exists_partitions_error_iff some_cell inPlane]
      constructor
      · exact .share outcome
      · rintro (⟨flat, scales⟩ | ⟨-, lacks⟩ | ⟨unfit, -⟩)
        · cases outcome.symm.trans (scale_iff.mpr ⟨flat, scales⟩)
        · exact lacks
        · cases outcome.symm.trans unfit
  | error cause =>
      have defies_iff : monitor.Defies ratio ↔ cause = .zeroScale ∨ cause = .overlong := by
        constructor
        · rintro (⟨flat, scales⟩ | ⟨solved, -⟩ | ⟨unfit, long⟩)
          · exact .inl (Except.error.inj (outcome.symm.trans (scale_iff.mpr ⟨flat, scales⟩)))
          · cases outcome.symm.trans solved
          · exact .inr (Except.error.inj
              (outcome.symm.trans (Ratio.solve_eq_overlong_iff.mpr ⟨_, unfit, long⟩)))
        · rintro (rfl | rfl)
          · obtain ⟨flat, scales⟩ := scale_iff.mp outcome
            exact .scale flat scales
          · obtain ⟨_, unfit, long⟩ := Ratio.solve_eq_overlong_iff.mp outcome
            exact .untold unfit long
      rw [defies_iff]
      cases cause with
      | unfit cause => simp [split, outcome, SplitFailure.ofSolve]
      | zeroScale | overlong => simp [split, outcome, SplitFailure.ofSolve]
      | shape cause => exact absurd outcome (Ratio.solve_ne_shape same cause)

end

end Monitor

/-!
### Faults of a parent

A parent is rebuilt with the millimetres of its first part in proportion.  That part is no longer
than the whole, so a parent that can be rebuilt has no millimetres on an axis without pixels.
-/

section

variable {name : String} {first rebuilt : Monitor} {others : List Monitor} {ratio : Ratio}

theorem width_le_spanWidth (first : Monitor) (others : List Monitor) :
    first.resolution.width ≤ spanWidth first others := by
  have left : leastOf (·.position.1) first others ≤ first.position.1 := leastOf_le List.mem_cons_self
  have right : first.position.1 + first.resolution.width ≤
      greatestOf (fun part => part.position.1 + part.resolution.width) first others :=
    le_greatestOf List.mem_cons_self
  unfold spanWidth
  omega

theorem height_le_spanHeight (first : Monitor) (others : List Monitor) :
    first.resolution.height ≤ spanHeight first others := by
  have top : leastOf (·.position.2) first others ≤ first.position.2 := leastOf_le List.mem_cons_self
  have bottom : first.position.2 + first.resolution.height ≤
      greatestOf (fun part => part.position.2 + part.resolution.height) first others :=
    le_greatestOf List.mem_cons_self
  unfold spanHeight
  omega

/-- Rebuilding fails just if the box of the parts has no share of the first part's millimetres. -/
theorem exists_rebuild_error_iff (measurable : first.Measurable) :
    (∃ fault, rebuild name first others = .error fault) ↔
      first.Unshared (spanWidth first others) (spanHeight first others) := by
  have wide := measurable.width.trans (width_le_spanWidth first others)
  have high := measurable.height.trans (height_le_spanHeight first others)
  rw [← measurable.exists_shares_error_iff wide high]
  exact exists_error_of_both_iff

/-- The share of a span that is not shorter than its length, if it can be told, can be shared on.  A
span without pixels has none. -/
theorem share_of_span {millimetres span length share : Int} (millimetres_nonneg : 0 ≤ millimetres)
    (length_nonneg : 0 ≤ length) (longer : length ≤ span)
    (success : proportion millimetres span length = .ok share) :
    (0 ≤ share ∧ share < shareLimit) ∧ (span = 0 → share = 0) := by
  have nonneg :=
    nonneg_of_proportion millimetres_nonneg (length_nonneg.trans longer) length_nonneg success
  refine ⟨⟨nonneg, proportion_lt_shareLimit success⟩, fun no_pixels => ?_⟩
  -- then the length is none either, and only no millimetres at all can be told of it
  obtain rfl : length = 0 := by omega
  unfold proportion at success
  split at success
  · exact (Except.ok.inj success).symm
  · cases success

/-- The box of parts within reach is within reach. -/
theorem within_reach_of_parts (each : ∀ part ∈ first :: others, part.Measurable) :
    (-reach ≤ leastOf (·.position.1) first others ∧
        leastOf (·.position.1) first others + spanWidth first others ≤ reach) ∧
      (-reach ≤ leastOf (·.position.2) first others ∧
        leastOf (·.position.2) first others + spanHeight first others ≤ reach) := by
  unfold spanWidth spanHeight
  rw [add_sub_cancel, add_sub_cancel]
  exact ⟨⟨le_leastOf_iff.mpr fun part member => (each part member).horizontal.1,
      greatestOf_le_iff.mpr fun part member => (each part member).horizontal.2⟩,
    le_leastOf_iff.mpr fun part member => (each part member).vertical.1,
    greatestOf_le_iff.mpr fun part member => (each part member).vertical.2⟩

/-- So a monitor rebuilt from measurable parts is measurable, and can be shared. -/
theorem measurable_of_rebuild (each : ∀ part ∈ first :: others, part.Measurable)
    (success : rebuild name first others = .ok rebuilt) :
    rebuilt.Measurable ∧ ¬ rebuilt.LacksPixels := by
  have measurable := each first List.mem_cons_self
  obtain ⟨_, _, wide, high, rfl⟩ := exists_of_rebuild success
  have longer := width_le_spanWidth first others
  have higher := height_le_spanHeight first others
  obtain ⟨widthMm, no_width⟩ := share_of_span measurable.widthMm.1 measurable.width longer wide
  obtain ⟨heightMm, no_height⟩ := share_of_span measurable.heightMm.1 measurable.height higher high
  obtain ⟨horizontal, vertical⟩ := within_reach_of_parts each
  constructor
  · exact {
      plane := rfl
      width := measurable.width.trans longer
      height := measurable.height.trans higher
      widthMm, heightMm, horizontal, vertical }
  · rintro (⟨measured, no_pixels⟩ | ⟨measured, no_pixels⟩)
    · exact measured (no_width no_pixels)
    · exact measured (no_height no_pixels)

/-- The box of some parts does not fit the ratio, and why cannot be told. -/
def SpanUntold (first : Monitor) (others : List Monitor) (ratio : Ratio) : Prop :=
  ∃ cause : RatioFailure,
    ratio.solve (.plane (spanWidth first others) (spanHeight first others)) =
        .error (.raise cause) ∧
      ¬ ∀ number ∈ cause.numbers, Writable number

/-- So a rebuilt monitor defies a ratio only by its box. -/
theorem defies_iff_of_rebuild (each : ∀ part ∈ first :: others, part.Measurable)
    (success : rebuild name first others = .ok rebuilt) :
    rebuilt.Defies ratio ↔
      (spanWidth first others = 0 ∧ spanHeight first others = 0) ∧ ratio.ScalesToZero ∨
        SpanUntold first others ratio := by
  obtain ⟨-, shared⟩ := measurable_of_rebuild each success
  have box : rebuilt.resolution = .plane (spanWidth first others) (spanHeight first others) := by
    obtain ⟨_, _, -, -, rfl⟩ := exists_of_rebuild success
    rfl
  have flat_iff : rebuilt.resolution.Flat ↔
      spanWidth first others = 0 ∧ spanHeight first others = 0 := by
    rw [box]
    simp [Box.Flat, Box.plane]
  rw [← flat_iff, SpanUntold, ← box]
  constructor
  · rintro (⟨flat, scales⟩ | ⟨-, lacks⟩ | ⟨unfit, long⟩)
    · exact .inl ⟨flat, scales⟩
    · exact absurd lacks shared
    · exact .inr ⟨_, unfit, long⟩
  · rintro (⟨flat, scales⟩ | ⟨_, unfit, long⟩)
    · exact .scale flat scales
    · exact .untold unfit long

end

/-- Why a parent found by its name or rebuilt is no matter of a ratio: the listed monitor defies it, or
the parts leave no share of the first one's millimetres, or they have no length to divide, or it cannot
be told why the ratio does not fit them. -/
inductive ParentDefies (name : String) (monitors : List Monitor) (ratio : Ratio) : Prop where
  | whole {monitor : Monitor} (found : find name monitors = .ok monitor)
      (defies : monitor.Defies ratio)
  | share {first : Monitor} {others : List Monitor}
      (unlisted : ∀ monitor ∈ monitors, monitor.name ≠ name)
      (parts : partitionsOf name monitors = first :: others)
      (unshared : first.Unshared (spanWidth first others) (spanHeight first others))
  | scale {first : Monitor} {others : List Monitor}
      (unlisted : ∀ monitor ∈ monitors, monitor.name ≠ name)
      (parts : partitionsOf name monitors = first :: others)
      (flat : spanWidth first others = 0 ∧ spanHeight first others = 0)
      (scales : ratio.ScalesToZero)
  | untold {first : Monitor} {others : List Monitor}
      (unlisted : ∀ monitor ∈ monitors, monitor.name ≠ name)
      (parts : partitionsOf name monitors = first :: others)
      (untold : SpanUntold first others ratio)

section

variable {name : String} {monitors : List Monitor} {ratio : Ratio}

theorem parentDefies_of_find {monitor : Monitor} (found : find name monitors = .ok monitor) :
    ParentDefies name monitors ratio ↔ monitor.Defies ratio := by
  constructor
  · rintro (⟨same, defies⟩ | ⟨unlisted, -, -⟩ | ⟨unlisted, -, -, -⟩ | ⟨unlisted, -, -⟩)
    · cases found.symm.trans same
      exact defies
    all_goals exact absurd (name_of_find found) (unlisted monitor (mem_of_find found))
  · exact .whole found

theorem parentDefies_of_parts {first : Monitor} {others : List Monitor}
    (unlisted : ∀ monitor ∈ monitors, monitor.name ≠ name)
    (parts : partitionsOf name monitors = first :: others) :
    ParentDefies name monitors ratio ↔
      first.Unshared (spanWidth first others) (spanHeight first others) ∨
        (spanWidth first others = 0 ∧ spanHeight first others = 0) ∧ ratio.ScalesToZero ∨
          SpanUntold first others ratio := by
  constructor
  · rintro (⟨found, -⟩ | ⟨-, same, unshared⟩ | ⟨-, same, flat, scales⟩ | ⟨-, same, untold⟩)
    · exact absurd (name_of_find found) (unlisted _ (mem_of_find found))
    · cases parts.symm.trans same
      exact .inl unshared
    · cases parts.symm.trans same
      exact .inr (.inl ⟨flat, scales⟩)
    · cases parts.symm.trans same
      exact .inr (.inr untold)
  · rintro (unshared | ⟨flat, scales⟩ | untold)
    · exact .share unlisted parts unshared
    · exact .scale unlisted parts flat scales
    · exact .untold unlisted parts untold

theorem not_parentDefies_of_nil (unlisted : ∀ monitor ∈ monitors, monitor.name ≠ name)
    (none_left : partitionsOf name monitors = []) : ¬ ParentDefies name monitors ratio := by
  rintro (⟨found, -⟩ | ⟨-, parts, -⟩ | ⟨-, parts, -, -⟩ | ⟨-, parts, -⟩)
  · exact unlisted _ (mem_of_find found) (name_of_find found)
  all_goals cases none_left.symm.trans parts

/-- The partitions among measurable monitors are measurable. -/
theorem measurable_of_parts (measurable : ∀ monitor ∈ monitors, monitor.Measurable) {first : Monitor}
    {others : List Monitor} (parts : partitionsOf name monitors = first :: others) :
    ∀ part ∈ first :: others, part.Measurable := by
  intro part member
  rw [← parts] at member
  exact measurable part (List.mem_of_mem_filter member)

theorem measurable_of_findParent (measurable : ∀ monitor ∈ monitors, monitor.Measurable)
    {found : Found} (success : findParent name monitors = .ok found) : found.monitor.Measurable := by
  rcases whole_or_rebuilt success with ⟨listed, -⟩ | ⟨first, others, parts, rebuilt⟩
  · exact measurable found.monitor listed
  · exact (measurable_of_rebuild (measurable_of_parts measurable parts) rebuilt).1

/-- Just these parents cannot be rebuilt, or are found and defy the ratio. -/
theorem exists_parent_fault_iff (measurable : ∀ monitor ∈ monitors, monitor.Measurable) :
    ((∃ fault, findParent name monitors = .error (.millimetres fault)) ∨
        ∃ found, findParent name monitors = .ok found ∧ found.monitor.Defies ratio) ↔
      ParentDefies name monitors ratio := by
  cases listed : monitors.find? (·.name = name) with
  | some monitor =>
      rw [parentDefies_of_find (find_eq_ok_iff.mpr listed)]
      simp [findParent, listed]
  | none =>
      have unlisted : ∀ monitor ∈ monitors, monitor.name ≠ name := by simpa using listed
      cases parts : partitionsOf name monitors with
      | nil =>
          simp [findParent, listed, parts, not_parentDefies_of_nil unlisted parts]
      | cons first others =>
          have each := measurable_of_parts measurable parts
          rw [parentDefies_of_parts unlisted parts,
            ← exists_rebuild_error_iff (each first List.mem_cons_self)]
          cases rebuilt : rebuild name first others with
          | error fault => simp [findParent, listed, parts, rebuilt]
          | ok monitor =>
              rw [← defies_iff_of_rebuild each rebuilt]
              simp [findParent, listed, parts, rebuilt]

end

end MonitorSplit
