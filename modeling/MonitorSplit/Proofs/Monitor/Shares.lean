/-
Module: MonitorSplit.Proofs.Monitor.Shares
Purpose: How far the millimetres of parts, and of what is rebuilt from them, are off.
Main exports:
  roundsTo_of_proportion, exists_back_near, Strip, SharesOut, Partition.ListedAs, Monitor.Precise,
  Monitor.InProportion, Monitor.inProportion_of_split
-/
import MonitorSplit.Proofs.Monitor.Rejoin
import MonitorSplit.Proofs.Number.TwiceRounded

namespace MonitorSplit

/-!
### Shares of small products

Where millimetres times pixels stay below 2 ^ 52 the share of a part is the exact quotient
rounded.  That it is rounded to a binary number first makes no difference.
-/

section

variable {millimetres part whole share : Int}

theorem two_pow_lt_quotientLimit : (2 ^ 53 : Int) < quotientLimit := by
  obtain ⟨digits, enough, limit, -⟩ := exists_limit_eq
  have more : 2 ^ 53 < quotientLimit := by
    rw [limit]
    exact Nat.pow_lt_pow_right one_lt_two (by omega)
  exact_mod_cast more

theorem roundsTo_of_proportion (millimetres_nonneg : 0 ≤ millimetres) (part_nonneg : 0 ≤ part)
    (whole_pos : 0 < whole) (small : millimetres * part < 2 ^ 52)
    (success : proportion millimetres part whole = .ok share) :
    RoundsTo (millimetres * part / whole) share := by
  have product_nonneg : 0 ≤ millimetres * part := mul_nonneg millimetres_nonneg part_nonneg
  have positive : 0 < whole.natAbs := Int.natAbs_pos.mpr whole_pos.ne'
  have below : (millimetres * part).natAbs < 2 ^ 52 := by
    have same := Int.natAbs_of_nonneg product_nonneg
    omega
  have value :
      ((millimetres * part).natAbs : ℚ) / (whole.natAbs : ℚ) = millimetres * part / whole := by
    rw [Nat.cast_natAbs, Nat.cast_natAbs, abs_of_nonneg product_nonneg, abs_of_pos whole_pos,
      Int.cast_mul]
  rw [eq_round_of_proportion millimetres_nonneg part_nonneg whole_pos success,
    round_nearestBinary_of_lt positive below, ← value]
  exact (isNearest_roundHalfEven positive _).roundsTo positive

/-- Such a share can be told. -/
theorem exists_proportion_of_lt (millimetres_nonneg : 0 ≤ millimetres) (part_nonneg : 0 ≤ part)
    (whole_pos : 0 < whole) (small : millimetres * part < 2 ^ 52) :
    ∃ share, proportion millimetres part whole = .ok share := by
  have unit : (quotientLimit : Int) ≤ quotientLimit * whole :=
    le_mul_of_one_le_right (Int.natCast_nonneg _) whole_pos
  have limit := two_pow_lt_quotientLimit
  refine exists_proportion millimetres_nonneg part_nonneg whole_pos ?_
  generalize (quotientLimit : Int) = most at unit limit ⊢
  omega

/-- A whole number that bounds the value bounds the value rounded. -/
theorem RoundsTo.le {value : ℚ} {whole bound : Int} (rounded : RoundsTo value whole)
    (within : value ≤ bound) : whole ≤ bound := by
  obtain ⟨upper, -⟩ := abs_sub_le_half_iff.mp rounded.near
  have close : (whole : ℚ) < (bound + 1 : Int) := by
    push_cast
    linarith
  exact Int.lt_add_one_iff.mp (by exact_mod_cast close)

/-- Taken back to the whole, the share of a part is off by half a millimetre for every part that
fits into the whole, and by another half. -/
theorem exists_back_near (millimetres_nonneg : 0 ≤ millimetres) (part_nonneg : 0 ≤ part)
    (part_le : part ≤ whole) (whole_pos : 0 < whole) (small : millimetres * whole < 2 ^ 52)
    (success : proportion millimetres part whole = .ok share) :
    ∃ back, proportion share whole part = .ok back ∧
      (0 < part → |(back : ℚ) - millimetres| ≤ whole / (2 * part) + 1 / 2) := by
  have product_le : millimetres * part ≤ millimetres * whole :=
    mul_le_mul_of_nonneg_left part_le millimetres_nonneg
  obtain ⟨share_nonneg, share_le⟩ :=
    bounds_of_proportion millimetres_nonneg part_nonneg whole_pos success
  have rounded := roundsTo_of_proportion millimetres_nonneg part_nonneg whole_pos
    (product_le.trans_lt small) success
  rcases part_nonneg.eq_or_lt with rfl | part_pos
  · have no_share := eq_zero_of_proportion millimetres_nonneg whole_pos success
    exact ⟨0, by simp [proportion, no_share], fun some_length => absurd some_length (lt_irrefl 0)⟩
  · have wholeLength : (0 : ℚ) < whole := by exact_mod_cast whole_pos
    have partLength : (0 : ℚ) < part := by exact_mod_cast part_pos
    have known : share ≤ millimetres := by
      refine rounded.le ?_
      rw [div_le_iff₀ wholeLength]
      exact_mod_cast product_le
    have back_small : share * whole < 2 ^ 52 :=
      (mul_le_mul_of_nonneg_right known whole_pos.le).trans_lt small
    obtain ⟨back, returned⟩ :=
      exists_proportion_of_lt share_nonneg whole_pos.le part_pos back_small
    refine ⟨back, returned, fun _ => ?_⟩
    have again := roundsTo_of_proportion share_nonneg whole_pos.le part_pos back_small returned
    have scaled : (share : ℚ) * whole / part - millimetres =
        (share - millimetres * part / whole) * (whole / part) := by
      field_simp
    calc |(back : ℚ) - millimetres|
        ≤ |(back : ℚ) - share * whole / part| + |(share : ℚ) * whole / part - millimetres| :=
          abs_sub_le _ _ _
      _ ≤ 1 / 2 + 1 / 2 * (whole / part) := by
          rw [scaled, abs_mul, abs_of_pos (div_pos wholeLength partLength), abs_sub_comm (back : ℚ),
            abs_sub_comm (share : ℚ)]
          exact add_le_add again.near
            (mul_le_mul_of_nonneg_right rounded.near (div_pos wholeLength partLength).le)
      _ = whole / (2 * part) + 1 / 2 := by ring

end

/-!
### Strips

Columns cut the width of a monitor into strips, and rows its height.  Each strip has its share of
the millimetres, and rounding takes at most half a millimetre from a strip or adds it.
-/

/-- A strip of an axis with its length in pixels and in millimetres. -/
structure Strip where
  pixels : Int
  millimetres : Int
deriving DecidableEq

/-- The strip of so many pixels, with its share if it has one. -/
def Strip.of (millimetres whole pixels : Int) : Strip where
  pixels
  millimetres := (proportion millimetres pixels whole).toOption.getD 0

/-- The strips fill an axis and share out its millimetres: each has the exact quotient rounded. -/
structure SharesOut (millimetres whole : Int) (strips : List Strip) : Prop where
  filled : (strips.map Strip.pixels).sum = whole
  nonneg : ∀ strip ∈ strips, 0 ≤ strip.pixels
  share : ∀ strip ∈ strips, ∀ share,
    RoundsTo (millimetres * strip.pixels / whole) share ↔ share = strip.millimetres
  total : |((strips.map Strip.millimetres).sum : ℚ) - millimetres| ≤ strips.length / 2

section

variable {millimetres whole : Int}

theorem Strip.of_proportion {pixels share : Int}
    (success : proportion millimetres pixels whole = .ok share) :
    Strip.of millimetres whole pixels = { pixels, millimetres := share } := by
  rw [Strip.of, success]
  rfl

/-- Rounded shares add up to the whole but for half a unit each. -/
theorem abs_sum_sub_le {strips : List Strip} (factor : ℚ)
    (near : ∀ strip ∈ strips, |factor * strip.pixels - strip.millimetres| ≤ 1 / 2) :
    |((strips.map Strip.millimetres).sum : ℚ) - factor * (strips.map Strip.pixels).sum| ≤
      strips.length / 2 := by
  induction strips with
  | nil => simp
  | cons strip rest inductionHypothesis =>
      obtain ⟨head, tail⟩ := List.forall_mem_cons.mp near
      have others := inductionHypothesis tail
      simp only [List.map_cons, List.sum_cons, List.length_cons, Int.cast_add, Nat.cast_add,
        Nat.cast_one]
      rw [abs_le] at head others ⊢
      constructor <;> linarith

/-- Lengths that fill an axis make strips that share out its millimetres. -/
theorem sharesOut_of_lengths (millimetres_nonneg : 0 ≤ millimetres) (whole_pos : 0 < whole)
    (small : millimetres * whole < 2 ^ 52) {lengths : List Int}
    (nonneg : ∀ length ∈ lengths, 0 ≤ length) (filled : lengths.sum = whole) :
    SharesOut millimetres whole (lengths.map (Strip.of millimetres whole)) := by
  have pixels : (lengths.map (Strip.of millimetres whole)).map Strip.pixels = lengths := by
    rw [List.map_map]
    exact List.map_id lengths
  have rounded : ∀ strip ∈ lengths.map (Strip.of millimetres whole),
      RoundsTo (millimetres * strip.pixels / whole) strip.millimetres := by
    intro strip member
    obtain ⟨length, listed, rfl⟩ := List.mem_map.mp member
    have length_nonneg := nonneg length listed
    have within : millimetres * length < 2 ^ 52 := by
      refine (mul_le_mul_of_nonneg_left ?_ millimetres_nonneg).trans_lt small
      exact filled ▸ List.single_le_sum nonneg length listed
    obtain ⟨share, success⟩ :=
      exists_proportion_of_lt millimetres_nonneg length_nonneg whole_pos within
    rw [Strip.of_proportion success]
    exact roundsTo_of_proportion millimetres_nonneg length_nonneg whole_pos within success
  constructor
  case filled => rw [pixels, filled]
  case nonneg =>
    intro strip member
    obtain ⟨length, listed, rfl⟩ := List.mem_map.mp member
    exact nonneg length listed
  case share =>
    intro strip member share
    exact ⟨fun also => also.unique (rounded strip member), fun same => same ▸ rounded strip member⟩
  case total =>
    have near := abs_sum_sub_le (millimetres / whole : ℚ) fun strip member => by
      rw [div_mul_eq_mul_div]
      exact (rounded strip member).near
    rwa [pixels, filled, div_mul_cancel₀ _ (by exact_mod_cast whole_pos.ne')] at near

end

/-!
### Grids of strips
-/

/-- The column of a part. -/
def Partition.column (part : Partition) : Strip where
  pixels := part.geometry.width
  millimetres := part.geometry.widthMm

/-- The row of a part. -/
def Partition.row (part : Partition) : Strip where
  pixels := part.geometry.height
  millimetres := part.geometry.heightMm

/-- The monitor is listed for the partition, whatever its output and its flags. -/
structure Partition.ListedAs (part : Partition) (listed : Monitor) : Prop where
  name : listed.name = part.name
  resolution : listed.resolution = .plane part.geometry.width part.geometry.height
  sizeMm : listed.sizeMm = (part.geometry.widthMm, part.geometry.heightMm)
  position : listed.position = (part.geometry.x, part.geometry.y)

section

variable {ratio : Ratio} {box : Box} {solution : Solution}

/-- Every axis of a solution is cut as often as that of the ratio. -/
theorem Ratio.sizes_of_solve (solved : ratio.solve box = .ok solution) :
    solution.solved.sums.map SolvedSum.size = ratio.sums.map AxisSum.size := by
  obtain ⟨base, -, -, -, each⟩ := axes_of_solve solved
  have axes : (ratio.axes box).map Prod.fst = ratio.sums :=
    List.map_fst_zip (dimensions_of_solve solved).ge
  rw [← axes, List.map_map, ← List.forall₂_eq_eq_eq, List.forall₂_map_left_iff,
    List.forall₂_map_right_iff]
  refine each.flip.imp fun sum axis success => ?_
  obtain ⟨share, -, rfl⟩ := AxisSum.exists_eq_fill_of_solve success
  rw [AxisSum.size_fill, AxisSum.size_times, Function.comp_apply]

/-- The cells of a plane are all pairs of a column and a row. -/
theorem Solution.map_pixelCells {α β : Type} {columns rows : SolvedSum}
    (plane : solution.solved.sums = [columns, rows]) (column : Int → α) (row : Int → β) :
    solution.pixelCells.map (fun cell => (column (planePair cell.size).1, row (planePair cell.size).2)) =
      (columns.addends.map (· * solution.scale)).map column ×ˢ
        (rows.addends.map (· * solution.scale)).map row := by
  have addends (sum : SolvedSum) : sum.addends = sum.withOffsets.map Prod.fst :=
    (SolvedSum.map_fst_offsetsFrom 0 sum.addends).symm
  rw [addends columns, addends rows, pixelCells, SolvedRatio.cells, plane]
  simp [choices_cons, choices, extendEach, SProd.sprod, List.product, List.map_flatMap,
    List.flatMap_map, ← List.map_eq_flatMap, Function.comp_def, Cell.scaled, Cell.ofChoice,
    planePair]

end

namespace Monitor

section

variable {monitor : Monitor} {ratio : Ratio} {solution : Solution} {split : Split}

theorem Makes.strips {cell : Cell} {part : Partition} (makes : monitor.Makes cell part) :
    (part.column, part.row) =
      (Strip.of monitor.sizeMm.1 monitor.resolution.width (planePair cell.size).1,
        Strip.of monitor.sizeMm.2 monitor.resolution.height (planePair cell.size).2) := by
  obtain ⟨output, -, made⟩ := makes
  obtain ⟨widthMm, heightMm, wide, high, rfl, -⟩ := partition_eq_ok_iff.mp made
  rw [Strip.of_proportion wide, Strip.of_proportion high]
  rfl

/-- The monitor has pixels, and millimetres times pixels stay below 2 ^ 52 on both axes. -/
structure Precise (monitor : Monitor) : Prop where
  positive : monitor.resolution.Positive
  widthMm : 0 ≤ monitor.sizeMm.1 ∧ monitor.sizeMm.1 * monitor.resolution.width < 2 ^ 52
  heightMm : 0 ≤ monitor.sizeMm.2 ∧ monitor.sizeMm.2 * monitor.resolution.height < 2 ^ 52

/-- Spans have lengths in pixels that fill the axis. -/
theorem lengths_of_spans {scale length : Int} {sum : SolvedSum} (scale_nonneg : 0 ≤ scale)
    (spans : Spans scale sum length) :
    (∀ part ∈ sum.addends.map (· * scale), 0 ≤ part) ∧ (sum.addends.map (· * scale)).sum = length := by
  constructor
  · intro part member
    obtain ⟨addend, listed, rfl⟩ := List.mem_map.mp member
    exact mul_nonneg (spans.nonneg addend listed) scale_nonneg
  · exact (addUp_map_mul sum.addends scale).trans spans.total

/-- The parts of a plane make a grid of columns and rows that share out its millimetres. -/
theorem exists_grid (precise : monitor.Precise) (plane : ratio.dimensions = 2)
    (solved : ratio.solve monitor.resolution = .ok solution) (nonneg : solution.solved.Nonneg)
    (success : monitor.split ratio = .ok split) :
    ∃ columns rows : List Strip,
      split.partitions.map (fun part => (part.column, part.row)) = columns ×ˢ rows ∧
      [columns.length, rows.length] = ratio.sums.map AxisSum.size ∧
      SharesOut monitor.sizeMm.1 monitor.resolution.width columns ∧
      SharesOut monitor.sizeMm.2 monitor.resolution.height rows := by
  have flat : monitor.resolution.dimensions = 2 := (Ratio.dimensions_of_solve solved).trans plane
  have lengths := Box.lengths_of_dimensions flat
  have positive := precise.positive
  have sizes := Ratio.sizes_of_solve solved
  obtain ⟨scale_pos, -⟩ := Ratio.totals_of_solve solved
  have spans := Ratio.spans_of_nonneg solved nonneg
  rw [Box.Positive, lengths] at positive
  rw [lengths] at spans
  obtain ⟨columns, _, wide, later, sums⟩ := List.forall₂_cons_right_iff.mp spans
  obtain ⟨rows, _, high, none_left, rfl⟩ := List.forall₂_cons_right_iff.mp later
  obtain rfl := List.forall₂_nil_right_iff.mp none_left
  obtain ⟨widths_nonneg, widths⟩ := lengths_of_spans scale_pos.le wide
  obtain ⟨heights_nonneg, heights⟩ := lengths_of_spans scale_pos.le high
  refine ⟨_, _, ?_, ?_, sharesOut_of_lengths precise.widthMm.1 (positive _ (by simp)) precise.widthMm.2
    widths_nonneg widths, sharesOut_of_lengths precise.heightMm.1 (positive _ (by simp))
    precise.heightMm.2 heights_nonneg heights⟩
  · rw [← Solution.map_pixelCells sums]
    refine List.forall₂_eq_eq_eq ▸ List.forall₂_map_left_iff.mpr (List.forall₂_map_right_iff.mpr ?_)
    exact (forall₂_of_split solved success).1.flip.imp fun part cell (makes : monitor.Makes cell part) =>
      makes.strips
  · rw [← sizes, sums]
    simp [SolvedSum.size]

end

/-!
### Rebuilt millimetres
-/

/-- The part has the name, the geometry and the millimetres that the cell of the whole gives. -/
structure Portrays (whole : Monitor) (cell : Cell) (part : Monitor) : Prop where
  inPlane : cell.InPlane whole.resolution.width whole.resolution.height
  shows : whole.Shows cell part
  marked : part.isPartitionOf whole.name = true
  widthMm : proportion whole.sizeMm.1 (planePair cell.size).1 whole.resolution.width =
    .ok part.sizeMm.1
  heightMm : proportion whole.sizeMm.2 (planePair cell.size).2 whole.resolution.height =
    .ok part.sizeMm.2

section

variable {monitor : Monitor} {ratio : Ratio} {solution : Solution} {split : Split}

theorem portrays_of_listedAs {parts : List Monitor}
    (plane : monitor.resolution.lengths = [monitor.resolution.width, monitor.resolution.height])
    (solved : ratio.solve monitor.resolution = .ok solution) (nonneg : solution.solved.Nonneg)
    (success : monitor.split ratio = .ok split)
    (listed : List.Forall₂ Partition.ListedAs split.partitions parts) :
    List.Forall₂ monitor.Portrays solution.pixelCells parts := by
  refine forall₂_imp_of_mem (forall₂_comp (forall₂_of_split solved success).1 listed) ?_
  rintro cell member part - ⟨partition, -, ⟨output, -, made⟩, listedAs⟩
  obtain ⟨widthMm, heightMm, wide, high, rfl, -⟩ := partition_eq_ok_iff.mp made
  constructor
  case inPlane => exact Ratio.inPlane_of_mem_pixelCells solved nonneg plane member
  case shows => exact ⟨listedAs.resolution, listedAs.position⟩
  case marked =>
    rw [isPartitionOf, listedAs.name]
    exact isPartitionName_partitionName _ _ _
  case widthMm => rw [wide, listedAs.sizeMm]
  case heightMm => rw [high, listedAs.sizeMm]

/-- What is rebuilt from the parts has about the millimetres of the whole. -/
theorem exists_parent_near (precise : monitor.Precise) (plane : ratio.dimensions = 2)
    (solved : ratio.solve monitor.resolution = .ok solution) (nonneg : solution.solved.Nonneg)
    (success : monitor.split ratio = .ok split) {parts others listed : List Monitor}
    (listedAs : List.Forall₂ Partition.ListedAs split.partitions parts)
    (foreign : ∀ other ∈ others, other.name ≠ monitor.name ∧ other.isPartitionOf monitor.name = false)
    (mixed : listed.Perm (parts ++ others)) :
    ∃ first rest found, partitionsOf monitor.name listed = first :: rest ∧
      findParent monitor.name listed = .ok found ∧ found.rebuiltFrom = rest.length + 1 ∧
      (0 < first.resolution.width → |(found.monitor.sizeMm.1 : ℚ) - monitor.sizeMm.1| ≤
        monitor.resolution.width / (2 * first.resolution.width) + 1 / 2) ∧
      (0 < first.resolution.height → |(found.monitor.sizeMm.2 : ℚ) - monitor.sizeMm.2| ≤
        monitor.resolution.height / (2 * first.resolution.height) + 1 / 2) := by
  have flat : monitor.resolution.dimensions = 2 := (Ratio.dimensions_of_solve solved).trans plane
  have lengths := Box.lengths_of_dimensions flat
  have wide : 0 < monitor.resolution.width := precise.positive _ (by simp [lengths])
  have high : 0 < monitor.resolution.height := precise.positive _ (by simp [lengths])
  have portrays := portrays_of_listedAs lengths solved nonneg success listedAs
  have spread : Spread parts monitor :=
    spread_of_shown wide high (portrays.imp fun _ _ portrayed => ⟨portrayed.inPlane, portrayed.shows⟩)
      fun x y horizontal vertical =>
        Ratio.exists_pixelCell_holds solved nonneg lengths horizontal vertical
  have marked : ∀ part ∈ parts, part.isPartitionOf monitor.name = true := by
    intro part member
    obtain ⟨cell, -, portrayed⟩ := exists_of_mem_right portrays member
    exact portrayed.marked
  have perm := partitionsOf_perm_of_mixed marked (fun other member => (foreign other member).2) mixed
  have absent : listed.find? (·.name = monitor.name) = none := by
    rw [List.find?_eq_none]
    intro found member
    rcases List.mem_append.mp (mixed.mem_iff.mp member) with part | other
    · simpa using name_ne_of_isPartitionOf (marked found part)
    · simpa using (foreign found other).1
  have again := spread.perm perm
  cases found : partitionsOf monitor.name listed with
  | nil =>
      obtain ⟨part, member, -⟩ := again.begins
      rw [found] at member
      cases member
  | cons first rest =>
      rw [found] at again perm
      obtain ⟨cell, -, portrayed⟩ :=
        exists_of_mem_right portrays (perm.mem_iff.mp List.mem_cons_self)
      obtain ⟨inPlane, shown, -, widthMm, heightMm⟩ := portrayed
      have narrower : (planePair cell.size).1 ≤ monitor.resolution.width :=
        (le_add_of_nonneg_left inPlane.left).trans inPlane.right
      have lower : (planePair cell.size).2 ≤ monitor.resolution.height :=
        (le_add_of_nonneg_left inPlane.top).trans inPlane.bottom
      obtain ⟨backWidth, backWide, nearWidth⟩ := exists_back_near precise.widthMm.1
        inPlane.widthNonneg narrower wide precise.widthMm.2 widthMm
      obtain ⟨backHeight, backHigh, nearHeight⟩ := exists_back_near precise.heightMm.1
        inPlane.heightNonneg lower high precise.heightMm.2 heightMm
      rw [← shown.width, ← again.span_eq.1] at backWide
      rw [← shown.height, ← again.span_eq.2] at backHigh
      obtain ⟨rebuilt, whole, sizeMm⟩ :
          ∃ rebuilt, rebuild monitor.name first rest = .ok rebuilt ∧
            rebuilt.sizeMm = (backWidth, backHeight) :=
        exists_rebuild_of_shares backWide backHigh
      refine ⟨first, rest, { monitor := rebuilt, rebuiltFrom := rest.length + 1 }, rfl, ?_, rfl, ?_, ?_⟩
      · simp only [findParent, absent, found, whole]
      · rwa [sizeMm, shown.width]
      · rwa [sizeMm, shown.height]

/-!
### Proportion
-/

/-- The millimetres of the parts are in proportion to their pixels, and so are, but for rounding
twice, those of the monitor that is rebuilt from the parts in any order. -/
structure InProportion (monitor : Monitor) (ratio : Ratio) (split : Split) : Prop where
  grid : ∃ columns rows : List Strip,
    split.partitions.map (fun part => (part.column, part.row)) = columns ×ˢ rows ∧
    [columns.length, rows.length] = ratio.sums.map AxisSum.size ∧
    SharesOut monitor.sizeMm.1 monitor.resolution.width columns ∧
    SharesOut monitor.sizeMm.2 monitor.resolution.height rows
  rebuilt : ∀ parts others listed : List Monitor,
    List.Forall₂ Partition.ListedAs split.partitions parts →
    (∀ other ∈ others, other.name ≠ monitor.name ∧ other.isPartitionOf monitor.name = false) →
    listed.Perm (parts ++ others) →
    ∃ first rest found, partitionsOf monitor.name listed = first :: rest ∧
      findParent monitor.name listed = .ok found ∧ found.rebuiltFrom = rest.length + 1 ∧
      (0 < first.resolution.width → |(found.monitor.sizeMm.1 : ℚ) - monitor.sizeMm.1| ≤
        monitor.resolution.width / (2 * first.resolution.width) + 1 / 2) ∧
      (0 < first.resolution.height → |(found.monitor.sizeMm.2 : ℚ) - monitor.sizeMm.2| ≤
        monitor.resolution.height / (2 * first.resolution.height) + 1 / 2)

/-- Splitting keeps millimetres in proportion as long as they are few. -/
theorem inProportion_of_split (precise : monitor.Precise) (plane : ratio.dimensions = 2)
    (nonneg : ratio.KnownNonneg) (success : monitor.split ratio = .ok split) :
    monitor.InProportion ratio split := by
  obtain ⟨solution, solved, -, -⟩ := exists_of_split success
  have solved_nonneg := SolvedRatio.nonneg_of_knownNonneg nonneg precise.positive solved
  constructor
  case grid => exact exists_grid precise plane solved solved_nonneg success
  case rebuilt =>
    intro parts others listed listedAs foreign mixed
    exact exists_parent_near precise plane solved solved_nonneg success listedAs foreign mixed

end

/-- A monitor of which a column of one pixel has half a millimetre. -/
def thinSlab : Monitor := { slab with sizeMm := (2, 200) }

theorem thinSlab_inProportion :
    thinSlab.Precise ∧ (beforeThree 1).dimensions = 2 ∧ (beforeThree 1).KnownNonneg ∧
      thinSlab.split (beforeThree 1) =
        .ok { partitions := [slabPart 0 1 0 "A", slabPart 1 3 2 "none"], scale := 1 } ∧
      thinSlab.InProportion (beforeThree 1)
        { partitions := [slabPart 0 1 0 "A", slabPart 1 3 2 "none"], scale := 1 } := by
  have precise : thinSlab.Precise := ⟨by decide, by decide, by decide⟩
  have plane : (beforeThree 1).dimensions = 2 := rfl
  have nonneg : (beforeThree 1).KnownNonneg := by decide
  have success : thinSlab.split (beforeThree 1) =
      .ok { partitions := [slabPart 0 1 0 "A", slabPart 1 3 2 "none"], scale := 1 } := by
    decide +kernel
  exact ⟨precise, plane, nonneg, success, inProportion_of_split precise plane nonneg success⟩

end Monitor

end MonitorSplit
