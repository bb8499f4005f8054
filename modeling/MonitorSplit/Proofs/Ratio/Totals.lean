/-
Module: MonitorSplit.Proofs.Ratio.Totals
Purpose: What a solution has whatever the signs of its addends are.
Main exports:
  Ratio.axes_of_solve, Ratio.totals_of_solve, SolvedRatio.Nonneg, Ratio.spans_of_nonneg, Box.Nonneg,
  SolvedRatio.nonneg_of_lengths, Ratio.cells_of_solve_ne_nil
-/
import MonitorSplit.Proofs.Ratio.Tiling

namespace MonitorSplit

/-!
### Axes of any sign

Known addends below zero may still leave an axis that its unknowns fill.  The scale of a
solution is positive and every axis is filled even then; only the order of the spans may
be lost.
-/

/-- An axis is solved by one share for all its unknowns. -/
theorem AxisSum.exists_eq_fill_of_solve {sum : AxisSum} {length scale : Int} {solved : SolvedSum}
    (success : sum.solve length scale = .ok solved) :
    ∃ share, 0 ≤ share ∧ solved = sum.fill share := by
  cases units : divide length scale with
  | error cause => simp [solve, units] at success
  | ok total =>
      obtain ⟨nonzero, rfl⟩ := divide_eq_ok_iff.mp units
      rcases (solve_units_eq_ok_iff nonzero).mp success with
        ⟨-, rfl⟩ | ⟨-, share, nonneg, -, rfl⟩
      · exact ⟨0, le_rfl, rfl⟩
      · exact ⟨share, nonneg, rfl⟩

section

variable {ratio : Ratio} {box : Box} {solution : Solution}

/-- A solution has a base, the scale that goes with it, and a solved sum for each axis. -/
theorem Ratio.axes_of_solve (solved : ratio.solve box = .ok solution) :
    ∃ base, ratio.inferBase box = .ok base ∧ solution.scale = commonScale base box.lengths ∧
      solution.scale ≠ 0 ∧
      List.Forall₂ (fun axis sum =>
          (axis.1.times (base / solution.scale)).solve axis.2 solution.scale = .ok sum)
        (ratio.axes box) solution.solved.sums := by
  have same := dimensions_of_solve solved
  cases inferred : ratio.inferBase box with
  | error cause => simp [solve_of_inferBase_eq_error same inferred] at solved
  | ok base =>
      rw [solve_of_inferBase_eq_ok same inferred] at solved
      split at solved
      · cases solved
      rename_i nonzero
      split at solved
      · cases solved
      rename_i sums each
      cases solved
      exact ⟨base, rfl, rfl, nonzero, solveAxes_eq_ok_iff.mp each⟩

/-- The lengths of the axes are those of the box. -/
theorem Ratio.map_snd_axes (same : box.dimensions = ratio.dimensions) :
    (ratio.axes box).map Prod.snd = box.lengths :=
  List.map_snd_zip (le_of_eq same)

/-- The scale is positive, and the solved sums take the lengths of the box. -/
theorem Ratio.totals_of_solve (solved : ratio.solve box = .ok solution) :
    0 < solution.scale ∧
      List.Forall₂ (fun sum length => sum.total * solution.scale = length)
        solution.solved.sums box.lengths := by
  obtain ⟨base, inferred, common, nonzero, each⟩ := axes_of_solve solved
  have isBase := isBase_of_inferBase inferred
  have scale_nonneg : 0 ≤ solution.scale := by
    rw [common]
    cases lengths : box.lengths with
    | nil => exact absurd lengths box.nonempty
    | cons length rest =>
        show 0 ≤ commonScale (Int.gcd base length : Int) rest
        exact commonScale_nonneg (Int.natCast_nonneg _)
  have divides : ∀ number ∈ base :: box.lengths, solution.scale ∣ number :=
    dvd_commonScale_iff.mp (dvd_of_eq common)
  have totals : List.Forall₂ (fun axis sum => sum.total * solution.scale = axis.2)
      (ratio.axes box) solution.solved.sums := by
    refine forall₂_imp_of_mem each fun axis axisMember sum _ success => ?_
    have length_divides : solution.scale ∣ axis.2 :=
      divides axis.2 (List.mem_cons_of_mem base (List.of_mem_zip axisMember).2)
    have known : (axis.1.times (base / solution.scale)).unknowns = 0 →
        (axis.1.times (base / solution.scale)).knownTotal * solution.scale = axis.2 := by
      intro no_unknowns
      rw [AxisSum.knownTotal_times, mul_assoc, Int.ediv_mul_cancel (divides base List.mem_cons_self)]
      exact isBase.fills axis axisMember (by simpa using no_unknowns)
    obtain ⟨-, -, -, total⟩ :=
      AxisSum.exists_fill_of_solve nonzero length_divides known success
    exact total
  refine ⟨lt_of_le_of_ne scale_nonneg (Ne.symm nonzero), ?_⟩
  rw [← map_snd_axes (dimensions_of_solve solved), List.forall₂_map_right_iff]
  exact totals.flip

/-- No solved addend is negative. -/
def SolvedRatio.Nonneg (solved : SolvedRatio) : Prop :=
  ∀ sum ∈ solved.sums, ∀ addend ∈ sum.addends, 0 ≤ addend

instance (solved : SolvedRatio) : Decidable solved.Nonneg :=
  inferInstanceAs (Decidable (∀ sum ∈ solved.sums, ∀ addend ∈ sum.addends, 0 ≤ addend))

/-- Solved addends that are not negative span the lengths of the box. -/
theorem Ratio.spans_of_nonneg (solved : ratio.solve box = .ok solution)
    (nonneg : solution.solved.Nonneg) :
    List.Forall₂ (Spans solution.scale) solution.solved.sums box.lengths := by
  obtain ⟨-, totals⟩ := totals_of_solve solved
  exact forall₂_imp_of_mem totals fun sum member _ _ total => ⟨nonneg sum member, total⟩

/-- No length is negative. -/
def Box.Nonneg (box : Box) : Prop := ∀ length ∈ box.lengths, 0 ≤ length

theorem Box.Positive.nonneg (positive : box.Positive) : box.Nonneg :=
  fun length member => (positive length member).le

/-- The base is not negative if no known addend and no length is. -/
theorem Ratio.base_nonneg (nonneg : ratio.KnownNonneg) (lengths : box.Nonneg) {base : Int}
    (inferred : ratio.inferBase box = .ok base) : 0 ≤ base := by
  have isBase := isBase_of_inferBase inferred
  by_cases unknown : ∀ axis ∈ ratio.axes box, axis.1.unknowns ≠ 0
  · rw [isBase.unit unknown]
    exact zero_le_one
  · push Not at unknown
    obtain ⟨axis, member, known⟩ := unknown
    have total_ne : axis.1.knownTotal ≠ 0 := fun zero =>
      fit_of_inferBase inferred axis member ⟨known, .inl zero⟩
    have total_pos := lt_of_le_of_ne (nonneg.axis member).knownTotal total_ne.symm
    have filled : 0 ≤ axis.1.knownTotal * base := by
      rw [isBase.fills axis member known]
      exact lengths axis.2 (List.of_mem_zip member).2
    exact nonneg_of_mul_nonneg_right filled total_pos

/-- Known addends that are not negative leave no negative one. -/
theorem SolvedRatio.nonneg_of_lengths (nonneg : ratio.KnownNonneg) (lengths : box.Nonneg)
    (solved : ratio.solve box = .ok solution) : solution.solved.Nonneg := by
  obtain ⟨scale_pos, -⟩ := Ratio.totals_of_solve solved
  obtain ⟨base, inferred, -, -, each⟩ := Ratio.axes_of_solve solved
  have factor_nonneg : 0 ≤ base / solution.scale :=
    Int.ediv_nonneg (Ratio.base_nonneg nonneg lengths inferred) scale_pos.le
  intro sum member
  obtain ⟨axis, axisMember, success⟩ := exists_of_mem_right each member
  obtain ⟨share, share_nonneg, rfl⟩ := AxisSum.exists_eq_fill_of_solve success
  intro addend inside
  simp only [AxisSum.fill, AxisSum.times, List.map_map, List.mem_map] at inside
  obtain ⟨given, listed, rfl⟩ := inside
  cases given with
  | none => exact share_nonneg
  | some known =>
      exact mul_nonneg (nonneg.axis axisMember _ listed known rfl) factor_nonneg

theorem SolvedRatio.nonneg_of_knownNonneg (nonneg : ratio.KnownNonneg) (positive : box.Positive)
    (solved : ratio.solve box = .ok solution) : solution.solved.Nonneg :=
  nonneg_of_lengths nonneg positive.nonneg solved

/-!
### Ratios of a plane
-/

/-- A sum with a first addend and others. -/
def AxisSum.of (first : Option Int) (others : List (Option Int)) : AxisSum :=
  { addends := first :: others }

/-- A ratio of two axes. -/
def Ratio.ofPlane (columns rows : AxisSum) : Ratio := { sums := [columns, rows] }

/-!
### At least one cell
-/

theorem choices_ne_nil {α : Type} {lists : List (List α)} (nonempty : ∀ list ∈ lists, list ≠ []) :
    choices lists ≠ [] := by
  induction lists with
  | nil => simp [choices]
  | cons options rest inductionHypothesis =>
      obtain ⟨first, others⟩ := List.forall_mem_cons.mp nonempty
      obtain ⟨option, options, rfl⟩ := List.exists_cons_of_ne_nil first
      obtain ⟨choice, more, found⟩ := List.exists_cons_of_ne_nil (inductionHypothesis others)
      simp [choices_cons, extendEach, found]

/-- Every sum of a solution has an addend. -/
theorem Ratio.addends_ne_nil_of_solve (solved : ratio.solve box = .ok solution) :
    ∀ sum ∈ solution.solved.sums, sum.addends ≠ [] := by
  obtain ⟨base, -, -, -, each⟩ := axes_of_solve solved
  intro sum member
  obtain ⟨axis, -, success⟩ := exists_of_mem_right each member
  obtain ⟨share, -, rfl⟩ := AxisSum.exists_eq_fill_of_solve success
  simpa [AxisSum.fill] using AxisSum.nonempty _

/-- Every axis of a solution has a span. -/
theorem Ratio.withOffsets_ne_nil_of_solve (solved : ratio.solve box = .ok solution) :
    ∀ spans ∈ solution.solved.sums.map SolvedSum.withOffsets, spans ≠ [] := by
  intro spans member
  obtain ⟨sum, listed, rfl⟩ := List.mem_map.mp member
  have addends := addends_ne_nil_of_solve solved sum listed
  rw [← List.length_pos_iff] at addends ⊢
  rwa [SolvedSum.withOffsets, SolvedSum.length_offsetsFrom]

/-- A solution has a cell. -/
theorem Ratio.cells_of_solve_ne_nil (solved : ratio.solve box = .ok solution) :
    solution.solved.cells ≠ [] := by
  rw [SolvedRatio.cells, ne_eq, List.map_eq_nil_iff]
  exact choices_ne_nil (withOffsets_ne_nil_of_solve solved)

end

end MonitorSplit
