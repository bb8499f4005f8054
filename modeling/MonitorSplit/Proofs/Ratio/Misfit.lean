/-
Module: MonitorSplit.Proofs.Ratio.Misfit
Purpose: Exactly which ratios do not fit which boxes, and why.
Main exports:
  Unsolvable, Misfit, Ratio.solve_eq_error_iff_misfit, WholeSplit, Ratio.exists_solve_iff_wholeSplit
-/
import MonitorSplit.Proofs.Ratio.Solution

namespace MonitorSplit

/-!
### Axes without a solution

Base and lengths are multiples of the scale, so one axis fails for one of two reasons,
both of which can be told in pixels.
-/

/-- On an axis with unknowns, the known addends take more than its length, or they leave
a number of scale units that the unknowns cannot share. -/
def Unsolvable (base scale : Int) (axis : AxisSum × Int) : Prop :=
  axis.1.unknowns ≠ 0 ∧
    (axis.2 < axis.1.knownTotal * base ∨
      ¬ (axis.1.unknowns : Int) ∣ (axis.2 - axis.1.knownTotal * base) / scale)

section

variable {axes : List (AxisSum × Int)} {base scale : Int} {axis : AxisSum × Int}

/-- How an axis fails, in pixels. -/
theorem solve_times_eq_error_iff (measures : Measures scale base axes) (member : axis ∈ axes)
    {failure : Raised AxisFailure} :
    (axis.1.times (base / scale)).solve axis.2 scale = .error failure ↔
      axis.1.unknowns ≠ 0 ∧
        ((axis.2 < axis.1.knownTotal * base ∧
            failure = AxisFailure.raise
              (.exceeded (axis.1.times (base / scale)) (axis.2 / scale))) ∨
          (axis.1.knownTotal * base ≤ axis.2 ∧
            ¬ (axis.1.unknowns : Int) ∣ (axis.2 - axis.1.knownTotal * base) / scale ∧
            failure = AxisFailure.raise (.indivisible (axis.1.times (base / scale)) axis.2 scale
              { divisor := axis.1.unknowns,
                dividend := (axis.2 - axis.1.knownTotal * base) / scale }))) := by
  obtain ⟨sum, length⟩ := axis
  have scale_pos := measures.pos
  obtain ⟨factor, rfl⟩ := measures.dvd_base
  obtain ⟨total, rfl⟩ : scale ∣ length := measures.dvd_length _ member
  have in_pixels : sum.knownTotal * (scale * factor) = scale * (sum.knownTotal * factor) := by ring
  have less_iff : scale * total < scale * (sum.knownTotal * factor) ↔
      total < sum.knownTotal * factor := mul_lt_mul_iff_right₀ scale_pos
  have le_iff : scale * (sum.knownTotal * factor) ≤ scale * total ↔
      sum.knownTotal * factor ≤ total := mul_le_mul_iff_right₀ scale_pos
  have remaining : (scale * total - scale * (sum.knownTotal * factor)) / scale =
      total - sum.knownTotal * factor := by
    rw [← mul_sub, Int.mul_ediv_cancel_left _ scale_pos.ne']
  dsimp only
  rw [in_pixels, less_iff, le_iff, remaining, Int.mul_ediv_cancel_left factor scale_pos.ne',
    Int.mul_ediv_cancel_left total scale_pos.ne', mul_comm scale total,
    AxisSum.solve_units_eq_error_iff scale_pos.ne', AxisSum.unknowns_times,
    AxisSum.knownTotal_times]

theorem unsolved_iff_unsolvable (measures : Measures scale base axes) (member : axis ∈ axes) :
    Unsolved (base / scale) scale axis ↔ Unsolvable base scale axis := by
  simp only [Unsolved, Unsolvable, solve_times_eq_error_iff measures member]
  constructor
  · intro unsolved
    obtain ⟨_, unknowns, why⟩ := unsolved
    rcases why with ⟨more, -⟩ | ⟨-, leaves, -⟩
    · exact ⟨unknowns, Or.inl more⟩
    · exact ⟨unknowns, Or.inr leaves⟩
  · intro unsolvable
    obtain ⟨unknowns, why⟩ := unsolvable
    by_cases more : axis.2 < axis.1.knownTotal * base
    · exact ⟨_, unknowns, Or.inl ⟨more, rfl⟩⟩
    · exact ⟨_, unknowns, Or.inr ⟨not_lt.mp more, why.resolve_left more, rfl⟩⟩

/-- On an axis with a solution the unknowns share what is left in multiples of the scale. -/
theorem not_unsolvable_iff (measures : Measures scale base axes) (member : axis ∈ axes) :
    ¬ Unsolvable base scale axis ↔
      (axis.1.unknowns ≠ 0 → axis.1.knownTotal * base ≤ axis.2 ∧
        (axis.1.unknowns : Int) * scale ∣ axis.2 - axis.1.knownTotal * base) := by
  have scale_ne := measures.pos.ne'
  obtain ⟨remaining, same⟩ : scale ∣ axis.2 - axis.1.knownTotal * base :=
    Int.dvd_sub (measures.dvd_length axis member) (measures.dvd_base.mul_left axis.1.knownTotal)
  have shares_iff : (axis.1.unknowns : Int) * scale ∣ scale * remaining ↔
      (axis.1.unknowns : Int) ∣ remaining := by
    rw [mul_comm scale, Int.mul_dvd_mul_iff_right scale_ne]
  unfold Unsolvable
  rw [same, shares_iff, Int.mul_ediv_cancel_left remaining scale_ne]
  simp only [not_and, not_or, not_lt, not_not]

end

section

variable {ratio : Ratio} {box : Box} {base scale : Int}

/-- With a base a ratio fails on the first axis without a solution, and in no other way. -/
theorem Ratio.solve_eq_error_iff_of_isBase (same : box.dimensions = ratio.dimensions)
    (nonneg : ratio.KnownNonneg) (positive : box.Positive)
    (isBase : IsBase (ratio.axes box) base)
    (greatest : IsGreatestDivisor scale (base :: box.lengths)) {failure : SolveFailure} :
    ratio.solve box = .error failure ↔
      ∃ index axis, IsFirst (Unsolvable base scale) (ratio.axes box) index axis ∧
        ∃ cause, (axis.1.times (base / scale)).solve axis.2 scale = .error cause ∧
          failure = .ofRaised (cause.map (.unsolvedAxis index)) := by
  have measures : Measures scale base (ratio.axes box) :=
    greatest.measures (isBase.pos nonneg positive)
  have unsolvable : ∀ axis ∈ ratio.axes box,
      Unsolved (base / scale) scale axis ↔ Unsolvable base scale axis :=
    fun axis member => unsolved_iff_unsolvable measures member
  rw [solve_eq_error_iff_solveAxes same nonneg positive isBase greatest]
  simp only [solveAxes_eq_error_iff, isFirst_congr unsolvable, Nat.zero_add]
  constructor
  · intro failed
    obtain ⟨_, ⟨index, axis, first, cause, unsolved, rfl⟩, rfl⟩ := failed
    exact ⟨index, axis, first, cause, unsolved, rfl⟩
  · intro failed
    obtain ⟨index, axis, first, cause, unsolved, rfl⟩ := failed
    exact ⟨_, ⟨index, axis, first, cause, unsolved, rfl⟩, rfl⟩

/-- With a base a ratio is solved exactly if no axis is without a solution. -/
theorem Ratio.exists_solve_iff_of_isBase (same : box.dimensions = ratio.dimensions)
    (nonneg : ratio.KnownNonneg) (positive : box.Positive)
    (isBase : IsBase (ratio.axes box) base)
    (greatest : IsGreatestDivisor scale (base :: box.lengths)) :
    (∃ solution, ratio.solve box = .ok solution) ↔
      ∀ axis ∈ ratio.axes box, ¬ Unsolvable base scale axis := by
  have measures : Measures scale base (ratio.axes box) :=
    greatest.measures (isBase.pos nonneg positive)
  have failure_iff {failure : SolveFailure} : ratio.solve box = .error failure ↔ _ :=
    solve_eq_error_iff_of_isBase same nonneg positive isBase greatest
  constructor
  · intro success axis member unsolvable
    obtain ⟨solution, solved⟩ := success
    obtain ⟨index, axis, first⟩ := exists_isFirst_iff.mpr ⟨axis, member, unsolvable⟩
    obtain ⟨cause, unsolved⟩ :=
      (unsolved_iff_unsolvable measures first.mem).mpr first.holds
    have failed := failure_iff.mpr ⟨index, axis, first, cause, unsolved, rfl⟩
    cases solved.symm.trans failed
  · intro solvable
    cases outcome : ratio.solve box with
    | ok solution => exact ⟨solution, rfl⟩
    | error failure =>
        obtain ⟨index, axis, first, -⟩ := failure_iff.mp outcome
        exact absurd first.holds (solvable axis first.mem)

/-!
### Misfits
-/

/-- How a ratio does not fit a box, in the order in which that is found.  First an axis
implies no scale, then two axes imply different ones.  Otherwise there is a base, which
is the only scale implied, or one pixel, and then an axis has no solution.  In each case
the first such axis is named. -/
inductive Misfit (ratio : Ratio) (box : Box) : RatioFailure → Prop where
  | scaleInference {axis : Nat} {sum : AxisSum} {length : Int}
      (first : IsFirst ImpliesNoScale (ratio.axes box) axis (sum, length)) :
      Misfit ratio box (.scaleInference axis { divisor := sum.knownTotal, dividend := length })
  | unequalScales {scales : List Int}
      (fit : ∀ axis ∈ ratio.axes box, ¬ ImpliesNoScale axis)
      (ascending : scales.Pairwise (· < ·))
      (members : ∀ scale, scale ∈ scales ↔ IsImplied (ratio.axes box) scale)
      (several : 2 ≤ scales.length) :
      Misfit ratio box (.unequalScales scales)
  | exceeded {base scale : Int} {axis : Nat} {sum : AxisSum} {length : Int}
      (isBase : IsBase (ratio.axes box) base)
      (greatest : IsGreatestDivisor scale (base :: box.lengths))
      (first : IsFirst (Unsolvable base scale) (ratio.axes box) axis (sum, length))
      (more : length < sum.knownTotal * base) :
      Misfit ratio box
        (.unsolvedAxis axis (.exceeded (sum.times (base / scale)) (length / scale)))
  | indivisible {base scale : Int} {axis : Nat} {sum : AxisSum} {length : Int}
      (isBase : IsBase (ratio.axes box) base)
      (greatest : IsGreatestDivisor scale (base :: box.lengths))
      (first : IsFirst (Unsolvable base scale) (ratio.axes box) axis (sum, length))
      (enough : sum.knownTotal * base ≤ length) :
      Misfit ratio box
        (.unsolvedAxis axis (.indivisible (sum.times (base / scale)) length scale
          { divisor := sum.unknowns, dividend := (length - sum.knownTotal * base) / scale }))

theorem Misfit.of_inferBase {raised : Raised RatioFailure}
    (unfit : ratio.inferBase box = .error raised) :
    ∃ cause, raised = RatioFailure.raise cause ∧ Misfit ratio box cause := by
  rcases Ratio.inferBase_eq_error_iff.mp unfit with
    ⟨index, axis, first, rfl⟩ | ⟨fit, scales, ascending, members, several, rfl⟩
  · exact ⟨_, rfl, .scaleInference first⟩
  · exact ⟨_, rfl, .unequalScales fit ascending members several⟩

theorem Misfit.of_isFirst (measures : Measures scale base (ratio.axes box))
    (isBase : IsBase (ratio.axes box) base)
    (greatest : IsGreatestDivisor scale (base :: box.lengths)) {index : Nat}
    {axis : AxisSum × Int} {raised : Raised AxisFailure}
    (first : IsFirst (Unsolvable base scale) (ratio.axes box) index axis)
    (unsolved : (axis.1.times (base / scale)).solve axis.2 scale = .error raised) :
    ∃ cause, raised.map (.unsolvedAxis index) = RatioFailure.raise cause ∧ Misfit ratio box cause := by
  rcases (solve_times_eq_error_iff measures first.mem).mp unsolved with
    ⟨-, ⟨more, rfl⟩ | ⟨enough, -, rfl⟩⟩
  · exact ⟨_, AxisFailure.map_unsolvedAxis _ _, .exceeded isBase greatest first more⟩
  · exact ⟨_, AxisFailure.map_unsolvedAxis _ _, .indivisible isBase greatest first enough⟩

/-- Every misfit is raised as it is. -/
theorem Misfit.solve_eq_error {cause : RatioFailure} (same : box.dimensions = ratio.dimensions)
    (nonneg : ratio.KnownNonneg) (positive : box.Positive) (misfit : Misfit ratio box cause) :
    ratio.solve box = .error (.raise cause) := by
  cases misfit with
  | scaleInference first => exact Ratio.solve_of_isFirst same first
  | unequalScales fit ascending members several =>
      exact Ratio.solve_of_inferBase_eq_error same
        (Ratio.inferBase_eq_error_iff.mpr (Or.inr ⟨fit, _, ascending, members, several, rfl⟩))
  | exceeded isBase greatest first more =>
      have unsolved := (solve_times_eq_error_iff
        (greatest.measures (isBase.pos nonneg positive)) first.mem).mpr
          ⟨first.holds.1, Or.inl ⟨more, rfl⟩⟩
      exact (Ratio.solve_eq_error_iff_of_isBase same nonneg positive isBase greatest).mpr
        ⟨_, _, first, _, unsolved, by rw [AxisFailure.map_unsolvedAxis]; rfl⟩
  | indivisible isBase greatest first enough =>
      have leaves := first.holds.2.resolve_left (not_lt.mpr enough)
      have unsolved := (solve_times_eq_error_iff
        (greatest.measures (isBase.pos nonneg positive)) first.mem).mpr
          ⟨first.holds.1, Or.inr ⟨enough, leaves, rfl⟩⟩
      exact (Ratio.solve_eq_error_iff_of_isBase same nonneg positive isBase greatest).mpr
        ⟨_, _, first, _, unsolved, by rw [AxisFailure.map_unsolvedAxis]; rfl⟩

/-- Nothing else is raised. -/
theorem exists_misfit_of_solve_eq_error {failure : SolveFailure}
    (same : box.dimensions = ratio.dimensions) (nonneg : ratio.KnownNonneg)
    (positive : box.Positive) (failed : ratio.solve box = .error failure) :
    ∃ cause, failure = .raise cause ∧ Misfit ratio box cause := by
  cases inferred : ratio.inferBase box with
  | error raised =>
      rw [Ratio.solve_of_inferBase_eq_error same inferred] at failed
      cases failed
      obtain ⟨cause, rfl, misfit⟩ := Misfit.of_inferBase inferred
      exact ⟨cause, rfl, misfit⟩
  | ok base =>
      have isBase := (Ratio.inferBase_eq_ok_iff positive).mp inferred
      have base_pos := isBase.pos nonneg positive
      have greatest : IsGreatestDivisor (commonScale base box.lengths) (base :: box.lengths) :=
        isGreatestDivisor_commonScale base_pos.le
      obtain ⟨index, axis, first, raised, unsolved, rfl⟩ :=
        (Ratio.solve_eq_error_iff_of_isBase same nonneg positive isBase greatest).mp failed
      obtain ⟨cause, told, misfit⟩ :=
        Misfit.of_isFirst (greatest.measures base_pos) isBase greatest first unsolved
      exact ⟨cause, congrArg SolveFailure.ofRaised told, misfit⟩

/-- On a box of as many positive lengths a ratio fails exactly with its misfits, and is
solved if it has none.  A misfit is told in full, or not at all if a number in its message
is too long. -/
theorem Ratio.solve_eq_error_iff_misfit (same : box.dimensions = ratio.dimensions)
    (nonneg : ratio.KnownNonneg) (positive : box.Positive) :
    (∀ failure, ratio.solve box = .error failure ↔
        ∃ cause, failure = .raise cause ∧ Misfit ratio box cause) ∧
      ((∃ solution, ratio.solve box = .ok solution) ↔ ∀ cause, ¬ Misfit ratio box cause) := by
  constructor
  · intro failure
    constructor
    · exact exists_misfit_of_solve_eq_error same nonneg positive
    · intro found
      obtain ⟨cause, rfl, misfit⟩ := found
      exact misfit.solve_eq_error same nonneg positive
  · constructor
    · intro success cause misfit
      obtain ⟨solution, solved⟩ := success
      cases solved.symm.trans (misfit.solve_eq_error same nonneg positive)
    · intro fits
      cases outcome : ratio.solve box with
      | ok solution => exact ⟨solution, rfl⟩
      | error failure =>
          obtain ⟨cause, -, misfit⟩ :=
            exists_misfit_of_solve_eq_error same nonneg positive outcome
          exact absurd misfit (fits cause)

/-- One known axis, one that the known addend outgrows, and one that three unknowns
cannot share. -/
def Ratio.crowded : Ratio :=
  { sums := [{ addends := [some 2] }, { addends := [some 3, none] },
      { addends := [none, none, none] }] }

/-- Of the two axes without a solution the first one is named. -/
theorem Ratio.crowded_misfit :
    ({ lengths := [10, 9, 20] } : Box).dimensions = Ratio.crowded.dimensions ∧
      Ratio.crowded.KnownNonneg ∧ ({ lengths := [10, 9, 20] } : Box).Positive ∧
      Misfit Ratio.crowded { lengths := [10, 9, 20] }
        (.unsolvedAxis 1 (.exceeded { addends := [some 15, none] } 9)) := by
  have same : ({ lengths := [10, 9, 20] } : Box).dimensions = Ratio.crowded.dimensions := by decide
  have nonneg : Ratio.crowded.KnownNonneg := by decide
  have positive : ({ lengths := [10, 9, 20] } : Box).Positive := by decide
  have failed : Ratio.crowded.solve { lengths := [10, 9, 20] } =
      .error (.unfit (.unsolvedAxis 1 (.exceeded { addends := [some 15, none] } 9))) := by cbv
  obtain ⟨cause, reported, misfit⟩ :=
    ((solve_eq_error_iff_misfit same nonneg positive).1 _).mp failed
  obtain ⟨-, rfl⟩ := SolveFailure.raise_eq_unfit_iff.mp reported.symm
  exact ⟨same, nonneg, positive, misfit⟩

/-- Two columns, each as wide as can be written. -/
def Ratio.wideColumns : Ratio := { sums := [{ addends := [some longest, some longest] }] }

/-- A single pixel is no multiple of what they add up to, and that cannot be written. -/
theorem Ratio.wideColumns_not_told :
    ¬ ∀ (ratio : Ratio) (box : Box) (failure : SolveFailure), box.dimensions = ratio.dimensions →
      ratio.KnownNonneg → box.Positive → ratio.solve box = .error failure →
      ∃ cause, failure = .unfit cause := by
  intro told
  have same : ({ lengths := [1] } : Box).dimensions = wideColumns.dimensions := rfl
  have positive : ({ lengths := [1] } : Box).Positive := by decide
  have wide := longest_pos
  have nonneg : wideColumns.KnownNonneg := by
    simp [wideColumns, KnownNonneg, AxisSum.KnownNonneg, wide.le]
  have total : AxisSum.knownTotal { addends := [some longest, some longest] } = longest + longest := by
    simp [AxisSum.knownTotal, AxisSum.knowns]
  have misfit : Misfit wideColumns { lengths := [1] }
      (.scaleInference 0 { divisor := longest + longest, dividend := 1 }) := by
    rw [← total]
    refine .scaleInference ((isFirst_head ⟨rfl, .inr ?_⟩).mpr ⟨rfl, rfl⟩)
    rw [total]
    intro divides
    have small := Int.le_of_dvd one_pos divides
    omega
  obtain ⟨cause, unfit⟩ := told _ _ _ same nonneg positive (misfit.solve_eq_error same nonneg positive)
  obtain ⟨short, -⟩ := SolveFailure.raise_eq_unfit_iff.mp unfit
  have greater : longest < longest + longest := by omega
  exact not_writable_of_longest_lt greater (short _ List.mem_cons_self)

/-!
### Splits into whole units

Solving takes the shares of the unknowns from the multiples of the common scale only.  A
ratio is solved exactly if it has a split with such shares, which is more than a split
into whole pixels.
-/

/-- At the base the known addends leave on every axis an amount that its unknowns can
share in multiples of so many pixels. -/
structure WholeSplit (ratio : Ratio) (box : Box) (base pixels : Int) : Prop where
  isBase : IsBase (ratio.axes box) base
  fits : ∀ axis ∈ ratio.axes box, axis.1.unknowns ≠ 0 → axis.1.knownTotal * base ≤ axis.2
  shares : ∀ axis ∈ ratio.axes box, axis.1.unknowns ≠ 0 →
    (axis.1.unknowns : Int) * pixels ∣ axis.2 - axis.1.knownTotal * base

/-- A ratio is solved exactly if it splits the box into whole multiples of the common
scale. -/
theorem Ratio.exists_solve_iff_wholeSplit (same : box.dimensions = ratio.dimensions)
    (nonneg : ratio.KnownNonneg) (positive : box.Positive) :
    (∃ solution, ratio.solve box = .ok solution) ↔
      ∃ base scale, 1 ≤ base ∧ IsGreatestDivisor scale (base :: box.lengths) ∧
        WholeSplit ratio box base scale := by
  have solvable_iff {base scale : Int} (isBase : IsBase (ratio.axes box) base)
      (greatest : IsGreatestDivisor scale (base :: box.lengths)) {axis : AxisSum × Int}
      (member : axis ∈ ratio.axes box) : ¬ Unsolvable base scale axis ↔ _ :=
    not_unsolvable_iff (greatest.measures (isBase.pos nonneg positive)) member
  constructor
  · intro success
    obtain ⟨solution, solved⟩ := success
    obtain ⟨-, base, isBase, greatest, -⟩ := (solve_eq_ok_iff nonneg positive).mp solved
    have solvable := (exists_solve_iff_of_isBase same nonneg positive isBase greatest).mp
      ⟨solution, solved⟩
    refine ⟨base, solution.scale, isBase.pos nonneg positive, greatest, isBase, ?_, ?_⟩
    · intro axis member unknowns
      exact ((solvable_iff isBase greatest member).mp (solvable axis member) unknowns).1
    · intro axis member unknowns
      exact ((solvable_iff isBase greatest member).mp (solvable axis member) unknowns).2
  · intro found
    obtain ⟨base, scale, -, greatest, split⟩ := found
    apply (exists_solve_iff_of_isBase same nonneg positive split.isBase greatest).mpr
    intro axis member
    apply (solvable_iff split.isBase greatest member).mpr
    intro unknowns
    exact ⟨split.fits axis member unknowns, split.shares axis member unknowns⟩

theorem Ratio.unevenColumns_wholeSplit :
    (Box.plane 10 12).dimensions = Ratio.unevenColumns.dimensions ∧
      Ratio.unevenColumns.KnownNonneg ∧ (Box.plane 10 12).Positive ∧
      ∃ base scale, 1 ≤ base ∧ IsGreatestDivisor scale (base :: (Box.plane 10 12).lengths) ∧
        WholeSplit Ratio.unevenColumns (Box.plane 10 12) base scale := by
  have same : (Box.plane 10 12).dimensions = Ratio.unevenColumns.dimensions := by decide
  have nonneg : Ratio.unevenColumns.KnownNonneg := by decide
  have positive : (Box.plane 10 12).Positive := by decide
  have solved : Ratio.unevenColumns.solve (Box.plane 10 12) = .ok unevenSolution := by cbv
  exact ⟨same, nonneg, positive,
    (exists_solve_iff_wholeSplit same nonneg positive).mp ⟨unevenSolution, solved⟩⟩

/-- Two columns that share the width, over the whole height. -/
def Ratio.halves : Ratio :=
  { sums := [{ addends := [none, none] }, { addends := [some 1] }] }

/-- On a box of two by two pixels a column would take one pixel, but the scale is two. -/
theorem Ratio.not_solve_of_wholeSplit :
    ¬ ∀ (ratio : Ratio) (box : Box), box.dimensions = ratio.dimensions → ratio.KnownNonneg →
      box.Positive → (∃ base, 1 ≤ base ∧ WholeSplit ratio box base 1) →
      ∃ solution, ratio.solve box = .ok solution := by
  intro complete
  have split : WholeSplit Ratio.halves (Box.plane 2 2) 2 1 :=
    { isBase := { fills := by decide, unit := by decide }, fits := by decide, shares := by decide }
  obtain ⟨solution, solved⟩ := complete Ratio.halves (Box.plane 2 2) (by decide) (by decide)
    (by decide) ⟨2, by decide, split⟩
  have failed : Ratio.halves.solve (Box.plane 2 2) =
      .error (.unfit (.unsolvedAxis 0 (.indivisible { addends := [none, none] } 2 2
        { divisor := 2, dividend := 1 }))) := by cbv
  cases solved.symm.trans failed

end

end MonitorSplit
