/-
Module: MonitorSplit.Proofs.Ratio.Solution
Purpose: What a solution of a ratio on a box gives every axis.
Main exports:
  solveAxes_eq_ok_iff, solveAxes_eq_error_iff, Ratio.solve_of_isBase, Fills
-/
import MonitorSplit.Proofs.Ratio.Base
import MonitorSplit.Proofs.Ratio.Pairing

namespace MonitorSplit

/-!
### Visiting the axes

The axes are solved one after the other, each on its own.  So a solution is one solved
sum for each axis, and a failure is that of the first axis that has no solution.
-/

section

variable {factor scale : Int}

/-- Solving the axis, its known addends multiplied up, fails. -/
def Unsolved (factor scale : Int) (axis : AxisSum × Int) : Prop :=
  ∃ cause, (axis.1.times factor).solve axis.2 scale = .error cause

/-- The axes are solved exactly if each of them is. -/
theorem solveAxes_eq_ok_iff {axes : List (AxisSum × Int)} {start : Nat} {sums : List SolvedSum} :
    solveAxes factor scale start axes = .ok sums ↔
      List.Forall₂ (fun axis solved => (axis.1.times factor).solve axis.2 scale = .ok solved)
        axes sums := by
  induction axes generalizing start sums with
  | nil => simp [solveAxes, eq_comm]
  | cons axis rest inductionHypothesis =>
      rw [solveAxes, List.forall₂_cons_left_iff]
      cases (axis.1.times factor).solve axis.2 scale with
      | error cause => simp
      | ok first =>
          simp only [map_eq_ok_iff, inductionHypothesis, Except.ok.injEq]
          constructor
          · intro gathered
            obtain ⟨others, each, rfl⟩ := gathered
            exact ⟨first, others, rfl, each, rfl⟩
          · intro solved
            obtain ⟨_, others, rfl, each, rfl⟩ := solved
            exact ⟨others, each, rfl⟩

/-- Their failure is that of the first axis without a solution. -/
theorem solveAxes_eq_error_iff {axes : List (AxisSum × Int)} {start : Nat}
    {failure : Raised RatioFailure} :
    solveAxes factor scale start axes = .error failure ↔
      ∃ index axis, IsFirst (Unsolved factor scale) axes index axis ∧
        ∃ cause, (axis.1.times factor).solve axis.2 scale = .error cause ∧
          failure = cause.map (.unsolvedAxis (start + index)) := by
  induction axes generalizing start with
  | nil => simp [solveAxes, not_isFirst_nil]
  | cons axis rest inductionHypothesis =>
      rw [solveAxes]
      cases solved : (axis.1.times factor).solve axis.2 scale with
      | error cause =>
          rw [exists_isFirst_cons_of_holds ⟨cause, solved⟩]
          simp [solved, eq_comm]
      | ok first =>
          have fine : ¬ Unsolved factor scale axis := by simp [Unsolved, solved]
          rw [exists_isFirst_cons_of_fails fine]
          simp only [map_eq_error_iff, inductionHypothesis, Nat.add_assoc, Nat.add_comm 1]

/-- They have a failure exactly if some axis has no solution. -/
theorem exists_unsolvedAxis_iff {axes : List (AxisSum × Int)} (start : Nat) :
    (∃ index cause, solveAxes factor scale start axes =
        .error (RatioFailure.raise (.unsolvedAxis index cause))) ↔
      ∃ axis ∈ axes, Unsolved factor scale axis := by
  simp only [solveAxes_eq_error_iff]
  constructor
  · rintro ⟨_, _, _, axis, first, -⟩
    exact ⟨axis, first.mem, first.holds⟩
  · intro found
    obtain ⟨index, axis, first⟩ := exists_isFirst_iff.mpr found
    obtain ⟨raised, unsolved⟩ := first.holds
    obtain ⟨cause, rfl⟩ := AxisSum.exists_raise_of_solve unsolved
    exact ⟨start + index, cause, index, axis, first, _, unsolved,
      (AxisFailure.map_unsolvedAxis _ _).symm⟩

end

/-!
### Solving

On a box of positive lengths the base, if there is one, and the scale are determined,
and a zero scale cannot come up.
-/

section

variable {ratio : Ratio} {box : Box} {base scale : Int}

theorem Ratio.solve_of_inferBase_eq_error {cause : Raised RatioFailure}
    (same : box.dimensions = ratio.dimensions) (unfit : ratio.inferBase box = .error cause) :
    ratio.solve box = .error (.ofRaised cause) := by
  simp [solve, same, unfit]

/-- The first axis that implies no scale is enough for solving to fail. -/
theorem Ratio.solve_of_isFirst {index : Nat} {axis : AxisSum × Int}
    (same : box.dimensions = ratio.dimensions)
    (first : IsFirst ImpliesNoScale (ratio.axes box) index axis) :
    ratio.solve box = .error (.raise
      (.scaleInference index { divisor := axis.1.knownTotal, dividend := axis.2 })) :=
  solve_of_inferBase_eq_error same (inferBase_eq_error_iff.mpr (.inl ⟨index, axis, first, rfl⟩))

theorem Ratio.exists_scaleInference (same : box.dimensions = ratio.dimensions)
    (found : ∃ axis ∈ ratio.axes box, ImpliesNoScale axis) :
    ∃ axis cause, ratio.solve box = .error (.raise (.scaleInference axis cause)) := by
  obtain ⟨index, axis, first⟩ := exists_isFirst_iff.mpr found
  exact ⟨_, _, solve_of_isFirst same first⟩

/-- With a scale for the base the axes are solved, unless the common scale is zero. -/
theorem Ratio.solve_of_inferBase_eq_ok (same : box.dimensions = ratio.dimensions)
    (inferred : ratio.inferBase box = .ok base) :
    ratio.solve box =
      if commonScale base box.lengths = 0 then .error .zeroScale
      else
        match solveAxes (base / commonScale base box.lengths) (commonScale base box.lengths) 0
          (ratio.axes box) with
        | .error cause => .error (.ofRaised cause)
        | .ok sums => .ok { solved := { sums }, scale := commonScale base box.lengths } := by
  unfold solve
  rw [if_neg (not_not.mpr same)]
  generalize ratio.inferBase box = outcome at inferred ⊢
  subst inferred
  rfl

/-- A ratio that is not solved is raised as what it is, unless shape or scale prevent it from being
tried: both stages raise what they fail with, and nothing is added on the way out. -/
theorem Ratio.exists_raise_of_solve {failure : SolveFailure}
    (failed : ratio.solve box = .error failure) :
    (∃ cause, failure = .shape cause) ∨ failure = .zeroScale ∨
      ∃ cause, failure = .raise cause := by
  unfold solve at failed
  split at failed
  · exact .inl ⟨_, (Except.error.inj failed).symm⟩
  split at failed
  · rename_i inferred
    rcases inferBase_eq_error_iff.mp inferred with ⟨_, _, -, rfl⟩ | ⟨-, _, -, -, -, rfl⟩
    · exact .inr (.inr ⟨_, (Except.error.inj failed).symm⟩)
    · exact .inr (.inr ⟨_, (Except.error.inj failed).symm⟩)
  dsimp only at failed
  split at failed
  · exact .inr (.inl (Except.error.inj failed).symm)
  split at failed
  · rename_i unsolved
    obtain ⟨_, _, -, _, axisFailed, rfl⟩ := solveAxes_eq_error_iff.mp unsolved
    obtain ⟨cause, rfl⟩ := AxisSum.exists_raise_of_solve axisFailed
    rw [AxisFailure.map_unsolvedAxis] at failed
    exact .inr (.inr ⟨_, (Except.error.inj failed).symm⟩)
  · cases failed

/-- That a ratio does not fit is told only if all numbers of the message can be written. -/
theorem Ratio.writable_of_solve {cause : RatioFailure}
    (failed : ratio.solve box = .error (.unfit cause)) :
    ∀ number ∈ cause.numbers, Writable number := by
  rcases exists_raise_of_solve failed with ⟨_, shape⟩ | zero | ⟨_, raised⟩
  · cases shape
  · cases zero
  · obtain ⟨short, rfl⟩ := SolveFailure.raise_eq_unfit_iff.mp raised.symm
    exact short

/-- Otherwise it is not told why. -/
theorem Ratio.solve_eq_overlong_iff :
    ratio.solve box = .error .overlong ↔
      ∃ cause : RatioFailure, ratio.solve box = .error (.raise cause) ∧
        ¬ ∀ number ∈ cause.numbers, Writable number := by
  constructor
  · intro failed
    rcases exists_raise_of_solve failed with ⟨_, shape⟩ | zero | ⟨cause, raised⟩
    · cases shape
    · cases zero
    · exact ⟨cause, failed.trans (congrArg Except.error raised),
        SolveFailure.raise_eq_overlong_iff.mp raised.symm⟩
  · rintro ⟨cause, raised, long⟩
    rw [raised, SolveFailure.raise_eq_overlong_iff.mpr long]

/-- With a base the outcome is that of solving the axes. -/
theorem Ratio.solve_of_isBase (same : box.dimensions = ratio.dimensions)
    (nonneg : ratio.KnownNonneg) (positive : box.Positive)
    (isBase : IsBase (ratio.axes box) base)
    (greatest : IsGreatestDivisor scale (base :: box.lengths)) :
    ratio.solve box =
      match solveAxes (base / scale) scale 0 (ratio.axes box) with
      | .error cause => .error (.ofRaised cause)
      | .ok sums => .ok { solved := { sums }, scale } := by
  have base_pos : 0 < base := isBase.pos nonneg positive
  have scale_pos : 0 < scale := greatest.pos List.mem_cons_self base_pos
  have common : commonScale base box.lengths = scale :=
    (isGreatestDivisor_commonScale base_pos.le).eq greatest
  have inferred : ratio.inferBase box = .ok base := (inferBase_eq_ok_iff positive).mpr isBase
  rw [solve_of_inferBase_eq_ok same inferred, common, if_neg scale_pos.ne']

theorem Ratio.solve_eq_error_iff_solveAxes (same : box.dimensions = ratio.dimensions)
    (nonneg : ratio.KnownNonneg) (positive : box.Positive)
    (isBase : IsBase (ratio.axes box) base)
    (greatest : IsGreatestDivisor scale (base :: box.lengths)) {failure : SolveFailure} :
    ratio.solve box = .error failure ↔
      ∃ cause, solveAxes (base / scale) scale 0 (ratio.axes box) = .error cause ∧
        failure = .ofRaised cause := by
  rw [solve_of_isBase same nonneg positive isBase greatest]
  cases solveAxes (base / scale) scale 0 (ratio.axes box) <;> simp [eq_comm]

theorem Ratio.dimensions_of_solve {solution : Solution} (solved : ratio.solve box = .ok solution) :
    box.dimensions = ratio.dimensions := by
  by_contra differ
  simp [solve, differ] at solved

/-- A solution has a base, the scale that goes with it, and a solved sum for each axis. -/
theorem Ratio.solve_eq_ok_iff (nonneg : ratio.KnownNonneg) (positive : box.Positive)
    {solution : Solution} :
    ratio.solve box = .ok solution ↔
      box.dimensions = ratio.dimensions ∧ ∃ base, IsBase (ratio.axes box) base ∧
        IsGreatestDivisor solution.scale (base :: box.lengths) ∧
        List.Forall₂ (fun axis solved =>
            (axis.1.times (base / solution.scale)).solve axis.2 solution.scale = .ok solved)
          (ratio.axes box) solution.solved.sums := by
  constructor
  · intro solved
    have same := dimensions_of_solve solved
    cases inferred : ratio.inferBase box with
    | error cause => simp [solve_of_inferBase_eq_error same inferred] at solved
    | ok base =>
        have isBase := (inferBase_eq_ok_iff positive).mp inferred
        have greatest : IsGreatestDivisor (commonScale base box.lengths) (base :: box.lengths) :=
          isGreatestDivisor_commonScale (isBase.pos nonneg positive).le
        rw [solve_of_isBase same nonneg positive isBase greatest] at solved
        split at solved
        · cases solved
        · rename_i sums each
          cases solved
          exact ⟨same, base, isBase, greatest, solveAxes_eq_ok_iff.mp each⟩
  · intro characterised
    obtain ⟨same, base, isBase, greatest, each⟩ := characterised
    have sums : solveAxes (base / solution.scale) solution.scale 0 (ratio.axes box) =
        .ok solution.solved.sums := solveAxes_eq_ok_iff.mpr each
    rw [solve_of_isBase same nonneg positive isBase greatest, sums]

end

/-!
### Filled axes
-/

/-- The solved sum fills the axis.  It has the addends of the axis in their order: each
known one takes its multiple of the base in pixels, all unknowns one share, and together
they take the length of the axis. -/
structure Fills (base scale : Int) (axis : AxisSum × Int) (solved : SolvedSum) : Prop where
  size : solved.size = axis.1.size
  known : ∀ (index : Nat) (addend : Int), axis.1.addends[index]? = some (some addend) →
    ∃ units, solved.addends[index]? = some units ∧ units * scale = addend * base
  share : ∃ share, 0 ≤ share ∧
    ∀ index : Nat, axis.1.addends[index]? = some none → solved.addends[index]? = some share
  total : solved.total * scale = axis.2

theorem fills_of_solve {axes : List (AxisSum × Int)} {base scale : Int}
    (measures : Measures scale base axes) (isBase : IsBase axes base) {axis : AxisSum × Int}
    (member : axis ∈ axes) {solved : SolvedSum}
    (success : (axis.1.times (base / scale)).solve axis.2 scale = .ok solved) :
    Fills base scale axis solved := by
  have nonzero := measures.pos.ne'
  obtain ⟨factor, rfl⟩ := measures.dvd_base
  rw [Int.mul_ediv_cancel_left factor nonzero] at success
  have full : (axis.1.times factor).unknowns = 0 →
      (axis.1.times factor).knownTotal * scale = axis.2 := by
    intro known
    rw [AxisSum.unknowns_times] at known
    rw [AxisSum.knownTotal_times, mul_assoc, mul_comm factor, isBase.fills axis member known]
  obtain ⟨share, nonneg, rfl, total⟩ :=
    AxisSum.exists_fill_of_solve nonzero (measures.dvd_length axis member) full success
  refine ⟨by simp, ?_, ⟨share, nonneg, ?_⟩, total⟩
  · intro index addend found
    refine ⟨addend * factor, ?_, by rw [mul_assoc, mul_comm factor]⟩
    simp [AxisSum.fill, AxisSum.times, found]
  · intro index found
    simp [AxisSum.fill, AxisSum.times, found]

/-- A solution fills every axis. -/
theorem Ratio.forall₂_fills_of_solve {ratio : Ratio} {box : Box} {solution : Solution}
    (nonneg : ratio.KnownNonneg) (positive : box.Positive)
    (solved : ratio.solve box = .ok solution) :
    ∃ base, IsBase (ratio.axes box) base ∧
      IsGreatestDivisor solution.scale (base :: box.lengths) ∧
      List.Forall₂ (Fills base solution.scale) (ratio.axes box) solution.solved.sums := by
  obtain ⟨-, base, isBase, greatest, each⟩ := (solve_eq_ok_iff nonneg positive).mp solved
  have measures : Measures solution.scale base (ratio.axes box) :=
    greatest.measures (isBase.pos nonneg positive)
  refine ⟨base, isBase, greatest, ?_⟩
  refine forall₂_imp_of_mem each fun axis axisMember sum _ success => ?_
  exact fills_of_solve measures isBase axisMember success

/-- Solving is sound.  The scale is the greatest common divisor of base and lengths, and
there is one solved sum for each axis, which fills it. -/
theorem Ratio.fills_of_solve_eq_ok {ratio : Ratio} {box : Box} {solution : Solution}
    (nonneg : ratio.KnownNonneg) (positive : box.Positive)
    (solved : ratio.solve box = .ok solution) :
    ∃ base, IsBase (ratio.axes box) base ∧
      1 ≤ solution.scale ∧ IsGreatestDivisor solution.scale (base :: box.lengths) ∧
      box.dimensions = ratio.dimensions ∧ solution.solved.dimensions = ratio.dimensions ∧
      List.Forall₂ (Fills base solution.scale) (ratio.axes box) solution.solved.sums := by
  obtain ⟨base, isBase, greatest, fills⟩ := forall₂_fills_of_solve nonneg positive solved
  have same := dimensions_of_solve solved
  have base_pos := isBase.pos nonneg positive
  refine ⟨base, isBase, greatest.pos List.mem_cons_self base_pos, greatest, same, ?_, fills⟩
  have lengths : (ratio.axes box).length = solution.solved.sums.length := fills.length_eq
  rw [axes, List.length_zip] at lengths
  simp only [Box.dimensions, dimensions] at same
  simp only [SolvedRatio.dimensions, dimensions]
  omega

/-- Four columns, the first of no width and two of unknown width, and two equal rows. -/
def Ratio.unevenColumns : Ratio :=
  { sums := [{ addends := [some 0, none, some 1, none] }, { addends := [some 1, some 1] }] }

/-- Its solution on a box of ten by twelve pixels: the rows imply six pixels for a unit of
the ratio, and two pixels are the common scale. -/
def unevenSolution : Solution :=
  { solved := { sums := [{ addends := [0, 1, 3, 1] }, { addends := [3, 3] }] }, scale := 2 }

theorem Ratio.unevenColumns_fills :
    Ratio.unevenColumns.KnownNonneg ∧ (Box.plane 10 12).Positive ∧
      Ratio.unevenColumns.solve (Box.plane 10 12) = .ok unevenSolution ∧
      ∃ base, IsBase (Ratio.unevenColumns.axes (Box.plane 10 12)) base ∧
        1 ≤ unevenSolution.scale ∧
        IsGreatestDivisor unevenSolution.scale (base :: (Box.plane 10 12).lengths) ∧
        (Box.plane 10 12).dimensions = Ratio.unevenColumns.dimensions ∧
        unevenSolution.solved.dimensions = Ratio.unevenColumns.dimensions ∧
        List.Forall₂ (Fills base unevenSolution.scale)
          (Ratio.unevenColumns.axes (Box.plane 10 12)) unevenSolution.solved.sums := by
  have nonneg : Ratio.unevenColumns.KnownNonneg := by decide
  have positive : (Box.plane 10 12).Positive := by decide
  have solved : Ratio.unevenColumns.solve (Box.plane 10 12) = .ok unevenSolution := by cbv
  exact ⟨nonneg, positive, solved, fills_of_solve_eq_ok nonneg positive solved⟩

end MonitorSplit
