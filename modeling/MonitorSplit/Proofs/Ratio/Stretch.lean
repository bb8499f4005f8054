/-
Module: MonitorSplit.Proofs.Ratio.Stretch
Purpose: Ratios solved on a box and on a multiple of it.
Main exports:
  Box.times, AxisFailure.times, Stretched, Ratio.solve_times
-/
import MonitorSplit.Proofs.Ratio.Solution

namespace MonitorSplit

/-!
### Implied scales

On a multiple of the box an axis without unknowns implies the same multiple of its scale.  So do
all such axes together: as many different scales are implied as before, in the same order.
-/

/-- The box with every length multiplied by a factor. -/
def Box.times (box : Box) (factor : Int) : Box where
  lengths := box.lengths.map (· * factor)
  nonempty := by simpa using box.nonempty

/-- The axis with its length multiplied by a factor. -/
def lengthen (factor : Int) (axis : AxisSum × Int) : AxisSum × Int := (axis.1, axis.2 * factor)

theorem Ratio.axes_times (ratio : Ratio) (box : Box) (factor : Int) :
    ratio.axes (box.times factor) = (ratio.axes box).map (lengthen factor) :=
  List.zip_map_right

theorem not_impliesNoScale_lengthen {axis : AxisSum × Int} (fit : ¬ ImpliesNoScale axis)
    (factor : Int) : ¬ ImpliesNoScale (lengthen factor axis) := by
  rintro ⟨known, unfit⟩
  rcases unfit with zero | leaves
  · exact fit ⟨known, .inl zero⟩
  · exact fit ⟨known, .inr fun divides => leaves (divides.mul_right factor)⟩

section

variable {axes : List (AxisSum × Int)} {factor : Int}

theorem quotients_lengthen (fit : ∀ axis ∈ axes, ¬ ImpliesNoScale axis) :
    quotients (axes.map (lengthen factor)) = (quotients axes).map (· * factor) := by
  simp only [quotients, List.filter_map, List.map_map]
  refine List.map_congr_left fun axis member => ?_
  obtain ⟨listed, known⟩ := List.mem_filter.mp member
  have divides : axis.1.knownTotal ∣ axis.2 := by
    by_contra leaves
    exact fit axis listed ⟨of_decide_eq_true known, .inr leaves⟩
  exact Int.mul_ediv_assoc' factor divides

theorem distinctAscending_map_mul (factor_pos : 0 < factor) (values : List Int) :
    distinctAscending (values.map (· * factor)) = (distinctAscending values).map (· * factor) := by
  refine (eq_distinctAscending_iff.mpr ⟨?_, fun value => ?_⟩).symm
  · rw [List.pairwise_map]
    exact (pairwise_distinctAscending values).imp fun less => mul_lt_mul_of_pos_right less factor_pos
  · simp only [List.mem_map, mem_distinctAscending]

/-!
### The common scale

Base and lengths have the same factor in common, so their greatest common divisor has it too, and
the number of scale units in the base stays.
-/

theorem commonScale_times (factor_nonneg : 0 ≤ factor) (base : Int) (lengths : List Int) :
    commonScale (base * factor) (lengths.map (· * factor)) = commonScale base lengths * factor := by
  induction lengths generalizing base with
  | nil => rfl
  | cons length rest inductionHypothesis =>
      have common : (Int.gcd (base * factor) (length * factor) : Int) =
          (Int.gcd base length : Int) * factor := by
        rw [Int.gcd_mul_right, Nat.cast_mul, Int.natAbs_of_nonneg factor_nonneg]
      show commonScale (Int.gcd (base * factor) (length * factor) : Int) (rest.map (· * factor)) = _
      rw [common, inductionHypothesis]
      rfl

/-!
### Axes

An axis that is a whole number of scale units long stays as many units long, and from there on
only the number of units decides.
-/

/-- The failure of an axis as it is told on a multiple of the box.  What is counted in units stays
as it is. -/
def AxisFailure.times (factor : Int) : AxisFailure → AxisFailure
  | .exceeded sum total => .exceeded sum total
  | .indivisible sum length scale cause => .indivisible sum (length * factor) (scale * factor) cause

/-- The division that failed keeps its operands, and where none failed none fails. -/
theorem AxisFailure.cause?_times (factor : Int) (failure : AxisFailure) :
    (failure.times factor).cause? = failure.cause? := by
  cases failure <;> rfl

variable {units scale : Int}

theorem AxisSum.solve_lengthen_of_ok {sum : AxisSum} {length : Int} {solved : SolvedSum}
    (scale_ne : scale ≠ 0) (factor_ne : factor ≠ 0) (divides : scale ∣ length)
    (success : sum.solve length scale = .ok solved) :
    sum.solve (length * factor) (scale * factor) = .ok solved := by
  obtain ⟨total, rfl⟩ := divides
  rw [mul_comm scale total] at success ⊢
  rw [mul_assoc]
  exact (solve_units_eq_ok_iff (mul_ne_zero scale_ne factor_ne)).mpr
    ((solve_units_eq_ok_iff scale_ne).mp success)

theorem AxisSum.solve_lengthen_of_error {sum : AxisSum} {length : Int} {raised : Raised AxisFailure}
    (scale_ne : scale ≠ 0) (factor_ne : factor ≠ 0) (divides : scale ∣ length)
    (failed : sum.solve length scale = .error raised) :
    ∃ failure, raised = AxisFailure.raise failure ∧
      sum.solve (length * factor) (scale * factor) =
        .error (AxisFailure.raise (failure.times factor)) := by
  obtain ⟨total, rfl⟩ := divides
  rw [mul_comm scale total] at failed ⊢
  rw [mul_assoc]
  have fails_iff {other : Raised AxisFailure} :
      sum.solve (total * (scale * factor)) (scale * factor) = .error other ↔ _ :=
    solve_units_eq_error_iff (mul_ne_zero scale_ne factor_ne)
  obtain ⟨unknowns, ⟨less, rfl⟩ | ⟨enough, leaves, rfl⟩⟩ :=
    (solve_units_eq_error_iff scale_ne).mp failed
  · exact ⟨_, rfl, fails_iff.mpr ⟨unknowns, .inl ⟨less, rfl⟩⟩⟩
  · refine ⟨_, rfl, fails_iff.mpr ⟨unknowns, .inr ⟨enough, leaves, ?_⟩⟩⟩
    rw [AxisFailure.times, mul_assoc]

variable (scale_ne : scale ≠ 0) (factor_ne : factor ≠ 0) (divides : ∀ axis ∈ axes, scale ∣ axis.2)

include scale_ne factor_ne divides

theorem solveAxes_lengthen_of_ok {start : Nat} {sums : List SolvedSum}
    (solved : solveAxes units scale start axes = .ok sums) :
    solveAxes units (scale * factor) start (axes.map (lengthen factor)) = .ok sums := by
  rw [solveAxes_eq_ok_iff, List.forall₂_map_left_iff]
  refine forall₂_imp_of_mem (solveAxes_eq_ok_iff.mp solved) fun axis member sum _ success => ?_
  exact AxisSum.solve_lengthen_of_ok scale_ne factor_ne (divides axis member) success

theorem solveAxes_lengthen_of_error {start : Nat} {raised : Raised RatioFailure}
    (failed : solveAxes units scale start axes = .error raised) :
    ∃ index cause, raised = RatioFailure.raise (.unsolvedAxis index cause) ∧
      solveAxes units (scale * factor) start (axes.map (lengthen factor)) =
        .error (RatioFailure.raise (.unsolvedAxis index (cause.times factor))) := by
  induction axes generalizing start with
  | nil => simp [solveAxes] at failed
  | cons axis rest inductionHypothesis =>
      obtain ⟨head, tail⟩ := List.forall_mem_cons.mp divides
      rw [List.map_cons, solveAxes, lengthen]
      rw [solveAxes] at failed
      cases first : (axis.1.times units).solve axis.2 scale with
      | error other =>
          rw [first] at failed
          cases failed
          obtain ⟨cause, rfl, stretched⟩ :=
            AxisSum.solve_lengthen_of_error scale_ne factor_ne head first
          refine ⟨start, cause, AxisFailure.map_unsolvedAxis _ _, ?_⟩
          rw [stretched]
          exact congrArg Except.error (AxisFailure.map_unsolvedAxis _ _)
      | ok sum =>
          rw [first] at failed
          rw [AxisSum.solve_lengthen_of_ok scale_ne factor_ne head first]
          obtain ⟨index, cause, rfl, stretched⟩ :=
            inductionHypothesis tail (map_eq_error_iff.mp failed)
          exact ⟨index, cause, rfl, map_eq_error_iff.mpr stretched⟩

end

/-!
### Multiples of a box
-/

/-- What solving a ratio comes to on a box, and on a multiple of it.  The solved sums stay and
their scale is multiplied, and so are scales that differ.  An axis without a solution stays the
first one, and it has none for the same reason.  A failure is told as far as its own numbers allow,
so it may be told on the box and not on the multiple. -/
inductive Stretched (factor : Int) :
    Except SolveFailure Solution → Except SolveFailure Solution → Prop where
  | solved (solved : SolvedRatio) (scale : Int) :
      Stretched factor (.ok { solved, scale }) (.ok { solved, scale := scale * factor })
  | unequalScales (scales : List Int) :
      Stretched factor (.error (.raise (.unequalScales scales)))
        (.error (.raise (.unequalScales (scales.map (· * factor)))))
  | unsolvedAxis (axis : Nat) (cause : AxisFailure) :
      Stretched factor (.error (.raise (.unsolvedAxis axis cause)))
        (.error (.raise (.unsolvedAxis axis (cause.times factor))))

namespace Ratio

section

variable {ratio : Ratio} {box : Box} {factor : Int}

theorem dimensions_times (box : Box) (factor : Int) :
    (box.times factor).dimensions = box.dimensions :=
  List.length_map _

/-- An axis without unknowns has a quotient. -/
theorem quotients_ne_nil (same : box.dimensions = ratio.dimensions)
    (known : ∃ sum ∈ ratio.sums, sum.unknowns = 0) : quotients (ratio.axes box) ≠ [] := by
  obtain ⟨sum, member, none_unknown⟩ := known
  obtain ⟨axis, listed, rfl⟩ := exists_axis_of_mem same member
  exact List.ne_nil_of_mem (mem_quotients.mpr ⟨axis, listed, none_unknown, rfl⟩)

/-- With a base, solving on the multiple is solving at the multiple of the scale. -/
theorem stretched_of_isBase (same : box.dimensions = ratio.dimensions) (nonneg : ratio.KnownNonneg)
    (positive : box.Positive) (factor_pos : 0 < factor) {base : Int}
    (inferred : ratio.inferBase box = .ok base)
    (inferredTimes : ratio.inferBase (box.times factor) = .ok (base * factor)) :
    Stretched factor (ratio.solve box) (ratio.solve (box.times factor)) := by
  have base_pos : 0 < base := (isBase_of_inferBase inferred).pos nonneg positive
  have measures : Measures (commonScale base box.lengths) base (ratio.axes box) :=
    (isGreatestDivisor_commonScale base_pos.le).measures base_pos
  have scale_ne := measures.pos.ne'
  have common : commonScale (base * factor) (box.times factor).lengths =
      commonScale base box.lengths * factor := commonScale_times factor_pos.le base box.lengths
  rw [solve_of_inferBase_eq_ok same inferred, if_neg scale_ne,
    solve_of_inferBase_eq_ok ((dimensions_times box factor).trans same) inferredTimes, common,
    if_neg (mul_ne_zero scale_ne factor_pos.ne'), Int.mul_ediv_mul_of_pos_left _ _ factor_pos,
    axes_times]
  cases outcome : solveAxes (base / commonScale base box.lengths) (commonScale base box.lengths) 0
      (ratio.axes box) with
  | ok sums =>
      rw [solveAxes_lengthen_of_ok scale_ne factor_pos.ne' measures.dvd_length outcome]
      exact .solved _ _
  | error failure =>
      obtain ⟨index, cause, rfl, stretched⟩ :=
        solveAxes_lengthen_of_error scale_ne factor_pos.ne' measures.dvd_length outcome
      rw [stretched]
      exact .unsolvedAxis index cause

/-- If an axis knows all its addends, solving on a multiple of a box is solving on the box, but for
the failure to imply a scale, which a multiple may mend. -/
theorem solve_times (same : box.dimensions = ratio.dimensions) (nonneg : ratio.KnownNonneg)
    (positive : box.Positive) (known : ∃ sum ∈ ratio.sums, sum.unknowns = 0)
    (factor_pos : 1 ≤ factor) (fit : ∀ axis ∈ ratio.axes box, ¬ ImpliesNoScale axis) :
    Stretched factor (ratio.solve box) (ratio.solve (box.times factor)) := by
  have fitTimes : ∀ axis ∈ ratio.axes (box.times factor), ¬ ImpliesNoScale axis := by
    rw [axes_times, List.forall_mem_map]
    exact fun axis member => not_impliesNoScale_lengthen (fit axis member) factor
  have base := inferBase_of_fit fit
  have baseTimes := inferBase_of_fit fitTimes
  rw [axes_times, quotients_lengthen fit, distinctAscending_map_mul factor_pos] at baseTimes
  cases outcome : baseScale (distinctAscending (quotients (ratio.axes box))) with
  | error failure =>
      obtain ⟨several, rfl⟩ := baseScale_eq_error_iff.mp outcome
      rw [baseScale_eq_error_iff.mpr ⟨by rwa [List.length_map], rfl⟩] at baseTimes
      rw [solve_of_inferBase_eq_error same (base.trans outcome),
        solve_of_inferBase_eq_error ((dimensions_times box factor).trans same) baseTimes]
      exact .unequalScales _
  | ok scale =>
      rcases baseScale_eq_ok_iff.mp outcome with ⟨empty, -⟩ | only
      · obtain ⟨quotient, implied⟩ := List.exists_mem_of_ne_nil _ (quotients_ne_nil same known)
        rw [← mem_distinctAscending, empty] at implied
        cases implied
      · rw [only, List.map_singleton] at baseTimes
        exact stretched_of_isBase same nonneg positive factor_pos (base.trans outcome) baseTimes

/-- The rows of the uneven columns imply a scale, and on three times the box they imply three times
that scale. -/
theorem unevenColumns_stretched :
    (Box.plane 10 12).dimensions = Ratio.unevenColumns.dimensions ∧
      Ratio.unevenColumns.KnownNonneg ∧ (Box.plane 10 12).Positive ∧
      (∃ sum ∈ Ratio.unevenColumns.sums, sum.unknowns = 0) ∧ (1 : Int) ≤ 3 ∧
      (∀ axis ∈ Ratio.unevenColumns.axes (Box.plane 10 12), ¬ ImpliesNoScale axis) ∧
      Ratio.unevenColumns.solve (Box.plane 10 12) = .ok unevenSolution ∧
      Stretched 3 (Ratio.unevenColumns.solve (Box.plane 10 12))
        (Ratio.unevenColumns.solve ((Box.plane 10 12).times 3)) := by
  have same : (Box.plane 10 12).dimensions = Ratio.unevenColumns.dimensions := by decide
  have nonneg : Ratio.unevenColumns.KnownNonneg := by decide
  have positive : (Box.plane 10 12).Positive := by decide
  have known : ∃ sum ∈ Ratio.unevenColumns.sums, sum.unknowns = 0 := by decide
  have inferred : Ratio.unevenColumns.inferBase (Box.plane 10 12) = .ok 6 := by cbv
  have fit := fit_of_inferBase inferred
  have solved : Ratio.unevenColumns.solve (Box.plane 10 12) = .ok unevenSolution := by cbv
  exact ⟨same, nonneg, positive, known, by decide, fit, solved,
    solve_times same nonneg positive known (by decide) fit⟩

/-- Three units on one axis, and six on the other. -/
def unevenRows : Ratio := { sums := [{ addends := [some 3] }, { addends := [some 6] }] }

/-- That the scales differ is told on a small box.  On a multiple of it they are too long. -/
theorem unevenRows_not_told :
    ¬ ∀ (ratio : Ratio) (box : Box) (factor : Int) (scales : List Int),
      box.dimensions = ratio.dimensions → ratio.KnownNonneg → box.Positive →
      (∃ sum ∈ ratio.sums, sum.unknowns = 0) → 1 ≤ factor →
      ratio.solve box = .error (.unfit (.unequalScales scales)) →
      ratio.solve (box.times factor) = .error (.unfit (.unequalScales (scales.map (· * factor)))) := by
  intro told
  have positive := longest_pos
  have failed := told unevenRows (Box.plane 6 6) (longest + 1) [1, 2] rfl (by decide) (by decide)
    (by decide) (by omega) (by cbv)
  have short := writable_of_solve failed
  have greater : longest < 1 * (longest + 1) := by omega
  exact not_writable_of_longest_lt greater (short _ List.mem_cons_self)

/-- Without such an axis a unit stays a pixel.  Two columns cannot share three pixels, but six. -/
example : (Ratio.solve { sums := [{ addends := [none, none] }] } { lengths := [3] }).isOk = false ∧
    (Ratio.solve { sums := [{ addends := [none, none] }] } (.times { lengths := [3] } 2)).isOk =
      true := by
  cbv

end

end Ratio

end MonitorSplit
