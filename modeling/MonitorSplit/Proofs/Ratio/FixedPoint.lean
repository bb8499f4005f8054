/-
Module: MonitorSplit.Proofs.Ratio.FixedPoint
Purpose: Solutions written, read and solved again.
Main exports:
  AxisSum.Knows, Ratio.Knows, Ratio.Knows.solve, Ratio.solve_parse_render
-/
import MonitorSplit.Proofs.Ratio.Rendering
import MonitorSplit.Proofs.Ratio.Totals

namespace MonitorSplit

/-!
### Sums without unknowns

A solved sum is written like a sum that knows all its addends.  Such a sum has nothing left to
solve: on an axis that the addends fill, it is solved by them as they are.
-/

/-- The sum has the addends of the solved one, all of them known. -/
def AxisSum.Knows (sum : AxisSum) (solved : SolvedSum) : Prop :=
  sum.addends = solved.addends.map some

namespace AxisSum

@[simp] theorem times_one (sum : AxisSum) : sum.times 1 = sum := by
  simp [times]

section

variable {sum : AxisSum} {solved : SolvedSum}

theorem exists_knows (nonempty : solved.addends ≠ []) : ∃ sum : AxisSum, sum.Knows solved :=
  ⟨{ addends := solved.addends.map some, nonempty := by simpa using nonempty }, rfl⟩

theorem Knows.unknowns (knows : sum.Knows solved) : sum.unknowns = 0 := by
  simp [AxisSum.unknowns, show sum.addends = _ from knows]

theorem Knows.fill (knows : sum.Knows solved) (share : Int) : sum.fill share = solved := by
  simp [AxisSum.fill, show sum.addends = _ from knows]

theorem Knows.knownTotal (knows : sum.Knows solved) : sum.knownTotal = solved.total := by
  have filled := sum.total_fill 0
  rw [knows.fill] at filled
  simpa using filled.symm

theorem Knows.render (knows : sum.Knows solved) : sum.render = solved.render := by
  simp only [AxisSum.render, SolvedSum.render, show sum.addends = _ from knows, List.map_map]
  rfl

/-- Both are written alike, or not at all. -/
theorem Knows.write (knows : sum.Knows solved) : sum.write = solved.write := by
  have same : sum.addends = solved.addends.map some := knows
  rw [AxisSum.write, same]
  exact joinWritten_congr (List.forall₂_map_left_iff.mpr (List.forall₂_same.mpr fun _ _ => rfl))

/-- A scale at which the addends are whole units of the axis solves the sum by its own addends. -/
theorem Knows.solve (knows : sum.Knows solved) {scale : Int} (nonzero : scale ≠ 0) :
    sum.solve (solved.total * scale) scale = .ok solved :=
  (solve_units_eq_ok_iff nonzero).mpr (.inl ⟨knows.unknowns, (knows.fill 0).symm⟩)

end

end AxisSum

/-- An addend of numbers that are not negative is at most their sum. -/
theorem le_addUp {numbers : List Int} (nonneg : ∀ number ∈ numbers, 0 ≤ number) {number : Int}
    (member : number ∈ numbers) : number ≤ addUp numbers :=
  List.single_le_sum nonneg number member

/-!
### Ratios without unknowns

All axes of such a ratio imply a scale.  If its sums are those of a solution, every axis implies
the scale of that solution, which divides all lengths and so is also the scale of the new
solution.
-/

/-- The ratio has the addends of the solved one, all of them known. -/
def Ratio.Knows (ratio : Ratio) (solved : SolvedRatio) : Prop :=
  List.Forall₂ AxisSum.Knows ratio.sums solved.sums

namespace Ratio

section

variable {ratio : Ratio} {solved : SolvedRatio}

theorem exists_knows (axes : solved.sums ≠ []) (addends : ∀ sum ∈ solved.sums, sum.addends ≠ []) :
    ∃ ratio : Ratio, ratio.Knows solved := by
  obtain ⟨sums, each⟩ := exists_forall₂_left fun sum member =>
    AxisSum.exists_knows (addends sum member)
  refine ⟨{ sums, nonempty := ?_ }, each⟩
  rintro rfl
  exact axes (List.forall₂_nil_left_iff.mp each)

theorem Knows.dimensions (knows : ratio.Knows solved) : ratio.dimensions = solved.dimensions :=
  knows.length_eq

theorem Knows.render (knows : ratio.Knows solved) : ratio.render = solved.render := by
  have texts : ratio.sums.map AxisSum.render = solved.sums.map SolvedSum.render := by
    rw [← List.forall₂_eq_eq_eq, List.forall₂_map_left_iff, List.forall₂_map_right_iff]
    exact knows.imp fun _ _ => AxisSum.Knows.render
  rw [Ratio.render, SolvedRatio.render, texts]

theorem Knows.write (knows : ratio.Knows solved) : ratio.write = solved.write :=
  joinWritten_congr (knows.imp fun _ _ => AxisSum.Knows.write)

end

section

variable {ratio again : Ratio} {box : Box} {solution : Solution} (scale_pos : 0 < solution.scale)
  (totals : List.Forall₂ (fun sum length => sum.total * solution.scale = length)
    solution.solved.sums box.lengths)

include totals

/-- Some ratio knows the addends of a solution. -/
theorem exists_knows_of_solve (solved : ratio.solve box = .ok solution) :
    ∃ again : Ratio, again.Knows solution.solved := by
  refine exists_knows (fun none => ?_) (addends_ne_nil_of_solve solved)
  rw [none, List.forall₂_nil_left_iff] at totals
  exact box.nonempty totals

/-- With the addends of a solution every axis implies the scale of that solution. -/
theorem Knows.isBase (knows : again.Knows solution.solved) :
    IsBase (again.axes box) solution.scale := by
  have each := forall₂_zip_left knows totals
  refine { fills := fun axis member _ => ?_, unit := fun unknown => ?_ }
  · obtain ⟨sum, -, known, total⟩ := exists_of_mem_left each member
    rw [known.knownTotal, total]
  · -- there is an axis, and its sum has no unknowns
    obtain ⟨first, listed⟩ := List.exists_mem_of_ne_nil again.sums again.nonempty
    obtain ⟨sum, solved, -⟩ := exists_of_mem_left knows listed
    obtain ⟨axis, member, known, -⟩ := exists_of_mem_right each solved
    exact absurd known.unknowns (unknown axis member)

include scale_pos

/-- The addends of a solution are numbers that a text may hold if the lengths of the box are:
they add up to these lengths. -/
theorem Knows.inRange (knows : again.Knows solution.solved) (nonneg : solution.solved.Nonneg)
    (small : ∀ length ∈ box.lengths, length ≤ largestNumeral) : again.InRange := by
  intro sum member addend inside known isKnown
  obtain ⟨solvedSum, listed, same⟩ := exists_of_mem_left knows member
  have among : known ∈ solvedSum.addends := by
    have place : some known ∈ solvedSum.addends.map some := by
      rw [← show sum.addends = _ from same, ← Option.mem_def.mp isKnown]
      exact inside
    simpa using place
  have addends_nonneg := nonneg solvedSum listed
  obtain ⟨length, measured, total⟩ := exists_of_mem_left totals listed
  refine ⟨addends_nonneg known among, ?_⟩
  calc known ≤ solvedSum.total := le_addUp addends_nonneg among
    _ ≤ solvedSum.total * solution.scale :=
        le_mul_of_one_le_right (addUp_nonneg addends_nonneg) scale_pos
    _ = length := total
    _ ≤ largestNumeral := small length measured

/-- The scale of a solution divides all lengths, so as a base it is also the greatest common
divisor of base and lengths. -/
theorem isGreatestDivisor_scale :
    IsGreatestDivisor solution.scale (solution.scale :: box.lengths) := by
  refine { nonneg := scale_pos.le, divides := fun number member => ?_, greatest := ?_ }
  · rcases List.mem_cons.mp member with rfl | length
    · exact dvd_rfl
    · obtain ⟨sum, -, total⟩ := exists_of_mem_right totals length
      exact ⟨sum.total, by rw [← total, mul_comm]⟩
  · exact fun other divides => divides solution.scale List.mem_cons_self

/-- A ratio with the addends of a solution has that solution. -/
theorem Knows.solve (knows : again.Knows solution.solved) (nonneg : again.KnownNonneg)
    (positive : box.Positive) : again.solve box = .ok solution := by
  have same : box.dimensions = again.dimensions := (knows.dimensions.trans totals.length_eq).symm
  refine (solve_eq_ok_iff nonneg positive).mpr
    ⟨same, solution.scale, knows.isBase totals, isGreatestDivisor_scale scale_pos totals, ?_⟩
  refine (forall₂_zip_left knows totals).imp fun axis sum both => ?_
  obtain ⟨known, total⟩ := both
  rw [Int.ediv_self scale_pos.ne', AxisSum.times_one, ← total]
  exact known.solve scale_pos.ne'

end

/-- Solving is a fixed point through the text form.  The sums of a solution are written as a text
that is read, and what is read has the same solution on the same box. -/
theorem solve_parse_render {ratio : Ratio} {box : Box} {solution : Solution}
    (nonneg : ratio.KnownNonneg) (positive : box.Positive)
    (small : ∀ length ∈ box.lengths, length ≤ largestNumeral)
    (solved : ratio.solve box = .ok solution) :
    solution.solved.write = .ok solution.solved.render ∧
      ∃ again, Ratio.parse box.dimensions solution.solved.render = .ok again ∧
        again.solve box = .ok solution := by
  obtain ⟨scale_pos, totals⟩ := totals_of_solve solved
  obtain ⟨again, knows⟩ := exists_knows_of_solve totals solved
  have inRange : again.InRange := knows.inRange scale_pos totals
    (SolvedRatio.nonneg_of_knownNonneg nonneg positive solved) small
  have same : again.dimensions = box.dimensions := knows.dimensions.trans totals.length_eq
  have written := inRange.short.write_eq
  have parsed := parse_render_of_inRange inRange
  rw [knows.write, knows.render] at written
  rw [same, knows.render] at parsed
  exact ⟨written, again, parsed, knows.solve scale_pos totals inRange.knownNonneg positive⟩

/-- The solution of the uneven columns is written `0+1+3+1:3+3` and solved again at the same
scale, which both axes imply now. -/
theorem unevenColumns_solve_parse_render :
    Ratio.unevenColumns.KnownNonneg ∧ (Box.plane 10 12).Positive ∧
      (∀ length ∈ (Box.plane 10 12).lengths, length ≤ largestNumeral) ∧
      Ratio.unevenColumns.solve (Box.plane 10 12) = .ok unevenSolution ∧
      unevenSolution.solved.write = .ok unevenSolution.solved.render ∧
      ∃ again, Ratio.parse (Box.plane 10 12).dimensions unevenSolution.solved.render = .ok again ∧
        again.solve (Box.plane 10 12) = .ok unevenSolution := by
  have nonneg : Ratio.unevenColumns.KnownNonneg := by decide
  have positive : (Box.plane 10 12).Positive := by decide
  have small : ∀ length ∈ (Box.plane 10 12).lengths, length ≤ largestNumeral := by decide
  have solved : Ratio.unevenColumns.solve (Box.plane 10 12) = .ok unevenSolution := by cbv
  exact ⟨nonneg, positive, small, solved, solve_parse_render nonneg positive small solved⟩

end Ratio

end MonitorSplit
