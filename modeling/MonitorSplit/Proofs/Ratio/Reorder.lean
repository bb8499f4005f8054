/-
Module: MonitorSplit.Proofs.Ratio.Reorder
Purpose: Ratios and boxes with their axes in another order.
Main exports:
  AxisOrder, AxisOrder.apply, AxisOrder.apply_perm, Reordered, Ratio.solve_reorder
-/
import MonitorSplit.Proofs.Ratio.Totals

namespace MonitorSplit

/-!
### Orders

An order names every axis once.  What belongs to the axes is put into the order by looking up each
axis that it names.
-/

/-- An order of some axes: the number of each, once. -/
structure AxisOrder where
  indices : List Nat
  nonempty : indices ≠ [] := by simp
  complete : indices.Perm (List.range indices.length) := by decide

namespace AxisOrder

/-- How many axes the order is of. -/
def axes (order : AxisOrder) : Nat := order.indices.length

variable {α β : Type}

/-- The members of a list, one for each axis, in the order. -/
def apply (order : AxisOrder) (members : List α) : List α := order.indices.filterMap (members[·]?)

theorem filterMap_getElem?_range (members : List α) :
    (List.range members.length).filterMap (members[·]?) = members := by
  induction members with
  | nil => rfl
  | cons head tail inductionHypothesis =>
      rw [List.length_cons, List.range_succ_eq_map, List.filterMap_cons, List.filterMap_map]
      simpa [Function.comp_def] using inductionHypothesis

section

variable {order : AxisOrder} {members : List α} {results : List β}

/-- Nothing is lost in the order, and nothing comes twice. -/
theorem apply_perm (size : members.length = order.axes) : (order.apply members).Perm members := by
  have reordered := order.complete.filterMap (members[·]?)
  rwa [show order.indices.length = members.length from size.symm, filterMap_getElem?_range] at reordered

theorem apply_ne_nil (nonempty : members ≠ []) : order.apply members ≠ [] := by
  obtain ⟨head, tail, rfl⟩ := List.exists_cons_of_ne_nil nonempty
  have first : 0 ∈ order.indices := by
    rw [order.complete.mem_iff, List.mem_range, List.length_pos_iff]
    exact order.nonempty
  exact List.ne_nil_of_mem (List.mem_filterMap.mpr ⟨0, first, rfl⟩)

/-- What goes together goes together in the order. -/
theorem forall₂_apply (order : AxisOrder) {relation : α → β → Prop}
    (related : List.Forall₂ relation members results) :
    List.Forall₂ relation (order.apply members) (order.apply results) := by
  unfold apply
  induction order.indices with
  | nil => exact .nil
  | cons index rest inductionHypothesis =>
      rw [List.filterMap_cons, List.filterMap_cons]
      by_cases inside : index < members.length
      · have within : index < results.length := related.length_eq ▸ inside
        rw [List.getElem?_eq_getElem inside, List.getElem?_eq_getElem within]
        exact .cons (related.get inside within) inductionHypothesis
      · have beyond : ¬ index < results.length := related.length_eq ▸ inside
        rw [List.getElem?_eq_none (not_lt.mp inside), List.getElem?_eq_none (not_lt.mp beyond)]
        exact inductionHypothesis

/-- Pairs are put into the order by putting both sides into it. -/
theorem zip_apply (same : members.length = results.length) :
    (order.apply members).zip (order.apply results) = order.apply (members.zip results) := by
  unfold apply
  induction order.indices with
  | nil => rfl
  | cons index rest inductionHypothesis =>
      simp only [List.filterMap_cons]
      by_cases inside : index < members.length
      · have within : index < results.length := same ▸ inside
        simp [inside, within, inductionHypothesis]
      · have beyond : ¬ index < results.length := same ▸ inside
        simp [inside, beyond, inductionHypothesis]

end

end AxisOrder

/-- The ratio with its sums in the order. -/
def Ratio.reorder (ratio : Ratio) (order : AxisOrder) : Ratio where
  sums := order.apply ratio.sums
  nonempty := AxisOrder.apply_ne_nil ratio.nonempty

/-- The box with its lengths in the order. -/
def Box.reorder (box : Box) (order : AxisOrder) : Box where
  lengths := order.apply box.lengths
  nonempty := AxisOrder.apply_ne_nil box.nonempty

/-- The solution with its solved sums in the order. -/
def Solution.reorder (solution : Solution) (order : AxisOrder) : Solution where
  solved := { sums := order.apply solution.solved.sums }
  scale := solution.scale

/-!
### Inference

Whether some axis implies no scale, which scales are implied and what they and the lengths have in
common is a matter of the axes that there are, whatever their order.
-/

theorem quotients_perm {axes others : List (AxisSum × Int)} (perm : axes.Perm others) :
    (quotients axes).Perm (quotients others) :=
  (perm.filter _).map _

theorem distinctAscending_perm {values others : List Int} (perm : values.Perm others) :
    distinctAscending values = distinctAscending others :=
  eq_distinctAscending_iff.mpr ⟨pairwise_distinctAscending values,
    fun _ => mem_distinctAscending.trans perm.mem_iff⟩

theorem commonScale_perm (base : Int) {lengths others : List Int} (perm : lengths.Perm others) :
    commonScale base lengths = commonScale base others := by
  refine perm.foldl_eq' (fun first _ second _ scale => ?_) base
  rw [Int.gcd_assoc, Int.gcd_comm first, ← Int.gcd_assoc]

namespace Ratio

section

variable {ratio : Ratio} {box : Box} {order : AxisOrder}
  (ratioAxes : ratio.dimensions = order.axes) (boxAxes : box.dimensions = order.axes)

theorem dimensions_reorder (ratioAxes : ratio.dimensions = order.axes) :
    (ratio.reorder order).dimensions = ratio.dimensions :=
  (AxisOrder.apply_perm ratioAxes).length_eq

theorem dimensions_reorder_box (boxAxes : box.dimensions = order.axes) :
    (box.reorder order).dimensions = box.dimensions :=
  (AxisOrder.apply_perm boxAxes).length_eq

include ratioAxes boxAxes

theorem axes_reorder : (ratio.reorder order).axes (box.reorder order) = order.apply (ratio.axes box) :=
  AxisOrder.zip_apply (ratioAxes.trans boxAxes.symm)

theorem axes_reorder_perm : ((ratio.reorder order).axes (box.reorder order)).Perm (ratio.axes box) := by
  rw [axes_reorder ratioAxes boxAxes]
  refine AxisOrder.apply_perm ?_
  rw [axes, List.length_zip, show ratio.sums.length = order.axes from ratioAxes,
    show box.lengths.length = order.axes from boxAxes, min_self]

end

end Ratio

/-!
### Outcomes

The first failing axis depends on the order, the stage at which solving fails does not: every axis
passes one stage before any reaches the next.
-/

/-- What solving a ratio on a box comes to, and with the axes of both in another order.  The solved
sums follow the order, and the scale and scales that differ stay.  Where an axis fails another one
may be the first to fail, but it fails at the same stage.  It is told as far as its own numbers
allow, so the one failure may be told and the other not. -/
inductive Reordered (order : AxisOrder) :
    Except SolveFailure Solution → Except SolveFailure Solution → Prop where
  | solved (solution : Solution) : Reordered order (.ok solution) (.ok (solution.reorder order))
  | scaleInference (axis other : Nat) (cause otherCause : NotDivisible) :
      Reordered order (.error (.raise (.scaleInference axis cause)))
        (.error (.raise (.scaleInference other otherCause)))
  | unequalScales (scales : List Int) :
      Reordered order (.error (.raise (.unequalScales scales)))
        (.error (.raise (.unequalScales scales)))
  | unsolvedAxis (axis other : Nat) (cause otherCause : AxisFailure) :
      Reordered order (.error (.raise (.unsolvedAxis axis cause)))
        (.error (.raise (.unsolvedAxis other otherCause)))

namespace Ratio

section

variable {ratio : Ratio} {box : Box} {order : AxisOrder}
  (ratioAxes : ratio.dimensions = order.axes) (boxAxes : box.dimensions = order.axes)

include ratioAxes boxAxes

/-- With a base, the axes are solved in one order if they are in the other. -/
theorem reordered_of_inferBase (nonneg : ratio.KnownNonneg) (positive : box.Positive) {base : Int}
    (inferred : ratio.inferBase box = .ok base)
    (inferredReordered : (ratio.reorder order).inferBase (box.reorder order) = .ok base) :
    Reordered order (ratio.solve box) ((ratio.reorder order).solve (box.reorder order)) := by
  have same : box.dimensions = ratio.dimensions := boxAxes.trans ratioAxes.symm
  have sameReordered : (box.reorder order).dimensions = (ratio.reorder order).dimensions := by
    rw [dimensions_reorder_box boxAxes, dimensions_reorder ratioAxes, same]
  have base_pos : 0 < base := (isBase_of_inferBase inferred).pos nonneg positive
  have scale_ne : commonScale base box.lengths ≠ 0 :=
    ((isGreatestDivisor_commonScale base_pos.le).pos List.mem_cons_self base_pos).ne'
  have common : commonScale base (box.reorder order).lengths = commonScale base box.lengths :=
    commonScale_perm base (AxisOrder.apply_perm boxAxes)
  rw [solve_of_inferBase_eq_ok same inferred, if_neg scale_ne,
    solve_of_inferBase_eq_ok sameReordered inferredReordered, common, if_neg scale_ne]
  cases outcome : solveAxes (base / commonScale base box.lengths) (commonScale base box.lengths) 0
      (ratio.axes box) with
  | ok sums =>
      have each := AxisOrder.forall₂_apply order (solveAxes_eq_ok_iff.mp outcome)
      rw [← axes_reorder ratioAxes boxAxes] at each
      rw [solveAxes_eq_ok_iff.mpr each]
      exact .solved _
  | error failure =>
      obtain ⟨index, axis, first, raised, failed, rfl⟩ := solveAxes_eq_error_iff.mp outcome
      obtain ⟨cause, rfl⟩ := AxisSum.exists_raise_of_solve failed
      have unsolved := (axes_reorder_perm ratioAxes boxAxes).mem_iff.mpr first.mem
      obtain ⟨other, otherCause, otherFailed⟩ :=
        (exists_unsolvedAxis_iff 0).mpr ⟨axis, unsolved, first.holds⟩
      rw [otherFailed, AxisFailure.map_unsolvedAxis]
      exact .unsolvedAxis _ _ _ _

/-- The order of the axes does not matter.  With the axes of ratio and box in another order, solving
succeeds just if it did, with the same scale and the solved sums in that order, and otherwise it
fails at the same stage, though what it raises there need not be told in both. -/
theorem solve_reorder (nonneg : ratio.KnownNonneg) (positive : box.Positive) :
    Reordered order (ratio.solve box) ((ratio.reorder order).solve (box.reorder order)) := by
  have same : box.dimensions = ratio.dimensions := boxAxes.trans ratioAxes.symm
  have sameReordered : (box.reorder order).dimensions = (ratio.reorder order).dimensions := by
    rw [dimensions_reorder_box boxAxes, dimensions_reorder ratioAxes, same]
  have perm := axes_reorder_perm ratioAxes boxAxes
  by_cases unfit : ∃ axis ∈ ratio.axes box, ImpliesNoScale axis
  · have unfitReordered :
        ∃ axis ∈ (ratio.reorder order).axes (box.reorder order), ImpliesNoScale axis := by
      simpa only [perm.mem_iff] using unfit
    obtain ⟨axis, cause, failed⟩ := exists_scaleInference same unfit
    obtain ⟨other, otherCause, failedReordered⟩ := exists_scaleInference sameReordered unfitReordered
    rw [failed, failedReordered]
    exact .scaleInference _ _ _ _
  · have fit : ∀ axis ∈ ratio.axes box, ¬ ImpliesNoScale axis :=
      fun axis member impliesNone => unfit ⟨axis, member, impliesNone⟩
    have base := inferBase_of_fit fit
    have baseReordered : (ratio.reorder order).inferBase (box.reorder order) = _ :=
      inferBase_of_fit fun axis member => fit axis (perm.mem_iff.mp member)
    rw [distinctAscending_perm (quotients_perm perm), ← base] at baseReordered
    cases inferred : ratio.inferBase box with
    | error failure =>
        rw [inferred] at base baseReordered
        obtain ⟨-, rfl⟩ := baseScale_eq_error_iff.mp base.symm
        rw [solve_of_inferBase_eq_error same inferred,
          solve_of_inferBase_eq_error sameReordered baseReordered]
        exact .unequalScales _
    | ok scale =>
        rw [inferred] at baseReordered
        exact reordered_of_inferBase ratioAxes boxAxes nonneg positive inferred baseReordered

end

/-- Two columns where one is left to solve, two rows and one layer. -/
def layered : Ratio where
  sums := [.of (some 1) [none], .of (some 1) [some 1], .of (some 1) []]

/-- The axes of a box of three dimensions, the last one first. -/
def lastFirst : AxisOrder where
  indices := [2, 0, 1]

/-- The layer implies the same scale from the first place as from the last. -/
theorem layered_reordered :
    layered.dimensions = lastFirst.axes ∧
      Box.dimensions { lengths := [9, 6, 3] } = lastFirst.axes ∧ layered.KnownNonneg ∧
      Box.Positive { lengths := [9, 6, 3] } ∧
      layered.solve { lengths := [9, 6, 3] } =
        .ok { solved := { sums := [{ addends := [1, 2] }, { addends := [1, 1] },
          { addends := [1] }] }, scale := 3 } ∧
      Reordered lastFirst (layered.solve { lengths := [9, 6, 3] })
        ((layered.reorder lastFirst).solve (.reorder { lengths := [9, 6, 3] } lastFirst)) := by
  have ratioAxes : layered.dimensions = lastFirst.axes := by decide
  have boxAxes : Box.dimensions { lengths := [9, 6, 3] } = lastFirst.axes := by decide
  have nonneg : layered.KnownNonneg := by decide
  have positive : Box.Positive { lengths := [9, 6, 3] } := by decide
  exact ⟨ratioAxes, boxAxes, nonneg, positive, by cbv,
    solve_reorder ratioAxes boxAxes nonneg positive⟩

/-- Rows of three units before two columns, each as wide as can be written. -/
def threeBeforeWide : Ratio where
  sums := [.of (some 3) [], .of (some longest) [some longest]]

/-- Two axes, the second one first. -/
def secondFirst : AxisOrder where
  indices := [1, 0]

/-- Neither axis fits a single pixel.  That the rows do not is told, but not that the columns do
not. -/
theorem threeBeforeWide_not_told :
    ¬ ∀ (ratio : Ratio) (box : Box) (order : AxisOrder), ratio.dimensions = order.axes →
      box.dimensions = order.axes → ratio.KnownNonneg → box.Positive →
      (∃ axis cause, ratio.solve box = .error (.unfit (.scaleInference axis cause))) →
      ∃ other cause, (ratio.reorder order).solve (box.reorder order) =
        .error (.unfit (.scaleInference other cause)) := by
  intro told
  have wide := longest_pos
  have nonneg : threeBeforeWide.KnownNonneg := by
    simp [threeBeforeWide, AxisSum.of, KnownNonneg, AxisSum.KnownNonneg, wide.le]
  have total : (AxisSum.of (some longest) [some longest]).knownTotal = longest + longest := by
    simp [AxisSum.of, AxisSum.knownTotal, AxisSum.knowns]
  have rows : ImpliesNoScale (AxisSum.of (some 3) [], 1) := ⟨rfl, .inr (by decide)⟩
  have columns : ImpliesNoScale (AxisSum.of (some longest) [some longest], 1) := by
    refine ⟨rfl, .inr fun divides => ?_⟩
    have small : (AxisSum.of (some longest) [some longest]).knownTotal ≤ 1 :=
      Int.le_of_dvd one_pos divides
    omega
  have first : IsFirst ImpliesNoScale (threeBeforeWide.axes (.plane 1 1)) 0 (.of (some 3) [], 1) :=
    (isFirst_head rows).mpr ⟨rfl, rfl⟩
  have firstReordered : IsFirst ImpliesNoScale
      ((threeBeforeWide.reorder secondFirst).axes (.reorder (.plane 1 1) secondFirst)) 0
      (.of (some longest) [some longest], 1) :=
    (isFirst_head columns).mpr ⟨rfl, rfl⟩
  have failed : threeBeforeWide.solve (.plane 1 1) =
      .error (.raise (.scaleInference 0 { divisor := 3, dividend := 1 })) :=
    solve_of_isFirst rfl first
  have failedReordered := solve_of_isFirst rfl firstReordered
  rw [total] at failedReordered
  have short : SolveFailure.raise (.scaleInference 0 { divisor := 3, dividend := 1 }) = .unfit _ :=
    SolveFailure.raise_eq_unfit_iff.mpr ⟨by decide, rfl⟩
  obtain ⟨other, cause, toldReordered⟩ := told threeBeforeWide (.plane 1 1) secondFirst rfl rfl nonneg
    (by decide) ⟨0, _, failed.trans (congrArg Except.error short)⟩
  obtain ⟨shortReordered, -⟩ := SolveFailure.raise_eq_unfit_iff.mp
    (Except.error.inj (failedReordered.symm.trans toldReordered))
  have greater : longest < longest + longest := by omega
  exact not_writable_of_longest_lt greater (shortReordered _ List.mem_cons_self)

end Ratio

end MonitorSplit
