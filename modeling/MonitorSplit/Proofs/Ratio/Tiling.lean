/-
Module: MonitorSplit.Proofs.Ratio.Tiling
Purpose: The cells of a solution, measured in pixels, tile the box.
Main exports:
  Cell.Holds, Cell.Within, Box.Holds, Solution.pixelCells, Ratio.pixelCells_tile_box
-/
import MonitorSplit.Proofs.Ratio.Solution
import MonitorSplit.Ratio.Cell

namespace MonitorSplit

/-!
### Points and cells

A point has one coordinate for each axis.  Cells are half open, so a cell of no width or
height holds no point.
-/

/-- The relation holds on every axis of three lists with one number for each. -/
def OnEachAxis (relation : Int → Int → Int → Prop) : List Int → List Int → List Int → Prop
  | [], [], [] => True
  | position :: positions, size :: sizes, other :: others =>
      relation position size other ∧ OnEachAxis relation positions sizes others
  | _, _, _ => False

instance (relation : Int → Int → Int → Prop)
    [∀ position size other, Decidable (relation position size other)] :
    ∀ positions sizes others, Decidable (OnEachAxis relation positions sizes others)
  | [], [], [] => inferInstanceAs (Decidable True)
  | position :: positions, size :: sizes, other :: others =>
      have := instDecidableOnEachAxis relation positions sizes others
      inferInstanceAs (Decidable (relation position size other ∧ _))
  | [], [], _ :: _ | [], _ :: _, _ | _ :: _, [], _ | _ :: _, _ :: _, [] =>
      inferInstanceAs (Decidable False)

/-- The coordinate lies in the span from the position on. -/
def InSpan (position size coordinate : Int) : Prop :=
  position ≤ coordinate ∧ coordinate < position + size

instance (position size coordinate : Int) : Decidable (InSpan position size coordinate) :=
  inferInstanceAs (Decidable (_ ∧ _))

/-- The point lies in the cell. -/
def Cell.Holds (cell : Cell) (point : List Int) : Prop :=
  OnEachAxis InSpan cell.position cell.size point

instance (cell : Cell) (point : List Int) : Decidable (cell.Holds point) :=
  inferInstanceAs (Decidable (OnEachAxis InSpan _ _ _))

/-- The cell lies within a box of these lengths. -/
def Cell.Within (cell : Cell) (lengths : List Int) : Prop :=
  OnEachAxis (fun position size length => 0 ≤ position ∧ position + size ≤ length)
    cell.position cell.size lengths

/-- The point lies in the box. -/
def Box.Holds (box : Box) (point : List Int) : Prop :=
  List.Forall₂ (fun coordinate length => 0 ≤ coordinate ∧ coordinate < length)
    point box.lengths

/-- The cells of a solution in pixels. -/
def Solution.pixelCells (solution : Solution) : List Cell :=
  solution.solved.cells.map (·.scaled solution.scale)

/-!
### One axis

The spans of a sum follow one another from its start to its end.
-/

section

variable {scale : Int} {addends : List Int}

theorem mem_offsetsFrom (nonneg : ∀ addend ∈ addends, 0 ≤ addend) {start : Int}
    {span : Int × Int} (member : span ∈ SolvedSum.offsetsFrom start addends) :
    start ≤ span.2 ∧ span.2 + span.1 ≤ start + addUp addends := by
  induction addends generalizing start with
  | nil => simp [SolvedSum.offsetsFrom] at member
  | cons addend rest inductionHypothesis =>
      obtain ⟨head, tail⟩ := List.forall_mem_cons.mp nonneg
      have rest_nonneg := addUp_nonneg tail
      rw [addUp_cons]
      rcases List.mem_cons.mp member with rfl | later
      · constructor <;> dsimp only <;> omega
      · have bounds := inductionHypothesis tail later
        omega

/-- A coordinate in a span cut in two lies in one of the two parts. -/
theorem ite_inSpan_add {first rest : Int} (first_nonneg : 0 ≤ first) (rest_nonneg : 0 ≤ rest)
    (position coordinate : Int) :
    (if InSpan position (first + rest) coordinate then 1 else 0) =
      (if InSpan (position + first) rest coordinate then 1 else 0) +
        (if InSpan position first coordinate then 1 else 0) := by
  split_ifs <;> simp only [InSpan] at * <;> omega

/-- A coordinate between the start and the end of a sum lies in one span of it, and any
other in none. -/
theorem countP_offsetsFrom (scale_nonneg : 0 ≤ scale) (nonneg : ∀ addend ∈ addends, 0 ≤ addend)
    (start coordinate : Int) :
    (SolvedSum.offsetsFrom start addends).countP
        (fun span => InSpan (span.2 * scale) (span.1 * scale) coordinate) =
      if InSpan (start * scale) (addUp addends * scale) coordinate then 1 else 0 := by
  induction addends generalizing start with
  | nil => simp [SolvedSum.offsetsFrom, InSpan]
  | cons addend rest inductionHypothesis =>
      obtain ⟨head, tail⟩ := List.forall_mem_cons.mp nonneg
      have head_nonneg : 0 ≤ addend * scale := mul_nonneg head scale_nonneg
      have rest_nonneg : 0 ≤ addUp rest * scale := mul_nonneg (addUp_nonneg tail) scale_nonneg
      rw [SolvedSum.offsetsFrom, List.countP_cons, inductionHypothesis tail, addUp_cons, add_mul,
        add_mul, ite_inSpan_add head_nonneg rest_nonneg]
      simp only [decide_eq_true_eq]

end

/-!
### All axes

A choice of one span on each axis gives a cell, and the choices on different axes are
independent.  So the number of cells that hold a point is the product of the numbers of
spans that hold its coordinates.
-/

theorem mem_extendEach {α : Type} {options : List α} {lists : List (List α)} {list : List α} :
    list ∈ extendEach options lists ↔
      ∃ chosen ∈ options, ∃ rest ∈ lists, chosen :: rest = list := by
  simp [extendEach]

theorem countP_extendEach {α : Type} (head : α → Bool) (tail both : List α → Bool)
    (split : ∀ chosen list, both (chosen :: list) = (head chosen && tail list))
    (options : List α) (lists : List (List α)) :
    (extendEach options lists).countP both = options.countP head * lists.countP tail := by
  unfold extendEach
  induction options with
  | nil => simp
  | cons option rest inductionHypothesis =>
      rw [List.flatMap_cons, List.countP_append, inductionHypothesis, List.countP_map,
        List.countP_cons]
      cases chosen : head option <;>
        simp [Function.comp_def, split, chosen, add_mul, Nat.add_comm]

/-- The sum has no negative addend and takes the length at the scale. -/
structure Spans (scale : Int) (sum : SolvedSum) (length : Int) : Prop where
  nonneg : ∀ addend ∈ sum.addends, 0 ≤ addend
  total : sum.total * scale = length

section

variable {scale : Int} {sums : List SolvedSum} {lengths : List Int}

/-- One choice of spans holds a point that lies within all lengths. -/
theorem countP_choices (scale_nonneg : 0 ≤ scale) (spans : List.Forall₂ (Spans scale) sums lengths)
    {point : List Int}
    (inside : List.Forall₂ (fun coordinate length => 0 ≤ coordinate ∧ coordinate < length)
      point lengths) :
    (choices (sums.map SolvedSum.withOffsets)).countP
      (fun choice => ((Cell.ofChoice choice).scaled scale).Holds point) = 1 := by
  induction spans generalizing point with
  | nil =>
      cases inside
      simp [choices, Cell.ofChoice, Cell.scaled, Cell.Holds, OnEachAxis]
  | @cons sum length _ _ span _ inductionHypothesis =>
      cases inside with
      | @cons coordinate _ point _ within inside =>
          have axis : sum.withOffsets.countP
              (fun span => InSpan (span.2 * scale) (span.1 * scale) coordinate) = 1 := by
            rw [SolvedSum.withOffsets, countP_offsetsFrom scale_nonneg span.nonneg, if_pos]
            have total : addUp sum.addends * scale = length := span.total
            unfold InSpan
            omega
          rw [List.map_cons, choices_cons, countP_extendEach
            (fun span => InSpan (span.2 * scale) (span.1 * scale) coordinate)
            (fun choice => ((Cell.ofChoice choice).scaled scale).Holds point) _
            (fun _ _ => Bool.decide_and _ _), axis, inductionHypothesis inside]

/-- Every choice of spans lies within all lengths. -/
theorem within_of_mem_choices (scale_nonneg : 0 ≤ scale)
    (spans : List.Forall₂ (Spans scale) sums lengths) {choice : List (Int × Int)}
    (member : choice ∈ choices (sums.map SolvedSum.withOffsets)) :
    ((Cell.ofChoice choice).scaled scale).Within lengths := by
  induction spans generalizing choice with
  | nil =>
      have empty : choice = [] := by simpa [choices] using member
      subst empty
      exact True.intro
  | @cons sum length _ _ span _ inductionHypothesis =>
      rw [List.map_cons, choices_cons] at member
      obtain ⟨chosen, axis, rest, others, rfl⟩ := mem_extendEach.mp member
      obtain ⟨lower, upper⟩ := mem_offsetsFrom span.nonneg axis
      refine ⟨⟨mul_nonneg lower scale_nonneg, ?_⟩, inductionHypothesis others⟩
      calc chosen.2 * scale + chosen.1 * scale
          = (chosen.2 + chosen.1) * scale := (add_mul _ _ _).symm
        _ ≤ (0 + addUp sum.addends) * scale := mul_le_mul_of_nonneg_right upper scale_nonneg
        _ = sum.total * scale := by rw [zero_add, SolvedSum.total]
        _ = length := span.total

end

/-!
### The cells of a solution
-/

/-- A filled axis has no negative addend. -/
theorem Fills.spans {base scale : Int} {axis : AxisSum × Int} {sum : SolvedSum}
    (fills : Fills base scale axis sum) (base_pos : 0 < base) (scale_pos : 0 < scale)
    (nonneg : axis.1.KnownNonneg) : Spans scale sum axis.2 := by
  refine ⟨?_, fills.total⟩
  intro units member
  obtain ⟨index, bound, found⟩ := List.mem_iff_getElem.mp member
  have given_bound : index < axis.1.addends.length := by
    have same : sum.addends.length = axis.1.addends.length := fills.size
    omega
  have units_eq : sum.addends[index]? = some units := by rw [List.getElem?_eq_getElem bound, found]
  cases given : axis.1.addends[index] with
  | none =>
      obtain ⟨share, share_nonneg, shares⟩ := fills.share
      have same := shares index (by rw [List.getElem?_eq_getElem given_bound, given])
      cases units_eq.symm.trans same
      exact share_nonneg
  | some known =>
      obtain ⟨units', same, scaled⟩ :=
        fills.known index known (by rw [List.getElem?_eq_getElem given_bound, given])
      cases units_eq.symm.trans same
      have known_nonneg : 0 ≤ known :=
        nonneg _ (List.getElem_mem given_bound) known (Option.mem_def.mpr given)
      have product_nonneg : 0 ≤ units * scale := scaled ▸ mul_nonneg known_nonneg base_pos.le
      exact nonneg_of_mul_nonneg_left product_nonneg scale_pos

section

variable {ratio : Ratio} {box : Box} {solution : Solution}

/-- The scale is positive and the solved sums span the lengths of the box. -/
theorem Ratio.spans_of_solve (nonneg : ratio.KnownNonneg) (positive : box.Positive)
    (solved : ratio.solve box = .ok solution) :
    0 < solution.scale ∧
      List.Forall₂ (Spans solution.scale) solution.solved.sums box.lengths := by
  obtain ⟨base, isBase, greatest, fills⟩ := forall₂_fills_of_solve nonneg positive solved
  have base_pos := isBase.pos nonneg positive
  have scale_pos := greatest.pos List.mem_cons_self base_pos
  have same : box.lengths.length ≤ ratio.sums.length := (dimensions_of_solve solved).le
  have spans : List.Forall₂ (fun axis sum => Spans solution.scale sum axis.2)
      (ratio.axes box) solution.solved.sums := by
    refine forall₂_imp_of_mem fills fun axis axisMember sum _ filled => ?_
    exact filled.spans base_pos scale_pos (nonneg.axis axisMember)
  have lengths : (ratio.axes box).map Prod.snd = box.lengths := List.map_snd_zip same
  refine ⟨scale_pos, ?_⟩
  rw [← lengths, List.forall₂_map_right_iff]
  exact spans.flip

/-- The cells tile the box: every point of the box lies in one cell, and every cell lies
within the box. -/
theorem Ratio.pixelCells_tile_box (nonneg : ratio.KnownNonneg) (positive : box.Positive)
    (solved : ratio.solve box = .ok solution) :
    (∀ point, box.Holds point →
        solution.pixelCells.countP (fun cell => cell.Holds point) = 1) ∧
      ∀ cell ∈ solution.pixelCells, cell.Within box.lengths := by
  obtain ⟨scale_pos, spans⟩ := spans_of_solve nonneg positive solved
  constructor
  · intro point inside
    rw [Solution.pixelCells, SolvedRatio.cells, List.countP_map, List.countP_map]
    exact countP_choices scale_pos.le spans inside
  · intro cell member
    simp only [Solution.pixelCells, SolvedRatio.cells, List.map_map, List.mem_map] at member
    obtain ⟨choice, chosen, rfl⟩ := member
    exact within_of_mem_choices scale_pos.le spans chosen

end

theorem Ratio.unevenColumns_tile :
    Ratio.unevenColumns.KnownNonneg ∧ (Box.plane 10 12).Positive ∧
      Ratio.unevenColumns.solve (Box.plane 10 12) = .ok unevenSolution ∧
      (∀ point, (Box.plane 10 12).Holds point →
        unevenSolution.pixelCells.countP (fun cell => cell.Holds point) = 1) ∧
      ∀ cell ∈ unevenSolution.pixelCells, cell.Within (Box.plane 10 12).lengths := by
  have nonneg : Ratio.unevenColumns.KnownNonneg := by decide
  have positive : (Box.plane 10 12).Positive := by decide
  have solved : Ratio.unevenColumns.solve (Box.plane 10 12) = .ok unevenSolution := by cbv
  exact ⟨nonneg, positive, solved, pixelCells_tile_box nonneg positive solved⟩

end MonitorSplit
