/-
Module: MonitorSplit.Proofs.Monitor.Plane
Purpose: The cells of a plane lie within it and reach all of its ends.
Main exports:
  Cell.InPlane, Ratio.inPlane_of_mem_pixelCells, Ratio.exists_pixelCell_holds
-/
import MonitorSplit.Proofs.Monitor.Split

namespace MonitorSplit

/-!
### Cells of a plane
-/

/-- The cell is a rectangle within a plane of this width and height. -/
structure Cell.InPlane (cell : Cell) (width height : Int) : Prop where
  left : 0 ≤ (planePair cell.position).1
  top : 0 ≤ (planePair cell.position).2
  widthNonneg : 0 ≤ (planePair cell.size).1
  heightNonneg : 0 ≤ (planePair cell.size).2
  right : (planePair cell.position).1 + (planePair cell.size).1 ≤ width
  bottom : (planePair cell.position).2 + (planePair cell.size).2 ≤ height

/-- A relation on each of two axes is one on both numbers of a pair. -/
theorem OnEachAxis.pair {relation : Int → Int → Int → Prop} {positions sizes : List Int}
    {first second : Int} (both : OnEachAxis relation positions sizes [first, second]) :
    relation (planePair positions).1 (planePair sizes).1 first ∧
      relation (planePair positions).2 (planePair sizes).2 second := by
  rcases positions with _ | ⟨x, _ | ⟨y, _ | _⟩⟩ <;>
    rcases sizes with _ | ⟨width, _ | ⟨height, _ | _⟩⟩ <;>
      simp_all [OnEachAxis, planePair]

/-- A choice has one member of each list. -/
theorem forall₂_of_mem_choices {α : Type} {lists : List (List α)} {choice : List α}
    (member : choice ∈ choices lists) :
    List.Forall₂ (fun chosen options => chosen ∈ options) choice lists := by
  induction lists generalizing choice with
  | nil =>
      rcases List.mem_singleton.mp member with rfl
      exact .nil
  | cons options rest inductionHypothesis =>
      rw [choices_cons] at member
      rcases mem_extendEach.mp member with ⟨option, optional, others, later, rfl⟩
      exact .cons optional (inductionHypothesis later)

/-- Every member of the lists is in some choice, as long as each list has one to choose. -/
theorem exists_mem_choices {α : Type} {lists : List (List α)}
    (nonempty : ∀ options ∈ lists, options ≠ []) {options : List α} (listed : options ∈ lists)
    {chosen : α} (inside : chosen ∈ options) : ∃ choice ∈ choices lists, chosen ∈ choice := by
  induction lists with
  | nil => cases listed
  | cons first rest inductionHypothesis =>
      rcases List.forall_mem_cons.mp nonempty with ⟨first_nonempty, rest_nonempty⟩
      rcases List.mem_cons.mp listed with rfl | later
      · rcases List.exists_mem_of_ne_nil _ (choices_ne_nil rest_nonempty) with ⟨others, present⟩
        have extended : chosen :: others ∈ extendEach options (choices rest) :=
          mem_extendEach.mpr ⟨chosen, inside, others, present, rfl⟩
        exact ⟨chosen :: others, choices_cons options rest ▸ extended, List.mem_cons_self⟩
      · rcases inductionHypothesis rest_nonempty later with ⟨others, present, member⟩
        rcases List.exists_mem_of_ne_nil _ first_nonempty with ⟨option, optional⟩
        have extended : option :: others ∈ extendEach first (choices rest) :=
          mem_extendEach.mpr ⟨option, optional, others, present, rfl⟩
        exact ⟨option :: others, choices_cons first rest ▸ extended, List.mem_cons_of_mem _ member⟩

section

variable {ratio : Ratio} {box : Box} {solution : Solution}

/-- A cell in pixels is a choice of spans, scaled. -/
theorem Solution.mem_pixelCells {cell : Cell} :
    cell ∈ solution.pixelCells ↔
      ∃ choice ∈ choices (solution.solved.sums.map SolvedSum.withOffsets),
        (Cell.ofChoice choice).scaled solution.scale = cell := by
  simp [Solution.pixelCells, SolvedRatio.cells]

/-- Addends that are not negative make sizes that are not. -/
theorem SolvedRatio.Nonneg.size_nonneg (nonneg : solution.solved.Nonneg)
    (scale_nonneg : 0 ≤ solution.scale) {cell : Cell} (member : cell ∈ solution.pixelCells) :
    ∀ size ∈ cell.size, 0 ≤ size := by
  obtain ⟨choice, chosen, rfl⟩ := Solution.mem_pixelCells.mp member
  intro size inside
  obtain ⟨span, present, rfl⟩ :
      ∃ span ∈ choice, span.1 * solution.scale = size := by
    simpa [Cell.scaled, Cell.ofChoice] using inside
  obtain ⟨_, listed, offset⟩ := exists_of_mem_left (forall₂_of_mem_choices chosen) present
  obtain ⟨sum, solved, rfl⟩ := List.mem_map.mp listed
  have addend : span.1 ∈ sum.addends := by
    rw [← SolvedSum.map_fst_offsetsFrom 0 sum.addends]
    exact List.mem_map_of_mem offset
  exact mul_nonneg (nonneg sum solved span.1 addend) scale_nonneg

/-- Sizes that are not negative come of addends that are not. -/
theorem SolvedRatio.nonneg_of_size_nonneg (solved : ratio.solve box = .ok solution)
    (sizes : ∀ cell ∈ solution.pixelCells, ∀ size ∈ cell.size, 0 ≤ size) :
    solution.solved.Nonneg := by
  rcases Ratio.totals_of_solve solved with ⟨scale_pos, -⟩
  intro sum listed addend member
  have first : addend ∈ sum.withOffsets.map Prod.fst := by
    rw [SolvedSum.withOffsets, SolvedSum.map_fst_offsetsFrom]
    exact member
  rcases List.mem_map.mp first with ⟨span, offset, rfl⟩
  rcases exists_mem_choices (Ratio.withOffsets_ne_nil_of_solve solved) (List.mem_map_of_mem listed)
    offset with ⟨choice, chosen, present⟩
  have cell := Solution.mem_pixelCells.mpr ⟨choice, chosen, rfl⟩
  have scaled : span.1 * solution.scale ∈ ((Cell.ofChoice choice).scaled solution.scale).size :=
    List.mem_map_of_mem (List.mem_map_of_mem present)
  exact nonneg_of_mul_nonneg_left (sizes _ cell _ scaled) scale_pos

/-- A cell of a plane is a choice of one span on each of two axes. -/
theorem Ratio.exists_spans_of_mem_pixelCells (solved : ratio.solve box = .ok solution)
    (plane : box.dimensions = 2) {cell : Cell} (member : cell ∈ solution.pixelCells) :
    ∃ column row, (Cell.ofChoice [column, row]).scaled solution.scale = cell := by
  rcases totals_of_solve solved with ⟨-, totals⟩
  rcases Solution.mem_pixelCells.mp member with ⟨choice, chosen, rfl⟩
  have axes : choice.length = 2 := by
    rw [(forall₂_of_mem_choices chosen).length_eq, List.length_map, totals.length_eq]
    exact plane
  rcases List.length_eq_two.mp axes with ⟨column, row, rfl⟩
  exact ⟨column, row, rfl⟩

/-- The cells of a plane have a width and a height. -/
theorem Ratio.size_of_mem_pixelCells (solved : ratio.solve box = .ok solution)
    (plane : box.dimensions = 2) {cell : Cell} (member : cell ∈ solution.pixelCells) :
    cell.size = [(planePair cell.size).1, (planePair cell.size).2] := by
  rcases exists_spans_of_mem_pixelCells solved plane member with ⟨column, row, rfl⟩
  rfl

/-- They have two coordinates. -/
theorem Ratio.position_of_mem_pixelCells (solved : ratio.solve box = .ok solution)
    (plane : box.dimensions = 2) {cell : Cell} (member : cell ∈ solution.pixelCells) :
    cell.position = [(planePair cell.position).1, (planePair cell.position).2] := by
  rcases exists_spans_of_mem_pixelCells solved plane member with ⟨column, row, rfl⟩
  rfl

theorem Ratio.inPlane_of_mem_pixelCells (solved : ratio.solve box = .ok solution)
    (nonneg : solution.solved.Nonneg) {width height : Int} (plane : box.lengths = [width, height])
    {cell : Cell} (member : cell ∈ solution.pixelCells) : cell.InPlane width height := by
  obtain ⟨scale_pos, -⟩ := totals_of_solve solved
  have spans := spans_of_nonneg solved nonneg
  rw [plane] at spans
  have sizes := nonneg.size_nonneg scale_pos.le member
  obtain ⟨choice, chosen, rfl⟩ := Solution.mem_pixelCells.mp member
  have within := within_of_mem_choices scale_pos.le spans chosen
  generalize (Cell.ofChoice choice).scaled solution.scale = cell at within sizes ⊢
  obtain ⟨⟨left, right⟩, top, bottom⟩ := within.pair
  have pair : 0 ≤ (planePair cell.size).1 ∧ 0 ≤ (planePair cell.size).2 := by
    unfold planePair
    split <;> simp_all
  exact { left, top, widthNonneg := pair.1, heightNonneg := pair.2, right, bottom }

/-- Every point of the plane lies in some cell. -/
theorem Ratio.exists_pixelCell_holds (solved : ratio.solve box = .ok solution)
    (nonneg : solution.solved.Nonneg) {width height : Int} (plane : box.lengths = [width, height])
    {x y : Int}
    (horizontal : 0 ≤ x ∧ x < width) (vertical : 0 ≤ y ∧ y < height) :
    ∃ cell ∈ solution.pixelCells,
      InSpan (planePair cell.position).1 (planePair cell.size).1 x ∧
        InSpan (planePair cell.position).2 (planePair cell.size).2 y := by
  obtain ⟨scale_pos, -⟩ := totals_of_solve solved
  have spans := spans_of_nonneg solved nonneg
  have inside : List.Forall₂ (fun coordinate length => 0 ≤ coordinate ∧ coordinate < length)
      [x, y] box.lengths := by
    rw [plane]
    exact .cons horizontal (.cons vertical .nil)
  have counted := countP_choices scale_pos.le spans inside
  obtain ⟨choice, chosen, holds⟩ := List.countP_pos_iff.mp (counted.symm ▸ Nat.one_pos)
  have cell := Solution.mem_pixelCells.mpr ⟨choice, chosen, rfl⟩
  exact ⟨_, cell, OnEachAxis.pair (of_decide_eq_true holds)⟩

end

end MonitorSplit
