/-
Module: MonitorSplit.Proofs.Monitor.RowMajor
Purpose: Which cell of a grid comes at which place, and what the first place brings with it.
Main exports:
  placeValue, IsDigits, getElem?_choices, Cell.MadeOf, SolvedRatio.length_cells,
  SolvedRatio.exists_first_partition, SolvedRatio.RowMajor, SolvedRatio.cells_rowMajor
-/
import MonitorSplit.Proofs.Monitor.Split
import MonitorSplit.Proofs.Ratio.Positions

namespace MonitorSplit

/-!
### Digits of mixed radices

A number below the product of some radices has one digit below each of them.  The first digit
counts the most: as many as all later radices multiply to.
-/

/-- The number that digits stand for, each of its own radix and the first the most significant. -/
def placeValue : List Nat → List Nat → Nat
  | _ :: radices, digit :: digits => digit * radices.prod + placeValue radices digits
  | _, _ => 0

/-- The digits are below their radices and stand for the number. -/
structure IsDigits (radices : List Nat) (number : Nat) (digits : List Nat) : Prop where
  below : List.Forall₂ (· < ·) digits radices
  value : placeValue radices digits = number

theorem exists_isDigits {radices : List Nat} {number : Nat} (bound : number < radices.prod) :
    ∃ digits, IsDigits radices number digits := by
  induction radices generalizing number with
  | nil => exact ⟨[], .nil, (Nat.lt_one_iff.mp bound).symm⟩
  | cons radix radices inductionHypothesis =>
      rw [List.prod_cons] at bound
      have unit : 0 < radices.prod := Nat.pos_of_mul_pos_left (Nat.zero_lt_of_lt bound)
      obtain ⟨digits, below, value⟩ := inductionHypothesis (Nat.mod_lt number unit)
      refine ⟨number / radices.prod :: digits,
        .cons ((Nat.div_lt_iff_lt_mul unit).mpr bound) below, ?_⟩
      rw [placeValue, value, Nat.mul_comm, Nat.div_add_mod]

theorem placeValue_lt {radices digits : List Nat} (below : List.Forall₂ (· < ·) digits radices) :
    placeValue radices digits < radices.prod := by
  induction below with
  | nil => exact Nat.one_pos
  | @cons digit radix digits radices head tail inductionHypothesis =>
      calc digit * radices.prod + placeValue radices digits
          < digit * radices.prod + radices.prod := Nat.add_lt_add_left inductionHypothesis _
        _ = (digit + 1) * radices.prod := (Nat.succ_mul _ _).symm
        _ ≤ radix * radices.prod := Nat.mul_le_mul_right _ head

/-- Quotient and remainder by the later radices give the first digit and the number of the others. -/
theorem IsDigits.unique {radices : List Nat} {number : Nat} {digits others : List Nat}
    (isDigits : IsDigits radices number digits) (isOthers : IsDigits radices number others) :
    digits = others := by
  obtain ⟨below, rfl⟩ := isDigits
  obtain ⟨othersBelow, same⟩ := isOthers
  induction below generalizing others with
  | nil =>
      cases othersBelow
      rfl
  | @cons digit radix digits radices head tail inductionHypothesis =>
      cases othersBelow with
      | @cons other _ others _ otherHead otherTail =>
          have first := placeValue_lt tail
          have second := placeValue_lt otherTail
          have unit : 0 < radices.prod := Nat.zero_lt_of_lt first
          rw [placeValue, placeValue] at same
          have quotients := congrArg (· / radices.prod) same
          have remainders := congrArg (· % radices.prod) same
          simp only [Nat.mul_comm _ radices.prod, Nat.mul_add_div unit, Nat.mul_add_mod,
            Nat.div_eq_of_lt first, Nat.div_eq_of_lt second, Nat.mod_eq_of_lt first,
            Nat.mod_eq_of_lt second, Nat.add_zero] at quotients remainders
          rw [quotients, inductionHypothesis otherTail remainders]

theorem isDigits_zero {radices : List Nat} (positive : ∀ radix ∈ radices, 0 < radix) :
    IsDigits radices 0 (radices.map fun _ => 0) := by
  induction radices with
  | nil => exact ⟨.nil, rfl⟩
  | cons radix radices inductionHypothesis =>
      obtain ⟨head, tail⟩ := List.forall_mem_cons.mp positive
      obtain ⟨below, value⟩ := inductionHypothesis tail
      refine ⟨.cons head below, ?_⟩
      rw [List.map_cons, placeValue, value, Nat.zero_mul]

/-!
### Choices by number

The choices from lists stand in the order of the numbers whose digits say which member of each
list is chosen.
-/

section

variable {α : Type}

theorem getElem?_extendEach {options : List α} {lists : List (List α)} {digit place : Nat}
    {option : α} {list : List α} (chosen : options[digit]? = some option)
    (later : lists[place]? = some list) :
    (extendEach options lists)[digit * lists.length + place]? = some (option :: list) := by
  obtain ⟨bound, -⟩ := List.getElem?_eq_some_iff.mp later
  induction options generalizing digit with
  | nil => cases chosen
  | cons first others inductionHypothesis =>
      rw [extendEach, List.flatMap_cons]
      cases digit with
      | zero =>
          obtain rfl : first = option := Option.some.inj chosen
          rw [Nat.zero_mul, Nat.zero_add, List.getElem?_append_left (by simpa using bound),
            List.getElem?_map, later, Option.map_some]
      | succ digit =>
          have behind : (digit + 1) * lists.length + place - (lists.map (first :: ·)).length =
              digit * lists.length + place := by
            rw [List.length_map, Nat.add_mul]
            omega
          have past : (lists.map (first :: ·)).length ≤ (digit + 1) * lists.length + place := by
            rw [List.length_map, Nat.add_mul]
            omega
          rw [List.getElem?_append_right past, behind]
          exact inductionHypothesis chosen

theorem length_choices (lists : List (List α)) :
    (choices lists).length = (lists.map List.length).prod := by
  induction lists with
  | nil => rfl
  | cons options rest inductionHypothesis =>
      rw [choices_cons, extendEach, List.length_flatMap]
      simp [inductionHypothesis]

/-- At the place that digits stand for there is the choice of the members with these indices. -/
theorem getElem?_choices {lists : List (List α)} {digits : List Nat}
    (below : List.Forall₂ (· < ·) digits (lists.map List.length)) :
    ∃ choice, (choices lists)[placeValue (lists.map List.length) digits]? = some choice ∧
      choice.length = lists.length ∧
      ∀ (axis : Nat) (options : List α) (digit : Nat), lists[axis]? = some options →
        digits[axis]? = some digit →
          ∃ member, options[digit]? = some member ∧ choice[axis]? = some member := by
  induction lists generalizing digits with
  | nil =>
      cases below
      exact ⟨[], rfl, rfl, fun axis options digit listed => by cases listed⟩
  | cons options rest inductionHypothesis =>
      cases below with
      | @cons digit _ digits _ bound below =>
          obtain ⟨choice, found, size, members⟩ := inductionHypothesis below
          have chosen : options[digit]? = some options[digit] := List.getElem?_eq_getElem bound
          refine ⟨options[digit] :: choice, ?_, congrArg (· + 1) size, ?_⟩
          · rw [choices_cons, List.map_cons, placeValue, ← length_choices]
            exact getElem?_extendEach chosen found
          · intro axis others index listed given
            cases axis with
            | zero =>
                obtain rfl : options = others := Option.some.inj listed
                obtain rfl : digit = index := Option.some.inj given
                exact ⟨_, chosen, rfl⟩
            | succ axis => exact members axis others index listed given

/-- Choices from ascending lists ascend, where the first difference decides. -/
theorem pairwise_choices {precedes : α → α → Prop} {lists : List (List α)}
    (ascending : ∀ options ∈ lists, options.Pairwise precedes) :
    (choices lists).Pairwise (List.Lex precedes) := by
  induction lists with
  | nil => exact List.pairwise_singleton _ _
  | cons options rest inductionHypothesis =>
      obtain ⟨first, others⟩ := List.forall_mem_cons.mp ascending
      rw [choices_cons, extendEach, List.pairwise_flatMap]
      constructor
      · intro option _
        rw [List.pairwise_map]
        exact (inductionHypothesis others).imp .cons
      · refine first.imp fun before longer member other otherMember => ?_
        obtain ⟨_, -, rfl⟩ := List.mem_map.mp member
        obtain ⟨_, -, rfl⟩ := List.mem_map.mp otherMember
        exact .rel before

end

/-!
### Cells by number
-/

theorem getElem?_offsetsFrom {addends : List Int} {index : Nat} {addend : Int}
    (found : addends[index]? = some addend) (start : Int) :
    (SolvedSum.offsetsFrom start addends)[index]? =
      some (addend, start + (addends.take index).sum) := by
  induction addends generalizing index start with
  | nil => cases found
  | cons first rest inductionHypothesis =>
      cases index with
      | zero =>
          obtain rfl : first = addend := Option.some.inj found
          simp [SolvedSum.offsetsFrom]
      | succ index =>
          rw [SolvedSum.offsetsFrom, List.getElem?_cons_succ, inductionHypothesis found,
            List.take_succ_cons, List.sum_cons, add_assoc]

/-- The offsets of a sum ascend if its addends are positive. -/
theorem pairwise_offsetsFrom {addends : List Int} (positive : ∀ addend ∈ addends, 0 < addend)
    (start : Int) : ((SolvedSum.offsetsFrom start addends).map Prod.snd).Pairwise (· < ·) := by
  induction addends generalizing start with
  | nil => exact .nil
  | cons addend rest inductionHypothesis =>
      obtain ⟨head, tail⟩ := List.forall_mem_cons.mp positive
      refine .cons (fun offset member => ?_) (inductionHypothesis tail _)
      obtain ⟨span, later, rfl⟩ := List.mem_map.mp member
      have bound := (mem_offsetsFrom (fun addend inside => (tail addend inside).le) later).1
      omega

/-- On every axis the cell is as long as the addend with this index, and begins where the
addends before that one end. -/
structure Cell.MadeOf (cell : Cell) (sums : List SolvedSum) (indices : List Nat) : Prop where
  axes : cell.position.length = sums.length ∧ cell.size.length = sums.length
  axis : ∀ (axis : Nat) (sum : SolvedSum) (index : Nat), sums[axis]? = some sum →
    indices[axis]? = some index → ∃ addend, sum.addends[index]? = some addend ∧
      cell.size[axis]? = some addend ∧ cell.position[axis]? = some (sum.addends.take index).sum

namespace SolvedRatio

variable {ratio : SolvedRatio}

/-- How many addends there are on each axis. -/
def sizes (ratio : SolvedRatio) : List Nat := ratio.sums.map SolvedSum.size

theorem map_length_withOffsets (sums : List SolvedSum) :
    (sums.map SolvedSum.withOffsets).map List.length = sums.map SolvedSum.size := by
  simp [SolvedSum.withOffsets, SolvedSum.size]

/-- The grid has as many cells as the numbers of addends multiply to. -/
theorem length_cells (ratio : SolvedRatio) : ratio.cells.length = ratio.sizes.prod := by
  rw [cells, List.length_map, length_choices, map_length_withOffsets, sizes]

/-- So many are counted. -/
theorem cellCount_eq (ratio : SolvedRatio) : ratio.cellCount = ratio.sizes.prod := by
  have fold (start : Nat) (sums : List SolvedSum) :
      sums.foldl (fun count sum => count * sum.size) start =
        start * (sums.map SolvedSum.size).prod := by
    induction sums generalizing start with
    | nil => simp
    | cons sum rest inductionHypothesis => simp [inductionHypothesis, mul_assoc]
  rw [cellCount, fold, one_mul, sizes]

/-- Their number is told if a word holds it. -/
theorem countCells_eq_ok_iff {count : Int} :
    ratio.countCells = .ok count ↔ ratio.sizes.prod < 2 ^ 63 ∧ count = ratio.sizes.prod := by
  rw [countCells, toWord_eq_ok_iff, cellCount_eq, FitsWord]
  omega

/-- The cell at the place that digits stand for is made of the addends with these indices. -/
theorem exists_cell {place : Nat} {digits : List Nat} (isDigits : IsDigits ratio.sizes place digits) :
    ∃ cell, ratio.cells[place]? = some cell ∧ cell.MadeOf ratio.sums digits := by
  obtain ⟨below, rfl⟩ := isDigits
  rw [sizes, ← map_length_withOffsets] at below ⊢
  obtain ⟨choice, found, size, members⟩ := getElem?_choices below
  rw [List.length_map] at size
  refine ⟨Cell.ofChoice choice, by rw [cells, List.getElem?_map, found, Option.map_some], ?_, ?_⟩
  · simp [Cell.ofChoice, size]
  · intro axis sum index listed given
    obtain ⟨span, offset, chosen⟩ :=
      members axis sum.withOffsets index (by rw [List.getElem?_map, listed, Option.map_some]) given
    have addend : sum.addends[index]? = some span.1 := by
      rw [← SolvedSum.map_fst_offsetsFrom 0 sum.addends, List.getElem?_map]
      exact congrArg (Option.map Prod.fst) offset
    have position : (sum.addends.take index).sum = span.2 := by
      have same := (getElem?_offsetsFrom addend 0).symm.trans offset
      rw [zero_add] at same
      exact congrArg Prod.snd (Option.some.inj same)
    refine ⟨span.1, addend, ?_, ?_⟩
    · rw [Cell.ofChoice, List.getElem?_map, chosen, Option.map_some]
    · rw [Cell.ofChoice, List.getElem?_map, chosen, Option.map_some, position]

/-- With an addend on every axis the first cell is the one at the origin. -/
theorem exists_head_cells (nonempty : ∀ sum ∈ ratio.sums, sum.addends ≠ []) :
    ∃ cell, ratio.cells.head? = some cell ∧ ∀ coordinate ∈ cell.position, coordinate = 0 := by
  have positive : ∀ size ∈ ratio.sizes, 0 < size := by
    intro size member
    obtain ⟨sum, listed, rfl⟩ := List.mem_map.mp member
    exact List.length_pos_iff.mpr (nonempty sum listed)
  obtain ⟨cell, first, madeOf⟩ := exists_cell (isDigits_zero positive)
  refine ⟨cell, by rw [List.head?_eq_getElem?, first], fun coordinate member => ?_⟩
  obtain ⟨axis, bound, found⟩ := List.mem_iff_getElem.mp member
  have axis_lt : axis < ratio.sums.length := madeOf.axes.1 ▸ bound
  obtain ⟨_, -, -, position⟩ := madeOf.axis axis ratio.sums[axis] 0
    (List.getElem?_eq_getElem axis_lt) (by simp [sizes, axis_lt])
  rw [List.getElem?_eq_getElem bound, found] at position
  exact Option.some.inj position

/-- The positions ascend if all addends are positive. -/
theorem pairwise_position_cells (positive : ∀ sum ∈ ratio.sums, ∀ addend ∈ sum.addends, 0 < addend) :
    (ratio.cells.map Cell.position).Pairwise (· < ·) := by
  have positions : ratio.cells.map Cell.position =
      choices ((ratio.sums.map SolvedSum.withOffsets).map (List.map Prod.snd)) := by
    rw [← map_choices, cells, List.map_map]
    rfl
  rw [positions]
  refine pairwise_choices fun offsets member => ?_
  obtain ⟨spans, listed, rfl⟩ := List.mem_map.mp member
  obtain ⟨sum, solved, rfl⟩ := List.mem_map.mp listed
  exact pairwise_offsetsFrom (positive sum solved) 0

theorem planePair_eq_zero {numbers : List Int} (zeros : ∀ number ∈ numbers, number = 0) :
    planePair numbers = (0, 0) := by
  unfold planePair
  split <;> simp_all

/-- The partition of the first cell takes over the output and begins where the monitor does. -/
theorem exists_first_partition (nonempty : ∀ sum ∈ ratio.sums, sum.addends ≠ []) {monitor : Monitor}
    {scale : Int} {partitions : List Partition}
    (made : monitor.partitions (ratio.cells.map (·.scaled scale)) = .ok partitions) :
    ∃ first others, partitions = first :: others ∧ first.output = monitor.outputOrName ∧
      (first.geometry.x, first.geometry.y) = monitor.position ∧
      ∀ other ∈ others, other.output = Monitor.noOutput := by
  obtain ⟨cell, begins, origin⟩ := exists_head_cells nonempty
  obtain ⟨rest, cells⟩ := List.head?_eq_some_iff.mp begins
  rw [cells, List.map_cons] at made
  obtain ⟨first, others, rfl, head, tail⟩ := Monitor.forall₂_of_partitions made
  refine ⟨first, others, rfl, ?_⟩
  obtain ⟨_, _, -, -, rfl, -⟩ := Monitor.partition_eq_ok_iff.mp head
  have corner : planePair (cell.scaled scale).position = (0, 0) := by
    refine planePair_eq_zero fun coordinate member => ?_
    obtain ⟨unscaled, inside, rfl⟩ := List.mem_map.mp member
    rw [origin unscaled inside, zero_mul]
  refine ⟨rfl, by simp [corner], fun other member => ?_⟩
  obtain ⟨cell, -, made⟩ := exists_of_mem_right tail member
  obtain ⟨_, _, -, -, rfl, -⟩ := Monitor.partition_eq_ok_iff.mp made
  rfl

/-!
### Row-major order
-/

/-- The cells come in the order of the numbers that the indices of their addends stand for, the
first axis being the most significant. -/
structure RowMajor (ratio : SolvedRatio) : Prop where
  /-- There are as many cells as the numbers of addends multiply to. -/
  length : ratio.cells.length = ratio.sizes.prod
  /-- That number is told just if a word holds it. -/
  count : ∀ count, ratio.countCells = .ok count ↔
    ratio.sizes.prod < 2 ^ 63 ∧ count = ratio.sizes.prod
  digits : ∀ place < ratio.sizes.prod, ∃! digits, IsDigits ratio.sizes place digits
  cell : ∀ place digits, IsDigits ratio.sizes place digits →
    ∃ cell, ratio.cells[place]? = some cell ∧ cell.MadeOf ratio.sums digits
  /-- With an addend on every axis the first cell is at the origin. -/
  origin : (∀ sum ∈ ratio.sums, sum.addends ≠ []) →
    ∃ cell, ratio.cells.head? = some cell ∧ ∀ coordinate ∈ cell.position, coordinate = 0
  /-- The partition that a monitor makes of that cell takes over its output. -/
  output : (∀ sum ∈ ratio.sums, sum.addends ≠ []) →
    ∀ (monitor : Monitor) (scale : Int) (partitions : List Partition),
      monitor.partitions (ratio.cells.map (·.scaled scale)) = .ok partitions →
        ∃ first others, partitions = first :: others ∧ first.output = monitor.outputOrName ∧
          (first.geometry.x, first.geometry.y) = monitor.position ∧
          ∀ other ∈ others, other.output = Monitor.noOutput
  /-- Where all addends are positive the positions ascend, the first difference deciding. -/
  ascending : (∀ sum ∈ ratio.sums, ∀ addend ∈ sum.addends, 0 < addend) →
    (ratio.cells.map Cell.position).Pairwise (· < ·)

/-- The cells of every grid are in row-major order: each choice of addends has its place. -/
theorem cells_rowMajor (ratio : SolvedRatio) : ratio.RowMajor where
  length := ratio.length_cells
  count _ := countCells_eq_ok_iff
  digits _ bound := by
    obtain ⟨digits, isDigits⟩ := exists_isDigits bound
    exact ⟨digits, isDigits, fun others isOthers => isOthers.unique isDigits⟩
  cell _ _ := exists_cell
  origin := exists_head_cells
  output nonempty _ _ _ := exists_first_partition nonempty
  ascending := pairwise_position_cells

/-- The grid of two addends on each of so many axes. -/
def cube (axes : Nat) : SolvedRatio := { sums := List.replicate axes { addends := [1, 1] } }

theorem prod_sizes_cube (axes : Nat) : (cube axes).sizes.prod = 2 ^ axes := by
  simp [cube, sizes, SolvedSum.size]

/-- No word holds the number of cells of a grid of 63 axes. -/
theorem cube_outgrows_word :
    (cube 63).cells.length = 2 ^ 63 ∧ (cube 63).countCells = .error { number := 2 ^ 63 } := by
  have cells : (cube 63).sizes.prod = 2 ^ 63 := prod_sizes_cube 63
  have overflow : ¬ FitsWord ((2 ^ 63 : Nat) : Int) := by decide
  constructor
  · rw [length_cells, cells]
  · rw [countCells, cellCount_eq, cells, toWord, if_neg overflow]
    rfl

end SolvedRatio

end MonitorSplit
