/-
Module: MonitorSplit.Proofs.Ratio.Positions
Purpose: When the cells of a solution begin at different places.
Main exports:
  SolvedSum.Advances, SolvedSum.nodup_offsets_iff, nodup_choices_iff, Solution.nodup_positions_iff
-/
import MonitorSplit.Proofs.Ratio.Totals

namespace MonitorSplit

/-!
### One axis

The offsets of a sum grow with every addend that is positive.  An addend of zero leaves the
next one where it began itself, and only the last addend has no next one.
-/

/-- Every addend before the last is positive. -/
def SolvedSum.Advances (sum : SolvedSum) : Prop := ∀ addend ∈ sum.addends.dropLast, 0 < addend

instance (sum : SolvedSum) : Decidable sum.Advances :=
  inferInstanceAs (Decidable (∀ addend ∈ sum.addends.dropLast, 0 < addend))

/-- Offsets never fall, so they differ just if every addend but the last is positive. -/
theorem nodup_offsetsFrom_iff {addends : List Int} (nonneg : ∀ addend ∈ addends, 0 ≤ addend)
    (start : Int) :
    ((SolvedSum.offsetsFrom start addends).map Prod.snd).Nodup ↔
      ∀ addend ∈ addends.dropLast, 0 < addend := by
  induction addends generalizing start with
  | nil => simp [SolvedSum.offsetsFrom]
  | cons addend rest inductionHypothesis =>
      obtain ⟨head, tail⟩ := List.forall_mem_cons.mp nonneg
      cases rest with
      | nil => simp [SolvedSum.offsetsFrom]
      | cons next rest =>
          have passed : start ∉ (SolvedSum.offsetsFrom (start + addend) (next :: rest)).map Prod.snd ↔
              0 < addend := by
            constructor
            · intro absent
              refine lt_of_le_of_ne head fun zero => absent ?_
              simp [SolvedSum.offsetsFrom, ← zero]
            · intro addend_pos member
              obtain ⟨span, later, same⟩ := List.mem_map.mp member
              have bound := (mem_offsetsFrom tail later).1
              omega
          rw [SolvedSum.offsetsFrom, List.map_cons, List.nodup_cons, inductionHypothesis tail, passed,
            List.dropLast_cons_cons, List.forall_mem_cons]

/-- The addends of a sum begin at different places exactly if all but the last advance. -/
theorem SolvedSum.nodup_offsets_iff {sum : SolvedSum}
    (nonneg : ∀ addend ∈ sum.addends, 0 ≤ addend) :
    (sum.withOffsets.map Prod.snd).Nodup ↔ sum.Advances :=
  nodup_offsetsFrom_iff nonneg 0

/-!
### All axes

Choices from lists with something to choose differ pairwise exactly if the members of each
list do.
-/

section

variable {α β : Type}

theorem map_choices (function : α → β) (lists : List (List α)) :
    (choices lists).map (List.map function) = choices (lists.map (List.map function)) := by
  induction lists with
  | nil => rfl
  | cons options rest inductionHypothesis =>
      rw [List.map_cons, choices_cons, choices_cons, ← inductionHypothesis, extendEach, extendEach,
        List.map_flatMap, List.flatMap_map]
      simp only [List.map_map, Function.comp_def, List.map_cons]

/-- A choice tells its head and its tail. -/
theorem nodup_extendEach_iff {options : List α} {lists : List (List α)} (some_option : options ≠ [])
    (some_list : lists ≠ []) :
    (extendEach options lists).Nodup ↔ options.Nodup ∧ lists.Nodup := by
  obtain ⟨option, listed⟩ := List.exists_mem_of_ne_nil options some_option
  obtain ⟨list, member⟩ := List.exists_mem_of_ne_nil lists some_list
  have same_option : (∀ option ∈ options, (lists.map (option :: ·)).Nodup) ↔ lists.Nodup := by
    simp only [List.nodup_map_iff List.cons_injective]
    exact ⟨fun each => each option listed, fun nodup _ _ => nodup⟩
  have different_options (first second : α) :
      List.Disjoint (lists.map (first :: ·)) (lists.map (second :: ·)) ↔ first ≠ second := by
    constructor
    · rintro disjoint rfl
      exact disjoint (List.mem_map_of_mem member) (List.mem_map_of_mem member)
    · intro differ longer fromFirst fromSecond
      obtain ⟨_, -, rfl⟩ := List.mem_map.mp fromFirst
      obtain ⟨_, -, same⟩ := List.mem_map.mp fromSecond
      exact differ (List.cons.inj same).1.symm
  rw [extendEach, List.nodup_flatMap, same_option, and_comm, List.Nodup]
  exact and_congr_left' (List.Pairwise.iff different_options)

/-- Choices differ just if the options of every list do, by induction on the lists. -/
theorem nodup_choices_iff {lists : List (List α)} (nonempty : ∀ options ∈ lists, options ≠ []) :
    (choices lists).Nodup ↔ ∀ options ∈ lists, options.Nodup := by
  induction lists with
  | nil => simp [choices]
  | cons options rest inductionHypothesis =>
      obtain ⟨first, others⟩ := List.forall_mem_cons.mp nonempty
      rw [choices_cons, nodup_extendEach_iff first (choices_ne_nil others),
        inductionHypothesis others, List.forall_mem_cons]

end

/-- The cells of a solution begin at different places exactly if on every axis all addends but
the last are positive. -/
theorem Solution.nodup_positions_iff {ratio : Ratio} {box : Box} {solution : Solution}
    (solved : ratio.solve box = .ok solution) (nonneg : solution.solved.Nonneg) :
    (solution.pixelCells.map Cell.position).Nodup ↔
      ∀ sum ∈ solution.solved.sums, sum.Advances := by
  obtain ⟨scale_pos, -⟩ := Ratio.totals_of_solve solved
  have scaling : Function.Injective (List.map (· * solution.scale)) :=
    List.map_injective_iff.mpr (mul_left_injective₀ scale_pos.ne')
  have positions : solution.pixelCells.map Cell.position =
      ((choices (solution.solved.sums.map SolvedSum.withOffsets)).map (List.map Prod.snd)).map
        (List.map (· * solution.scale)) := by
    simp only [Solution.pixelCells, SolvedRatio.cells, List.map_map]
    rfl
  have some_offset : ∀ offsets ∈ (solution.solved.sums.map SolvedSum.withOffsets).map
      (List.map Prod.snd), offsets ≠ [] := by
    intro offsets member
    obtain ⟨spans, listed, rfl⟩ := List.mem_map.mp member
    simpa using Ratio.withOffsets_ne_nil_of_solve solved spans listed
  rw [positions, List.nodup_map_iff scaling, map_choices, nodup_choices_iff some_offset,
    List.map_map, List.forall_mem_map]
  exact forall₂_congr fun sum member => SolvedSum.nodup_offsets_iff (nonneg sum member)

end MonitorSplit
