/-
Module: MonitorSplit.Proofs.Ratio.Flat
Purpose: Ratios on boxes that have no length on any axis.
Main exports:
  Box.Flat, Ratio.ScalesToZero, commonScale_eq_zero_iff, Ratio.solve_eq_zeroScale_iff
-/
import MonitorSplit.Proofs.Ratio.Solution

namespace MonitorSplit

/-!
A box without any length is a multiple of everything, so it decides the scale only by the axes that
imply one, and they imply zero.  A unit of no pixels divides nothing.
-/

/-- No axis has any length. -/
def Box.Flat (box : Box) : Prop := ∀ length ∈ box.lengths, length = 0

instance (box : Box) : Decidable box.Flat :=
  inferInstanceAs (Decidable (∀ length ∈ box.lengths, length = 0))

/-- Some axis has no unknowns, and every such axis has a sum to divide by. -/
def Ratio.ScalesToZero (ratio : Ratio) : Prop :=
  (∃ sum ∈ ratio.sums, sum.unknowns = 0) ∧
    ∀ sum ∈ ratio.sums, sum.unknowns = 0 → sum.knownTotal ≠ 0

instance (ratio : Ratio) : Decidable ratio.ScalesToZero :=
  inferInstanceAs (Decidable ((∃ sum ∈ ratio.sums, sum.unknowns = 0) ∧ _))

theorem commonScale_eq_zero_iff {base : Int} {lengths : List Int} :
    commonScale base lengths = 0 ↔ base = 0 ∧ ∀ length ∈ lengths, length = 0 := by
  rw [← zero_dvd_iff, dvd_commonScale_iff, List.forall_mem_cons]
  simp only [zero_dvd_iff]

namespace Ratio

section

variable {ratio : Ratio} {box : Box}

/-- The base is zero on a flat box, if there is one, unless all axes have unknowns. -/
theorem inferBase_eq_ok_zero_iff (same : box.dimensions = ratio.dimensions) (flat : box.Flat) :
    ratio.inferBase box = .ok 0 ↔ ratio.ScalesToZero := by
  have no_length {axis : AxisSum × Int} (member : axis ∈ ratio.axes box) : axis.2 = 0 :=
    flat axis.2 (List.of_mem_zip member).2
  constructor
  · intro inferred
    constructor
    · by_contra unknown
      push Not at unknown
      have unit := (isBase_of_inferBase inferred).unit fun axis member =>
        unknown axis.1 (List.of_mem_zip member).1
      exact absurd unit zero_ne_one
    · intro sum member known zero
      obtain ⟨axis, listed, rfl⟩ := exists_axis_of_mem same member
      exact fit_of_inferBase inferred axis listed ⟨known, .inl zero⟩
  · rintro ⟨⟨sum, member, known⟩, divisors⟩
    have fit : ∀ axis ∈ ratio.axes box, ¬ ImpliesNoScale axis := by
      rintro axis listed ⟨none_unknown, zero | leaves⟩
      · exact divisors axis.1 (List.of_mem_zip listed).1 none_unknown zero
      · exact leaves (no_length listed ▸ dvd_zero _)
    obtain ⟨axis, listed, rfl⟩ := exists_axis_of_mem same member
    have implied {scale : Int} : IsImplied (ratio.axes box) scale ↔ scale = 0 := by
      constructor
      · rintro ⟨other, present, -, rfl⟩
        rw [no_length present, Int.zero_ediv]
      · rintro rfl
        exact ⟨axis, listed, known, by rw [no_length listed, Int.zero_ediv]⟩
    have only : [0] = distinctAscending (quotients (ratio.axes box)) := by
      refine eq_distinctAscending_iff.mpr ⟨List.pairwise_singleton _ _, fun scale => ?_⟩
      rw [List.mem_singleton, mem_quotients, implied]
    rw [inferBase_of_fit fit, ← only, baseScale]

theorem solve_ne_shape (same : box.dimensions = ratio.dimensions) (cause : ShapeError) :
    ratio.solve box ≠ .error (.shape cause) := by
  intro failed
  cases inferred : ratio.inferBase box with
  | error failure =>
      rw [solve_of_inferBase_eq_error same inferred, Except.error.injEq] at failed
      exact SolveFailure.ofRaised_ne_shape failure cause failed
  | ok base =>
      rw [solve_of_inferBase_eq_ok same inferred] at failed
      split at failed
      · cases failed
      · split at failed <;> simp at failed

/-- A scale of zero comes up just on a flat box whose axes imply it. -/
theorem solve_eq_zeroScale_iff (same : box.dimensions = ratio.dimensions) :
    ratio.solve box = .error .zeroScale ↔ box.Flat ∧ ratio.ScalesToZero := by
  constructor
  · intro failed
    cases inferred : ratio.inferBase box with
    | error cause =>
        rw [solve_of_inferBase_eq_error same inferred, Except.error.injEq] at failed
        exact absurd failed (SolveFailure.ofRaised_ne_zeroScale cause)
    | ok base =>
        rw [solve_of_inferBase_eq_ok same inferred] at failed
        split at failed
        · rename_i zero
          obtain ⟨rfl, flat⟩ := commonScale_eq_zero_iff.mp zero
          exact ⟨flat, (inferBase_eq_ok_zero_iff same flat).mp inferred⟩
        · split at failed <;> simp at failed
  · rintro ⟨flat, scales⟩
    rw [solve_of_inferBase_eq_ok same ((inferBase_eq_ok_zero_iff same flat).mpr scales),
      if_pos (commonScale_eq_zero_iff.mpr ⟨rfl, flat⟩)]

end

end Ratio

end MonitorSplit
