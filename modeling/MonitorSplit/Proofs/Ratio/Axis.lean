/-
Module: MonitorSplit.Proofs.Ratio.Axis
Purpose: What solving one axis gives, and exactly when it fails.
Main exports:
  AxisSum.total_fill, AxisSum.KnownNonneg, AxisSum.solve_units_eq_ok_iff, AxisSum.solve_units_eq_error_iff,
  AxisSum.Fits, AxisSum.Blocked, AxisSum.Decided, AxisSum.decided_of_unknowns
-/
import MonitorSplit.Proofs.Number.Digits
import MonitorSplit.Ratio.AxisSum
import Mathlib.Tactic.Ring
import Mathlib.Tactic.Linarith

namespace MonitorSplit

/-!
### Totals

What a sum adds up to once its unknowns have a value is linear in that value: the known
addends, and the value once for each unknown.
-/

@[simp] theorem addUp_nil : addUp [] = 0 := rfl

@[simp] theorem addUp_cons (number : Int) (rest : List Int) :
    addUp (number :: rest) = number + addUp rest := rfl

/-- Numbers that are not negative add up to no negative number. -/
theorem addUp_nonneg {numbers : List Int} (nonneg : ∀ number ∈ numbers, 0 ≤ number) :
    0 ≤ addUp numbers := by
  induction numbers with
  | nil => exact le_refl 0
  | cons number rest inductionHypothesis =>
      have head : 0 ≤ number := nonneg number List.mem_cons_self
      have tail : 0 ≤ addUp rest :=
        inductionHypothesis fun other member => nonneg other (List.mem_cons_of_mem number member)
      rw [addUp_cons]
      exact add_nonneg head tail

theorem addUp_map_mul (numbers : List Int) (factor : Int) :
    addUp (numbers.map (· * factor)) = addUp numbers * factor := by
  induction numbers with
  | nil => simp
  | cons number rest inductionHypothesis =>
      rw [List.map_cons, addUp_cons, addUp_cons, inductionHypothesis]
      ring

/-- A total is that of the known addends, and the value of an unknown once for each. -/
theorem addUp_map_getD (addends : List (Option Int)) (share : Int) :
    addUp (addends.map (·.getD share)) =
      addUp (addends.filterMap id) + addends.countP (·.isNone) * share := by
  induction addends with
  | nil => simp
  | cons addend rest inductionHypothesis =>
      cases addend with
      | none =>
          simp [inductionHypothesis]
          ring
      | some known =>
          simp [inductionHypothesis]
          ring

namespace AxisSum

@[simp] theorem size_fill (sum : AxisSum) (share : Int) : (sum.fill share).size = sum.size := by
  simp [SolvedSum.size, size, fill]

@[simp] theorem size_times (sum : AxisSum) (factor : Int) :
    (sum.times factor).size = sum.size := by
  simp [size, times]

@[simp] theorem unknowns_times (sum : AxisSum) (factor : Int) :
    (sum.times factor).unknowns = sum.unknowns := by
  simp [unknowns, times, List.countP_map, Function.comp_def]

@[simp] theorem knownTotal_times (sum : AxisSum) (factor : Int) :
    (sum.times factor).knownTotal = sum.knownTotal * factor := by
  unfold knownTotal knowns times
  rw [← addUp_map_mul, List.filterMap_map, List.map_filterMap]
  rfl

/-- A filled sum adds up to the known addends and one share for each unknown. -/
theorem total_fill (sum : AxisSum) (share : Int) :
    (sum.fill share).total = sum.knownTotal + sum.unknowns * share :=
  addUp_map_getD sum.addends share

/-- No known addend is negative. -/
def KnownNonneg (sum : AxisSum) : Prop := ∀ addend ∈ sum.addends, ∀ known ∈ addend, 0 ≤ known

instance (sum : AxisSum) : Decidable sum.KnownNonneg :=
  inferInstanceAs (Decidable (∀ addend ∈ sum.addends, ∀ known ∈ addend, 0 ≤ known))

theorem KnownNonneg.knownTotal {sum : AxisSum} (nonneg : sum.KnownNonneg) : 0 ≤ sum.knownTotal := by
  apply addUp_nonneg
  intro known member
  obtain ⟨addend, addendMember, same⟩ := List.mem_filterMap.mp member
  exact nonneg addend addendMember known same

/-!
### Solving

A scale that divides the length turns it into a number of units.  From there on only
the known addends and the number of unknowns decide.
-/

/-- Solving an axis of a whole number of units. -/
theorem solve_units (sum : AxisSum) (total : Int) {scale : Int} (nonzero : scale ≠ 0) :
    sum.solve (total * scale) scale =
      if sum.unknowns = 0 then .ok (sum.fill 0)
      else if total < sum.knownTotal then .error (AxisFailure.raise (.exceeded sum total))
      else
        match divide (total - sum.knownTotal) sum.unknowns with
        | .error cause => .error (sum.indivisible (total * scale) scale cause)
        | .ok share => .ok (sum.fill share) := by
  have units : divide (total * scale) scale = .ok total := divide_eq_ok_iff.mpr ⟨nonzero, rfl⟩
  cases divided : divide (total - sum.knownTotal) sum.unknowns <;>
    simp only [solve, units, sub_neg, divided]

/-- Solving a whole number of units succeeds exactly with a fill of the axis: the known
addends as they are, and for each unknown the same share, which is not negative. -/
theorem solve_units_eq_ok_iff {sum : AxisSum} {total scale : Int} {solved : SolvedSum}
    (nonzero : scale ≠ 0) :
    sum.solve (total * scale) scale = .ok solved ↔
      (sum.unknowns = 0 ∧ solved = sum.fill 0) ∨
        (sum.unknowns ≠ 0 ∧ ∃ share, 0 ≤ share ∧
          (sum.fill share).total = total ∧ solved = sum.fill share) := by
  rw [solve_units sum total nonzero]
  by_cases known : sum.unknowns = 0
  · simp [known, eq_comm]
  have unknowns_pos : (0 : Int) < sum.unknowns := by omega
  have fits_iff : ∀ share,
      (sum.fill share).total = total ↔ share * sum.unknowns = total - sum.knownTotal := by
    intro share
    rw [total_fill, eq_sub_iff_add_eq', mul_comm share]
  simp only [known, if_false, ne_eq, not_false_eq_true, true_and, false_and, false_or, fits_iff]
  split
  · rename_i exceeded
    simp only [reduceCtorEq, false_iff]
    rintro ⟨share, nonneg, fits, -⟩
    have := mul_nonneg nonneg unknowns_pos.le
    omega
  rename_i enough
  cases divided : divide (total - sum.knownTotal) sum.unknowns with
  | error cause =>
      obtain ⟨-, indivisible⟩ := divide_eq_error_iff.mp divided
      simp only [reduceCtorEq, false_iff]
      rintro ⟨share, -, fits, -⟩
      exact indivisible.elim unknowns_pos.ne' fun leaves => leaves ⟨share, by rw [← fits, mul_comm]⟩
  | ok share =>
      obtain ⟨-, fits⟩ := divide_eq_ok_iff.mp divided
      have nonneg : 0 ≤ share := nonneg_of_mul_nonneg_left (by omega) unknowns_pos
      simp only [Except.ok.injEq]
      constructor
      · rintro rfl
        exact ⟨share, nonneg, fits, rfl⟩
      · rintro ⟨other, -, otherFits, rfl⟩
        rw [mul_right_cancel₀ unknowns_pos.ne' (fits.trans otherFits.symm)]

/-- Solving a whole number of units fails exactly if there are unknowns, and the known
addends leave too little for them or an amount that they cannot share. -/
theorem solve_units_eq_error_iff {sum : AxisSum} {total scale : Int} {failure : Raised AxisFailure}
    (nonzero : scale ≠ 0) :
    sum.solve (total * scale) scale = .error failure ↔
      sum.unknowns ≠ 0 ∧
        ((total < sum.knownTotal ∧ failure = AxisFailure.raise (.exceeded sum total)) ∨
          (sum.knownTotal ≤ total ∧ ¬ (sum.unknowns : Int) ∣ total - sum.knownTotal ∧
            failure = AxisFailure.raise (.indivisible sum (total * scale) scale
              { divisor := sum.unknowns, dividend := total - sum.knownTotal }))) := by
  rw [solve_units sum total nonzero]
  by_cases known : sum.unknowns = 0
  · simp [known]
  have unknowns_ne : (sum.unknowns : Int) ≠ 0 := by omega
  simp only [known, if_false, ne_eq, not_false_eq_true, true_and]
  split
  · rename_i exceeded
    simp [exceeded, not_le.mpr exceeded, eq_comm]
  rename_i enough
  simp only [enough, false_and, false_or, not_lt.mp enough, true_and]
  cases divided : divide (total - sum.knownTotal) sum.unknowns with
  | error cause =>
      obtain ⟨rfl, indivisible⟩ := divide_eq_error_iff.mp divided
      have leaves := indivisible.resolve_left unknowns_ne
      simp [leaves, eq_comm]
  | ok share =>
      obtain ⟨-, fits⟩ := divide_eq_ok_iff.mp divided
      simp [← fits]

/-- Whatever solving fails with is raised for a failure on the axis. -/
theorem exists_raise_of_solve {sum : AxisSum} {length scale : Int} {raised : Raised AxisFailure}
    (failed : sum.solve length scale = .error raised) :
    ∃ failure, raised = AxisFailure.raise failure := by
  unfold solve at failed
  split at failed
  · rename_i divided
    obtain ⟨rfl, -⟩ := divide_eq_error_iff.mp divided
    cases failed
    exact ⟨_, indivisible_raise _ _ _ _⟩
  split_ifs at failed
  · cases failed
    exact ⟨_, rfl⟩
  split at failed
  · rename_i divided
    obtain ⟨rfl, -⟩ := divide_eq_error_iff.mp divided
    cases failed
    exact ⟨_, indivisible_raise _ _ _ _⟩
  · cases failed

/-- If a sum without unknowns fills the axis, then so does whatever solving gives. -/
theorem exists_fill_of_solve {sum : AxisSum} {length scale : Int} {solved : SolvedSum}
    (nonzero : scale ≠ 0) (divides : scale ∣ length)
    (known : sum.unknowns = 0 → sum.knownTotal * scale = length)
    (success : sum.solve length scale = .ok solved) :
    ∃ share, 0 ≤ share ∧ solved = sum.fill share ∧ solved.total * scale = length := by
  obtain ⟨total, rfl⟩ := divides
  rw [mul_comm scale total] at success known ⊢
  rcases (solve_units_eq_ok_iff nonzero).mp success with
    ⟨no_unknowns, rfl⟩ | ⟨-, share, nonneg, fits, rfl⟩
  · refine ⟨0, le_rfl, rfl, ?_⟩
    rw [total_fill, mul_zero, add_zero, known no_unknowns]
  · exact ⟨share, nonneg, rfl, by rw [fits]⟩

/-!
### Shares that fit

A share is what every unknown of an axis is taken to be.  Solving does not try shares, but it finds
the one that fits wherever there is one, at scales of either sign.
-/

/-- The share is not negative, and with it for every unknown the addends fill the axis. -/
structure Fits (sum : AxisSum) (length scale share : Int) : Prop where
  nonneg : 0 ≤ share
  fills : (sum.fill share).total * scale = length

/-- What is in the way of a share, in the order in which it is looked for.  The failure has a cause
if that is a division.  How much of it is told depends on its numbers. -/
inductive Blocked (sum : AxisSum) (length scale : Int) : AxisFailure → Prop where
  /-- The axis is no whole number of units long. -/
  | partUnit (broken : ¬ scale ∣ length) :
      Blocked sum length scale
        (.indivisible sum length scale { divisor := scale, dividend := length })
  /-- The known addends alone exceed the axis. -/
  | exceeded {units : Int} (whole : units * scale = length) (exceeds : units < sum.knownTotal) :
      Blocked sum length scale (.exceeded sum units)
  /-- The unknowns cannot share what the known addends leave. -/
  | uneven {units : Int} (whole : units * scale = length) (enough : sum.knownTotal ≤ units)
      (leaves : ¬ (sum.unknowns : Int) ∣ units - sum.knownTotal) :
      Blocked sum length scale (.indivisible sum length scale
        { divisor := sum.unknowns, dividend := units - sum.knownTotal })

/-- Solving the axis decides whether a share fits, and gives it or raises what is in the way. -/
structure Decided (sum : AxisSum) (length scale : Int) : Prop where
  /-- Solving succeeds exactly if some share fits. -/
  succeeds_iff : (∃ solved, sum.solve length scale = .ok solved) ↔
    ∃ share, sum.Fits length scale share
  /-- There is no other share that fits, and the solution has it for every unknown. -/
  solution : ∀ share, sum.Fits length scale share →
    (∀ other, sum.Fits length scale other → other = share) ∧
      sum.solve length scale = .ok (sum.fill share)
  /-- If none fits, then solving raises what is in the way. -/
  fails : (¬ ∃ share, sum.Fits length scale share) →
    ∃ failure, sum.solve length scale = .error (AxisFailure.raise failure) ∧
      sum.Blocked length scale failure

section

variable {sum : AxisSum} {length scale : Int}

/-- A share fits only if the scale divides the length. -/
theorem Fits.dvd {share : Int} (fits : sum.Fits length scale share) : scale ∣ length :=
  ⟨(sum.fill share).total, by rw [← fits.fills, mul_comm]⟩

theorem fits_units_iff {total share : Int} (nonzero : scale ≠ 0) :
    sum.Fits (total * scale) scale share ↔ 0 ≤ share ∧ (sum.fill share).total = total :=
  ⟨fun fits => ⟨fits.nonneg, mul_right_cancel₀ nonzero fits.fills⟩,
    fun ⟨nonneg, fills⟩ => ⟨nonneg, by rw [fills]⟩⟩

/-- With an unknown to take it, one share at most fits. -/
theorem Fits.unique {share other : Int} (some_unknown : sum.unknowns ≠ 0) (nonzero : scale ≠ 0)
    (fits : sum.Fits length scale share) (others : sum.Fits length scale other) : other = share := by
  have unknowns_ne : (sum.unknowns : Int) ≠ 0 := by exact_mod_cast some_unknown
  have totals : (sum.fill other).total = (sum.fill share).total :=
    mul_right_cancel₀ nonzero (others.fills.trans fits.fills.symm)
  rw [total_fill, total_fill] at totals
  exact mul_left_cancel₀ unknowns_ne (add_left_cancel totals)

/-- A scale that does not divide the length is reported before anything else is looked at. -/
theorem solve_of_not_dvd (broken : ¬ scale ∣ length) :
    sum.solve length scale =
      .error (AxisFailure.raise
        (.indivisible sum length scale { divisor := scale, dividend := length })) := by
  have divided : divide length scale =
      .error (NotDivisible.raise { divisor := scale, dividend := length }) :=
    divide_eq_error_iff.mpr ⟨rfl, .inr broken⟩
  simp only [solve, divided, indivisible_raise]

/-- Solving gives the sum filled with the share that fits. -/
theorem solve_eq_ok_iff_fits {solved : SolvedSum} (some_unknown : sum.unknowns ≠ 0)
    (nonzero : scale ≠ 0) :
    sum.solve length scale = .ok solved ↔
      ∃ share, sum.Fits length scale share ∧ solved = sum.fill share := by
  by_cases whole : scale ∣ length
  · obtain ⟨total, rfl⟩ := whole
    rw [mul_comm scale total, solve_units_eq_ok_iff nonzero]
    simp only [some_unknown, false_and, false_or, ne_eq, not_false_eq_true, true_and,
      fits_units_iff nonzero, and_assoc]
  · rw [solve_of_not_dvd whole]
    simp only [reduceCtorEq, false_iff]
    rintro ⟨share, fits, -⟩
    exact whole fits.dvd

/-- Every failure to solve names what is in the way. -/
theorem exists_blocked_of_solve {raised : Raised AxisFailure} (nonzero : scale ≠ 0)
    (failed : sum.solve length scale = .error raised) :
    ∃ failure, raised = AxisFailure.raise failure ∧ sum.Blocked length scale failure := by
  -- the known addends and the unknowns count only on an axis of whole units
  by_cases whole : scale ∣ length
  · obtain ⟨total, rfl⟩ := whole
    rw [mul_comm scale total] at failed ⊢
    obtain ⟨-, ⟨exceeds, rfl⟩ | ⟨enough, leaves, rfl⟩⟩ :=
      (solve_units_eq_error_iff nonzero).mp failed
    · exact ⟨_, rfl, .exceeded rfl exceeds⟩
    · exact ⟨_, rfl, .uneven rfl enough leaves⟩
  · rw [solve_of_not_dvd whole] at failed
    cases failed
    exact ⟨_, rfl, .partUnit whole⟩

/-- An axis with unknowns is solved exactly if some share fits it, whatever the signs of its
length, scale and known addends. -/
theorem decided_of_unknowns (some_unknown : sum.unknowns ≠ 0) (nonzero : scale ≠ 0) :
    sum.Decided length scale where
  succeeds_iff := by
    simp only [solve_eq_ok_iff_fits some_unknown nonzero]
    constructor
    · rintro ⟨solved, share, fits, -⟩
      exact ⟨share, fits⟩
    · rintro ⟨share, fits⟩
      exact ⟨_, share, fits, rfl⟩
  solution share fits :=
    ⟨fun _ others => fits.unique some_unknown nonzero others,
      (solve_eq_ok_iff_fits some_unknown nonzero).mpr ⟨share, fits, rfl⟩⟩
  fails unfit := by
    cases outcome : sum.solve length scale with
    | ok solved =>
        obtain ⟨share, fits, -⟩ := (solve_eq_ok_iff_fits some_unknown nonzero).mp outcome
        exact absurd ⟨share, fits⟩ unfit
    | error raised =>
        obtain ⟨failure, rfl, blocked⟩ := exists_blocked_of_solve nonzero outcome
        exact ⟨failure, rfl, blocked⟩

/-- A known addend that steps back, before two unknowns. -/
def stepBack : AxisSum := { addends := [some (-3), none, none] }

/-- Against the direction of the axis, seven units leave ten for the unknowns and six leave nine. -/
theorem stepBack_decided :
    stepBack.unknowns ≠ 0 ∧ (-2 : Int) ≠ 0 ∧
      stepBack.Fits (-14) (-2) 5 ∧ stepBack.Decided (-14) (-2) ∧
      stepBack.Blocked (-12) (-2)
        (.indivisible stepBack (-12) (-2) { divisor := 2, dividend := 9 }) ∧
      stepBack.Decided (-12) (-2) := by
  have some_unknown : stepBack.unknowns ≠ 0 := by decide
  have nonzero : (-2 : Int) ≠ 0 := by decide
  have whole : 6 * -2 = (-12 : Int) := by decide
  exact ⟨some_unknown, nonzero,
    { nonneg := by decide, fills := by decide }, decided_of_unknowns some_unknown nonzero,
    .uneven whole (by decide) (by decide), decided_of_unknowns some_unknown nonzero⟩

/-- A known addend that steps back as far as can be written, before four unknowns. -/
def stepFarBack : AxisSum := { addends := [some (-longest), none, none, none, none] }

theorem stepFarBack_solve :
    stepFarBack.solve (longest * 1) 1 =
      .error (AxisFailure.raise (.indivisible stepFarBack (longest * 1) 1
        { divisor := 4, dividend := longest - -longest })) := by
  have known : stepFarBack.knownTotal = -longest := by simp [stepFarBack, knownTotal, knowns]
  have unknowns : stepFarBack.unknowns = 4 := rfl
  have positive := longest_pos
  rw [solve_units_eq_error_iff one_ne_zero, known, unknowns]
  refine ⟨by decide, .inr ⟨by omega, ?_, rfl⟩⟩
  rw [sub_neg_eq_add]
  exact not_four_dvd_longest_add_longest

/-- On an axis as long as that step the unknowns cannot share what is left, and the failure cannot
say how much that is. -/
theorem stepFarBack_not_told :
    ¬ ∀ (sum : AxisSum) (length scale : Int), sum.unknowns ≠ 0 → scale ≠ 0 →
      (¬ ∃ share, sum.Fits length scale share) →
      ∃ failure, sum.solve length scale = .error (.told failure) := by
  intro told
  have unfit : ¬ ∃ share, stepFarBack.Fits (longest * 1) 1 share := by
    rintro ⟨share, fits⟩
    have solved := (solve_eq_ok_iff_fits (by decide) one_ne_zero).mpr ⟨share, fits, rfl⟩
    cases solved.symm.trans stepFarBack_solve
  obtain ⟨failure, failed⟩ := told stepFarBack (longest * 1) 1 (by decide) one_ne_zero unfit
  obtain ⟨short, -⟩ := Raised.tell_eq_told_iff.mp
    (Except.error.inj (stepFarBack_solve.symm.trans failed))
  have positive := longest_pos
  have greater : longest < longest - -longest := by omega
  refine not_writable_of_longest_lt greater (short _ ?_)
  exact List.mem_append_right _ (List.mem_cons_of_mem _ List.mem_cons_self)

end

end AxisSum

end MonitorSplit
