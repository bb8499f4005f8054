/-
Module: MonitorSplit.Proofs.Ratio.Base
Purpose: The base scale that a ratio and a box imply, and exactly when they imply none.
Main exports:
  IsFirst, ImpliesNoScale, IsImplied, IsBase, Ratio.inferBase_eq_ok_iff, Ratio.inferBase_eq_error_iff
-/
import MonitorSplit.Proofs.Ratio.Axis
import MonitorSplit.Ratio.Solve
import Mathlib.Data.List.Sort

namespace MonitorSplit

/-!
### Results that are passed on

A traversal of the axes hands on the first failure and maps what it gathers otherwise.
-/

theorem map_eq_ok_iff {ε α β : Type} {result : Except ε α} {function : α → β} {value : β} :
    result.map function = .ok value ↔ ∃ before, result = .ok before ∧ function before = value := by
  cases result <;> simp [Except.map]

theorem map_eq_error_iff {ε α β : Type} {result : Except ε α} {function : α → β} {failure : ε} :
    result.map function = .error failure ↔ result = .error failure := by
  cases result <;> simp [Except.map]

/-!
### The first member with a property

Axes are visited in order and the first one that fails decides the outcome, so failures
are told by the index of the first axis with a property.
-/

/-- At the index stands the member, it has the property, and none before it has. -/
structure IsFirst {α : Type} (property : α → Prop) (members : List α) (index : Nat)
    (member : α) : Prop where
  found : members[index]? = some member
  holds : property member
  least : ∀ earlier < index, ∀ other, members[earlier]? = some other → ¬ property other

theorem IsFirst.mem {α : Type} {property : α → Prop} {members : List α} {index : Nat} {member : α}
    (first : IsFirst property members index member) : member ∈ members :=
  List.mem_of_getElem? first.found

theorem not_isFirst_nil {α : Type} {property : α → Prop} {index : Nat} {member : α} :
    ¬ IsFirst property [] index member := by
  intro first
  simpa using first.found

/-- If the head has the property, it is the first to have it. -/
theorem isFirst_head {α : Type} {property : α → Prop} {head : α} {tail : List α} {index : Nat}
    {member : α} (holds : property head) :
    IsFirst property (head :: tail) index member ↔ index = 0 ∧ member = head := by
  constructor
  · intro first
    cases index with
    | zero => exact ⟨rfl, by simpa using first.found.symm⟩
    | succ next => exact absurd holds (first.least 0 next.succ_pos head rfl)
  · intro same
    obtain ⟨rfl, rfl⟩ := same
    exact ⟨rfl, holds, fun earlier before => absurd before earlier.not_lt_zero⟩

/-- If the head has not, the first one is the first one of the tail. -/
theorem isFirst_tail {α : Type} {property : α → Prop} {head : α} {tail : List α} {index : Nat}
    {member : α} (fails : ¬ property head) :
    IsFirst property (head :: tail) index member ↔
      ∃ next, index = next + 1 ∧ IsFirst property tail next member := by
  constructor
  · intro first
    cases index with
    | zero =>
        have same : head = member := by simpa using first.found
        exact absurd (same ▸ first.holds) fails
    | succ next =>
        refine ⟨next, rfl, by simpa using first.found, first.holds, ?_⟩
        intro earlier before other found
        exact first.least (earlier + 1) (by omega) other (by simpa using found)
  · intro later
    obtain ⟨next, rfl, first⟩ := later
    refine ⟨by simpa using first.found, first.holds, ?_⟩
    intro earlier before other found
    cases earlier with
    | zero =>
        have same : head = other := by simpa using found
        exact same ▸ fails
    | succ previous => exact first.least previous (by omega) other (by simpa using found)

/-- There is a first one just if there is one. -/
theorem exists_isFirst_iff {α : Type} {property : α → Prop} {members : List α} :
    (∃ index member, IsFirst property members index member) ↔
      ∃ member ∈ members, property member := by
  constructor
  · intro found
    obtain ⟨index, member, first⟩ := found
    exact ⟨member, first.mem, first.holds⟩
  · intro found
    induction members with
    | nil => simp at found
    | cons head tail inductionHypothesis =>
        by_cases holds : property head
        · exact ⟨0, head, (isFirst_head holds).mpr ⟨rfl, rfl⟩⟩
        · have later : ∃ member ∈ tail, property member := by simpa [holds] using found
          obtain ⟨index, member, first⟩ := inductionHypothesis later
          exact ⟨index + 1, member, (isFirst_tail holds).mpr ⟨index, rfl, first⟩⟩

theorem exists_isFirst_cons_of_holds {α : Type} {property : α → Prop} {head : α} {tail : List α}
    (holds : property head) {claim : Nat → α → Prop} :
    (∃ index member, IsFirst property (head :: tail) index member ∧ claim index member) ↔
      claim 0 head := by
  simp only [isFirst_head holds]
  constructor
  · intro found
    obtain ⟨_, _, ⟨rfl, rfl⟩, claimed⟩ := found
    exact claimed
  · intro claimed
    exact ⟨0, head, ⟨rfl, rfl⟩, claimed⟩

theorem exists_isFirst_cons_of_fails {α : Type} {property : α → Prop} {head : α} {tail : List α}
    (fails : ¬ property head) {claim : Nat → α → Prop} :
    (∃ index member, IsFirst property (head :: tail) index member ∧ claim index member) ↔
      ∃ index member, IsFirst property tail index member ∧ claim (index + 1) member := by
  simp only [isFirst_tail fails]
  constructor
  · intro found
    obtain ⟨_, member, ⟨next, rfl, first⟩, claimed⟩ := found
    exact ⟨next, member, first, claimed⟩
  · intro found
    obtain ⟨next, member, first, claimed⟩ := found
    exact ⟨next + 1, member, ⟨next, rfl, first⟩, claimed⟩

theorem isFirst_congr {α : Type} {property other : α → Prop} {members : List α} {index : Nat}
    {member : α} (same : ∀ member ∈ members, property member ↔ other member) :
    IsFirst property members index member ↔ IsFirst other members index member := by
  constructor
  · intro first
    refine ⟨first.found, (same member first.mem).mp first.holds, ?_⟩
    intro earlier before member' found holds
    exact first.least earlier before member' found
      ((same member' (List.mem_of_getElem? found)).mpr holds)
  · intro first
    refine ⟨first.found, (same member first.mem).mpr first.holds, ?_⟩
    intro earlier before member' found holds
    exact first.least earlier before member' found
      ((same member' (List.mem_of_getElem? found)).mp holds)

/-!
### Implied scales
-/

/-- An axis without unknowns whose length is no multiple of its sum; nothing is a
multiple of a sum of zero. -/
def ImpliesNoScale (axis : AxisSum × Int) : Prop :=
  axis.1.unknowns = 0 ∧ (axis.1.knownTotal = 0 ∨ ¬ axis.1.knownTotal ∣ axis.2)

/-- The scale is the quotient of length and sum on an axis without unknowns. -/
def IsImplied (axes : List (AxisSum × Int)) (scale : Int) : Prop :=
  ∃ axis ∈ axes, axis.1.unknowns = 0 ∧ scale = axis.2 / axis.1.knownTotal

/-- The quotients of the axes without unknowns, in the order of the axes. -/
def quotients (axes : List (AxisSum × Int)) : List Int :=
  (axes.filter (·.1.unknowns = 0)).map fun axis => axis.2 / axis.1.knownTotal

/-- The quotients are the scales that are implied. -/
theorem mem_quotients {axes : List (AxisSum × Int)} {scale : Int} :
    scale ∈ quotients axes ↔ IsImplied axes scale := by
  simp [quotients, IsImplied, and_assoc, eq_comm]

/-- An axis with unknowns implies no scale, and that is no failure. -/
theorem AxisSum.inferScale_of_unknowns {sum : AxisSum} (unknowns : sum.unknowns ≠ 0)
    (length : Int) : sum.inferScale length = .ok none := by
  simp [inferScale, unknowns]

theorem AxisSum.inferScale_of_impliesNoScale {sum : AxisSum} {length : Int}
    (unfit : ImpliesNoScale (sum, length)) :
    sum.inferScale length =
      .error (NotDivisible.raise { divisor := sum.knownTotal, dividend := length }) := by
  have failed : divide length sum.knownTotal = .error (NotDivisible.raise ⟨sum.knownTotal, length⟩) :=
    divide_eq_error_iff.mpr ⟨rfl, unfit.2⟩
  simp [inferScale, unfit.1, failed, Except.map]

/-- An axis without unknowns that divides its length implies the quotient. -/
theorem AxisSum.inferScale_of_known {sum : AxisSum} {length : Int} (known : sum.unknowns = 0)
    (fit : ¬ ImpliesNoScale (sum, length)) :
    sum.inferScale length = .ok (some (length / sum.knownTotal)) := by
  simp only [ImpliesNoScale, known, true_and, not_or, not_not] at fit
  have divided : divide length sum.knownTotal = .ok (length / sum.knownTotal) :=
    divide_eq_ok_iff.mpr ⟨fit.1, Int.ediv_mul_cancel fit.2⟩
  simp [inferScale, known, divided, Except.map]

/-- An axis that implies no scale ends the inference. -/
theorem impliedScales_of_impliesNoScale {axis : AxisSum × Int} (unfit : ImpliesNoScale axis)
    (index : Nat) (rest : List (AxisSum × Int)) :
    impliedScales index (axis :: rest) =
      .error (RatioFailure.raise
        (.scaleInference index { divisor := axis.1.knownTotal, dividend := axis.2 })) := by
  rw [impliedScales, AxisSum.inferScale_of_impliesNoScale unfit]
  exact congrArg Except.error (NotDivisible.map_scaleInference _ index)

/-- Any other axis adds its quotient, if it has one, to those of the axes after it. -/
theorem impliedScales_of_fit {axis : AxisSum × Int} (fit : ¬ ImpliesNoScale axis) (index : Nat)
    (rest : List (AxisSum × Int)) :
    impliedScales index (axis :: rest) =
      (impliedScales (index + 1) rest).map (quotients [axis] ++ ·) := by
  rw [impliedScales]
  by_cases unknowns : axis.1.unknowns = 0
  · rw [AxisSum.inferScale_of_known unknowns fit]
    simp [quotients, unknowns]
  · rw [AxisSum.inferScale_of_unknowns unknowns]
    cases impliedScales (index + 1) rest <;> simp [quotients, unknowns, Except.map]

/-- Inference succeeds with the quotients if there is one for every axis without unknowns. -/
theorem impliedScales_eq_ok_iff {axes : List (AxisSum × Int)} {start : Nat} {scales : List Int} :
    impliedScales start axes = .ok scales ↔
      (∀ axis ∈ axes, ¬ ImpliesNoScale axis) ∧ scales = quotients axes := by
  induction axes generalizing start scales with
  | nil => simp [impliedScales, quotients, eq_comm]
  | cons axis rest inductionHypothesis =>
      rw [List.forall_mem_cons]
      by_cases unfit : ImpliesNoScale axis
      · simp [impliedScales_of_impliesNoScale unfit, unfit]
      · have split : quotients (axis :: rest) = quotients [axis] ++ quotients rest := by
          simp only [quotients, ← List.map_append, ← List.filter_append, List.singleton_append]
        rw [impliedScales_of_fit unfit, map_eq_ok_iff, split]
        simp only [inductionHypothesis, unfit, not_false_eq_true, true_and]
        constructor
        · intro gathered
          obtain ⟨_, ⟨fits, rfl⟩, rfl⟩ := gathered
          exact ⟨fits, rfl⟩
        · intro fit
          obtain ⟨fits, rfl⟩ := fit
          exact ⟨_, ⟨fits, rfl⟩, rfl⟩

/-- Inference fails with the operands of the first axis that implies no scale. -/
theorem impliedScales_eq_error_iff {axes : List (AxisSum × Int)} {start : Nat}
    {failure : Raised RatioFailure} :
    impliedScales start axes = .error failure ↔
      ∃ index axis, IsFirst ImpliesNoScale axes index axis ∧
        failure = RatioFailure.raise (.scaleInference (start + index)
          { divisor := axis.1.knownTotal, dividend := axis.2 }) := by
  induction axes generalizing start with
  | nil => simp [impliedScales, not_isFirst_nil]
  | cons axis rest inductionHypothesis =>
      by_cases unfit : ImpliesNoScale axis
      · rw [exists_isFirst_cons_of_holds unfit, impliedScales_of_impliesNoScale unfit,
          Except.error.injEq]
        exact eq_comm
      · rw [exists_isFirst_cons_of_fails unfit, impliedScales_of_fit unfit, map_eq_error_iff,
          inductionHypothesis]
        simp only [Nat.add_assoc, Nat.add_comm 1]

/-!
### The base scale
-/

theorem mem_distinctAscending {values : List Int} {value : Int} :
    value ∈ distinctAscending values ↔ value ∈ values := by
  simp [distinctAscending]

theorem nodup_eraseDups (values : List Int) : values.eraseDups.Nodup := by
  -- each step drops the head and all that equal it, so the list only gets shorter
  induction shorter : values.length using Nat.strong_induction_on generalizing values with
  | _ size inductionHypothesis =>
      cases values with
      | nil => simp
      | cons head tail =>
          rw [List.eraseDups_cons, List.nodup_cons]
          refine ⟨by simp, inductionHypothesis _ ?_ _ rfl⟩
          have bound := List.length_filter_le (fun value => !value == head) tail
          rw [List.length_cons] at shorter
          omega

theorem pairwise_distinctAscending (values : List Int) :
    (distinctAscending values).Pairwise (· < ·) := by
  have ascending : (distinctAscending values).Pairwise (· ≤ ·) := by
    have sorted : (distinctAscending values).Pairwise fun left right => decide (left ≤ right) :=
      List.pairwise_mergeSort (fun _ _ _ => by simpa using le_trans)
        (fun left right => by simpa using le_total left right) values.eraseDups
    simpa using sorted
  have distinct : (distinctAscending values).Nodup :=
    (List.mergeSort_perm values.eraseDups _).nodup_iff.mpr (nodup_eraseDups values)
  exact ascending.imp₂ (fun _ _ lower differ => lt_of_le_of_ne lower differ) distinct

/-- Only the members of a list in ascending order decide what it is. -/
theorem eq_distinctAscending_iff {values ascending : List Int} :
    ascending = distinctAscending values ↔
      ascending.Pairwise (· < ·) ∧ ∀ value, value ∈ ascending ↔ value ∈ values := by
  constructor
  · rintro rfl
    exact ⟨pairwise_distinctAscending values, fun value => mem_distinctAscending⟩
  · intro characterised
    obtain ⟨ordered, same⟩ := characterised
    exact ordered.eq_of_mem_iff (pairwise_distinctAscending values)
      fun {value} => (same value).trans mem_distinctAscending.symm

/-- There is a base if no scale or a single one is implied. -/
theorem Ratio.baseScale_eq_ok_iff {scales : List Int} {base : Int} :
    Ratio.baseScale scales = .ok base ↔ (scales = [] ∧ base = 1) ∨ scales = [base] := by
  match scales with
  | [] => simp [baseScale, eq_comm]
  | [scale] => simp [baseScale]
  | _ :: _ :: _ => simp [baseScale]

/-- There is none if two are, and then all of them are told. -/
theorem Ratio.baseScale_eq_error_iff {scales : List Int} {failure : Raised RatioFailure} :
    Ratio.baseScale scales = .error failure ↔
      2 ≤ scales.length ∧ failure = RatioFailure.raise (.unequalScales scales) := by
  match scales with
  | [] => simp [baseScale]
  | [scale] => simp [baseScale]
  | _ :: _ :: _ => simp [baseScale, eq_comm]

/-- No known addend of any sum is negative. -/
def Ratio.KnownNonneg (ratio : Ratio) : Prop := ∀ sum ∈ ratio.sums, sum.KnownNonneg

instance (ratio : Ratio) : Decidable ratio.KnownNonneg :=
  inferInstanceAs (Decidable (∀ sum ∈ ratio.sums, sum.KnownNonneg))

/-- Every length is positive. -/
def Box.Positive (box : Box) : Prop := ∀ length ∈ box.lengths, 0 < length

instance (box : Box) : Decidable box.Positive :=
  inferInstanceAs (Decidable (∀ length ∈ box.lengths, 0 < length))

/-- At the base, in pixels for a unit, every axis without unknowns is filled.  Without
such an axis a unit is a pixel. -/
structure IsBase (axes : List (AxisSum × Int)) (base : Int) : Prop where
  fills : ∀ axis ∈ axes, axis.1.unknowns = 0 → axis.1.knownTotal * base = axis.2
  unit : (∀ axis ∈ axes, axis.1.unknowns ≠ 0) → base = 1

section

variable {ratio : Ratio} {box : Box} {base : Int}

theorem Box.Positive.axis (positive : box.Positive) {axis : AxisSum × Int}
    (member : axis ∈ ratio.axes box) : 0 < axis.2 :=
  positive axis.2 (List.of_mem_zip (a := axis.1) member).2

theorem Ratio.KnownNonneg.axis (nonneg : ratio.KnownNonneg) {axis : AxisSum × Int}
    (member : axis ∈ ratio.axes box) : axis.1.KnownNonneg :=
  nonneg axis.1 (List.of_mem_zip (b := axis.2) member).1

/-- Every sum belongs to an axis. -/
theorem Ratio.exists_axis_of_mem (same : box.dimensions = ratio.dimensions) {sum : AxisSum}
    (member : sum ∈ ratio.sums) : ∃ axis ∈ ratio.axes box, axis.1 = sum := by
  rwa [← List.map_fst_zip (le_of_eq same.symm), List.mem_map] at member

/-- A base leaves no axis without a scale, and is the only scale implied. -/
theorem IsBase.not_impliesNoScale (isBase : IsBase (ratio.axes box) base)
    (positive : box.Positive) {axis : AxisSum × Int} (member : axis ∈ ratio.axes box) :
    ¬ ImpliesNoScale axis := by
  intro impliesNone
  obtain ⟨known, unfit⟩ := impliesNone
  have fills := isBase.fills axis member known
  have length_pos := positive.axis member
  rcases unfit with zero | leaves
  · rw [zero, zero_mul] at fills
    omega
  · exact leaves ⟨base, fills.symm⟩

theorem IsBase.eq_of_isImplied (isBase : IsBase (ratio.axes box) base) (positive : box.Positive)
    {scale : Int} (implied : IsImplied (ratio.axes box) scale) : scale = base := by
  obtain ⟨axis, member, known, rfl⟩ := implied
  have fits := isBase.not_impliesNoScale positive member
  have nonzero : axis.1.knownTotal ≠ 0 := fun zero => fits ⟨known, Or.inl zero⟩
  rw [← isBase.fills axis member known, Int.mul_ediv_cancel_left base nonzero]

/-- A base is positive, as the lengths are. -/
theorem IsBase.pos (isBase : IsBase (ratio.axes box) base) (nonneg : ratio.KnownNonneg)
    (positive : box.Positive) : 0 < base := by
  by_cases unknown : ∀ axis ∈ ratio.axes box, axis.1.unknowns ≠ 0
  · rw [isBase.unit unknown]
    exact one_pos
  · push Not at unknown
    obtain ⟨axis, member, known⟩ := unknown
    have fills := isBase.fills axis member known
    have total_nonneg := (nonneg.axis member).knownTotal
    exact pos_of_mul_pos_right (fills ▸ positive.axis member) total_nonneg

/-- The quotients of all axes that have one single out their base. -/
theorem isBase_of_baseScale {axes : List (AxisSum × Int)}
    (fit : ∀ axis ∈ axes, ¬ ImpliesNoScale axis)
    (single : Ratio.baseScale (distinctAscending (quotients axes)) = .ok base) :
    IsBase axes base := by
  have implied {axis} (member : axis ∈ axes) (known : axis.1.unknowns = 0) :
      axis.2 / axis.1.knownTotal ∈ distinctAscending (quotients axes) :=
    mem_distinctAscending.mpr (mem_quotients.mpr ⟨axis, member, known, rfl⟩)
  rcases Ratio.baseScale_eq_ok_iff.mp single with ⟨empty, rfl⟩ | only
  · refine ⟨?_, fun _ => rfl⟩
    intro axis member known
    simpa [empty] using implied member known
  · refine ⟨?_, ?_⟩
    · intro axis member known
      have quotient : axis.2 / axis.1.knownTotal = base := by
        simpa [only] using implied member known
      have divides : axis.1.knownTotal ∣ axis.2 := by
        by_contra leaves
        exact fit axis member ⟨known, Or.inr leaves⟩
      rw [← quotient, Int.mul_ediv_cancel' divides]
    · intro unknown
      have found : base ∈ distinctAscending (quotients axes) := by simp [only]
      obtain ⟨axis, member, known, -⟩ := mem_quotients.mp (mem_distinctAscending.mp found)
      exact absurd known (unknown axis member)

theorem IsBase.baseScale_quotients (isBase : IsBase (ratio.axes box) base)
    (positive : box.Positive) :
    Ratio.baseScale (distinctAscending (quotients (ratio.axes box))) = .ok base := by
  rw [Ratio.baseScale_eq_ok_iff]
  by_cases unknown : ∀ axis ∈ ratio.axes box, axis.1.unknowns ≠ 0
  · refine Or.inl ⟨(eq_distinctAscending_iff.mpr ⟨List.Pairwise.nil, ?_⟩).symm,
      isBase.unit unknown⟩
    intro scale
    simp only [List.not_mem_nil, mem_quotients, false_iff]
    intro implied
    obtain ⟨axis, member, known, -⟩ := implied
    exact unknown axis member known
  · push Not at unknown
    obtain ⟨axis, member, known⟩ := unknown
    have implied : IsImplied (ratio.axes box) (axis.2 / axis.1.knownTotal) :=
      ⟨axis, member, known, rfl⟩
    refine Or.inr (eq_distinctAscending_iff.mpr ⟨List.pairwise_singleton _ _, ?_⟩).symm
    intro scale
    rw [List.mem_singleton, mem_quotients]
    constructor
    · rintro rfl
      exact isBase.eq_of_isImplied positive implied ▸ implied
    · exact isBase.eq_of_isImplied positive

/-- If every axis without unknowns implies a scale, their quotients decide. -/
theorem Ratio.inferBase_of_fit (fit : ∀ axis ∈ ratio.axes box, ¬ ImpliesNoScale axis) :
    ratio.inferBase box = baseScale (distinctAscending (quotients (ratio.axes box))) := by
  have implied : impliedScales 0 (ratio.axes box) = .ok (quotients (ratio.axes box)) :=
    impliedScales_eq_ok_iff.mpr ⟨fit, rfl⟩
  simp only [inferBase, inferredScales, implied, Except.map]

/-- A scale is implied only if no axis fails to imply one. -/
theorem Ratio.fit_of_inferBase (inferred : ratio.inferBase box = .ok base) :
    ∀ axis ∈ ratio.axes box, ¬ ImpliesNoScale axis := by
  cases implied : impliedScales 0 (ratio.axes box) with
  | error failure => simp [inferBase, inferredScales, implied, Except.map] at inferred
  | ok scales => exact (impliedScales_eq_ok_iff.mp implied).1

/-- A scale that is implied is the base, whatever the signs of addends and lengths are. -/
theorem Ratio.isBase_of_inferBase (inferred : ratio.inferBase box = .ok base) :
    IsBase (ratio.axes box) base := by
  have fit := fit_of_inferBase inferred
  exact isBase_of_baseScale fit ((inferBase_of_fit fit).symm.trans inferred)

/-- A ratio and a box imply a scale exactly if it is their base. -/
theorem Ratio.inferBase_eq_ok_iff (positive : box.Positive) :
    ratio.inferBase box = .ok base ↔ IsBase (ratio.axes box) base := by
  constructor
  · exact isBase_of_inferBase
  · intro isBase
    rw [inferBase_of_fit fun axis member => isBase.not_impliesNoScale positive member]
    exact isBase.baseScale_quotients positive

/-- They imply none exactly if some axis implies no scale, and then the first such axis
is named, or else if two axes imply different ones, and then all of those are named. -/
theorem Ratio.inferBase_eq_error_iff {failure : Raised RatioFailure} :
    ratio.inferBase box = .error failure ↔
      (∃ index axis, IsFirst ImpliesNoScale (ratio.axes box) index axis ∧
        failure = RatioFailure.raise (.scaleInference index
          { divisor := axis.1.knownTotal, dividend := axis.2 })) ∨
      ((∀ axis ∈ ratio.axes box, ¬ ImpliesNoScale axis) ∧
        ∃ scales, scales.Pairwise (· < ·) ∧
          (∀ scale, scale ∈ scales ↔ IsImplied (ratio.axes box) scale) ∧
          2 ≤ scales.length ∧ failure = RatioFailure.raise (.unequalScales scales)) := by
  have first_iff : impliedScales 0 (ratio.axes box) = .error failure ↔ _ :=
    impliedScales_eq_error_iff
  simp only [Nat.zero_add] at first_iff
  rw [← first_iff]
  unfold inferBase inferredScales
  cases implied : impliedScales 0 (ratio.axes box) with
  | error other =>
      have unfit : ¬ ∀ axis ∈ ratio.axes box, ¬ ImpliesNoScale axis := by
        intro fit
        have found : impliedScales 0 (ratio.axes box) = .ok _ :=
          impliedScales_eq_ok_iff.mpr ⟨fit, rfl⟩
        simp [found] at implied
      simp only [Except.map, unfit, false_and, or_false, Except.error.injEq]
  | ok scales =>
      obtain ⟨fit, rfl⟩ := impliedScales_eq_ok_iff.mp implied
      simp only [Except.map, reduceCtorEq, false_or, baseScale_eq_error_iff]
      rw [and_iff_right fit]
      constructor
      · intro unequal
        obtain ⟨several, rfl⟩ := unequal
        refine ⟨_, pairwise_distinctAscending _, ?_, several, rfl⟩
        exact fun scale => mem_distinctAscending.trans mem_quotients
      · intro unequal
        obtain ⟨scales, ascending, members, several, rfl⟩ := unequal
        have same : scales = distinctAscending (quotients (ratio.axes box)) :=
          eq_distinctAscending_iff.mpr
            ⟨ascending, fun scale => (members scale).trans mem_quotients.symm⟩
        exact ⟨same ▸ several, by rw [same]⟩

end

/-!
### The common scale
-/

/-- The greatest common divisor of some numbers. -/
structure IsGreatestDivisor (divisor : Int) (numbers : List Int) : Prop where
  nonneg : 0 ≤ divisor
  divides : ∀ number ∈ numbers, divisor ∣ number
  greatest : ∀ other, (∀ number ∈ numbers, other ∣ number) → other ∣ divisor

/-- Numbers have one greatest common divisor. -/
theorem IsGreatestDivisor.eq {left right : Int} {numbers : List Int}
    (isLeft : IsGreatestDivisor left numbers) (isRight : IsGreatestDivisor right numbers) :
    left = right :=
  Int.dvd_antisymm isLeft.nonneg isRight.nonneg
    (isRight.greatest left isLeft.divides) (isLeft.greatest right isRight.divides)

/-- It is positive if one of the numbers is. -/
theorem IsGreatestDivisor.pos {divisor number : Int} {numbers : List Int}
    (isGreatest : IsGreatestDivisor divisor numbers) (member : number ∈ numbers)
    (positive : 0 < number) : 0 < divisor := by
  refine lt_of_le_of_ne isGreatest.nonneg ?_
  rintro rfl
  have zero := zero_dvd_iff.mp (isGreatest.divides number member)
  omega

/-- What divides the common scale divides the base and every length. -/
theorem dvd_commonScale_iff {divisor base : Int} {lengths : List Int} :
    divisor ∣ commonScale base lengths ↔ ∀ number ∈ base :: lengths, divisor ∣ number := by
  induction lengths generalizing base with
  | nil => simp [commonScale]
  | cons length rest inductionHypothesis =>
      have step : commonScale base (length :: rest) =
          commonScale (Int.gcd base length : Int) rest := rfl
      rw [step, inductionHypothesis]
      simp only [List.forall_mem_cons, Int.dvd_coe_gcd_iff, and_assoc]

theorem commonScale_nonneg {base : Int} {lengths : List Int} (nonneg : 0 ≤ base) :
    0 ≤ commonScale base lengths := by
  induction lengths generalizing base with
  | nil => exact nonneg
  | cons length rest inductionHypothesis => exact inductionHypothesis (Int.natCast_nonneg _)

/-- The scale of a solution is the greatest common divisor of base and lengths. -/
theorem isGreatestDivisor_commonScale {base : Int} {lengths : List Int} (nonneg : 0 ≤ base) :
    IsGreatestDivisor (commonScale base lengths) (base :: lengths) where
  nonneg := commonScale_nonneg nonneg
  divides := dvd_commonScale_iff.mp dvd_rfl
  greatest _ := dvd_commonScale_iff.mpr

/-- The scale is positive, and base and lengths are whole numbers of it. -/
structure Measures (scale base : Int) (axes : List (AxisSum × Int)) : Prop where
  pos : 0 < scale
  dvd_base : scale ∣ base
  dvd_length : ∀ axis ∈ axes, scale ∣ axis.2

theorem IsGreatestDivisor.measures {ratio : Ratio} {box : Box} {base scale : Int}
    (greatest : IsGreatestDivisor scale (base :: box.lengths)) (base_pos : 0 < base) :
    Measures scale base (ratio.axes box) where
  pos := greatest.pos List.mem_cons_self base_pos
  dvd_base := greatest.divides base List.mem_cons_self
  dvd_length axis member := greatest.divides axis.2
    (List.mem_cons_of_mem base (List.of_mem_zip (a := axis.1) member).2)

end MonitorSplit
