/-
Module: MonitorSplit.Proofs.Number.TwiceRounded
Purpose: Quotients of small numbers that are rounded twice come out as if rounded once.
Main exports:
  IsNearest, RoundsTo, RoundsTo.unique, isNearest_roundHalfEven, IsNearest.roundsTo,
  IsClose.isNearest, round_nearestBinary_of_lt
-/
import MonitorSplit.Proofs.Number.Nearest

namespace MonitorSplit

/-!
### Nearest whole numbers

Twice the distance of the quotient from a whole number is at most one.  Where it is one, another
whole number is as near, and the even one of the two is taken.
-/

/-- The whole number is nearest to the quotient, and even if another one is as near. -/
structure IsNearest (numerator denominator value : Nat) : Prop where
  above : 2 * (value * denominator) ≤ 2 * numerator + denominator
  below : 2 * numerator ≤ 2 * (value * denominator) + denominator
  even : 2 * (value * denominator) = 2 * numerator + denominator ∨
    2 * numerator = 2 * (value * denominator) + denominator → value % 2 = 0

/-- The whole number is the value rounded, a half being rounded to the even neighbour. -/
structure RoundsTo (value : ℚ) (whole : Int) : Prop where
  near : |value - whole| ≤ 1 / 2
  even : |value - whole| = 1 / 2 → Even whole

section

variable {numerator denominator value other : Nat}

theorem isNearest_roundHalfEven (positive : 0 < denominator) (numerator : Nat) :
    IsNearest numerator denominator (roundHalfEven numerator denominator) := by
  have whole : numerator / denominator * denominator + numerator % denominator = numerator :=
    Nat.div_add_mod' numerator denominator
  have partial_lt : numerator % denominator < denominator := Nat.mod_lt _ positive
  rw [roundHalfEven]
  generalize numerator / denominator = floor at whole ⊢
  generalize numerator % denominator = remainder at whole partial_lt ⊢
  have ceiling : (floor + 1) * denominator = floor * denominator + denominator := Nat.succ_mul _ _
  split_ifs with down up
  · constructor <;> omega
  · constructor <;> omega
  · rcases Nat.mod_two_eq_zero_or_one floor with even | odd
    · rw [even, Nat.add_zero]
      constructor <;> omega
    · rw [odd]
      constructor <;> omega

theorem abs_sub_le_half_iff {value : ℚ} {whole : Int} :
    |value - whole| ≤ 1 / 2 ↔ 2 * (whole : ℚ) ≤ 2 * value + 1 ∧ 2 * value ≤ 2 * (whole : ℚ) + 1 := by
  rw [abs_le]
  constructor <;> rintro ⟨_, _⟩ <;> constructor <;> linarith

/-- A number below another one is nearest only at the same distance, where both would be even. -/
theorem RoundsTo.not_lt {value : ℚ} {whole other : Int} (rounded : RoundsTo value whole)
    (also : RoundsTo value other) : ¬ whole < other := by
  intro less
  obtain ⟨-, upper⟩ := abs_sub_le_half_iff.mp rounded.near
  obtain ⟨lower, -⟩ := abs_sub_le_half_iff.mp also.near
  have next : (whole : ℚ) + 1 ≤ other := by exact_mod_cast less
  obtain rfl : other = whole + 1 := by
    have close : (other : ℚ) ≤ whole + 1 := by linarith
    exact le_antisymm (by exact_mod_cast close) less
  push_cast at lower next
  have middle : value - whole = 1 / 2 := by linarith
  have wholeEven := rounded.even (by rw [middle]; norm_num)
  have otherEven := also.even (by
    rw [show value - ((whole + 1 : Int) : ℚ) = -(1 / 2) by push_cast; linarith]
    norm_num)
  exact Int.even_add_one.mp otherEven wholeEven

/-- No two whole numbers are nearest to a value. -/
theorem RoundsTo.unique {value : ℚ} {whole other : Int} (rounded : RoundsTo value whole)
    (also : RoundsTo value other) : whole = other :=
  le_antisymm (le_of_not_gt (also.not_lt rounded)) (le_of_not_gt (rounded.not_lt also))

/-- The number nearest to a quotient is its value rounded. -/
theorem IsNearest.roundsTo (nearest : IsNearest numerator denominator value)
    (positive : 0 < denominator) : RoundsTo (numerator / denominator) value := by
  have length : (0 : ℚ) < denominator := by exact_mod_cast positive
  have quotient : (numerator : ℚ) / denominator * denominator = numerator :=
    div_mul_cancel₀ _ length.ne'
  generalize (numerator : ℚ) / denominator = ratio at quotient ⊢
  constructor
  · have above : 2 * ((value : ℚ) * denominator) ≤ 2 * numerator + denominator := by
      exact_mod_cast nearest.above
    have below : 2 * (numerator : ℚ) ≤ 2 * (value * denominator) + denominator := by
      exact_mod_cast nearest.below
    rw [abs_sub_le_half_iff, Int.cast_natCast]
    constructor
    · refine le_of_mul_le_mul_right ?_ length
      linarith
    · refine le_of_mul_le_mul_right ?_ length
      linarith
  · intro tie
    rw [Int.even_coe_nat, Nat.even_iff]
    refine nearest.even ?_
    rw [Int.cast_natCast] at tie
    rcases (abs_eq (by norm_num)).mp tie with after | before
    · right
      have same : 2 * (numerator : ℚ) = 2 * (value * denominator) + denominator := by
        linear_combination 2 * (denominator : ℚ) * after - 2 * quotient
      exact_mod_cast same
    · left
      have same : 2 * ((value : ℚ) * denominator) = 2 * numerator + denominator := by
        linear_combination 2 * quotient - 2 * (denominator : ℚ) * before
      exact_mod_cast same

/-- No two whole numbers are nearest to a quotient. -/
theorem IsNearest.eq (nearest : IsNearest numerator denominator value)
    (positive : 0 < denominator) (also : IsNearest numerator denominator other) : value = other :=
  Int.ofNat_inj.mp ((nearest.roundsTo positive).unique (also.roundsTo positive))

/-!
### Close quotients

A quotient that is close to another one lies on the same side of every half.  The distance of a
quotient from a half it differs from is at least one part of twice its denominator, and the other
quotient is closer than that.
-/

/-- The significand, taken in parts of the unit, is a quotient up to half a part. -/
structure IsClose (numerator denominator significand unit : Nat) : Prop where
  above : 2 * (significand * denominator) ≤ 2 * (numerator * unit) + denominator
  below : 2 * (numerator * unit) ≤ 2 * (significand * denominator) + denominator

section

variable {significand unit half : Nat} (close : IsClose numerator denominator significand unit)
  (fine : denominator < unit)

include close fine

theorem IsClose.lt_of_lt (less : 2 * numerator < half * denominator) :
    2 * significand < half * unit := by
  have apart : (2 * numerator + 1) * unit ≤ half * denominator * unit :=
    Nat.mul_le_mul_right unit less
  have upper := close.above
  refine Nat.lt_of_mul_lt_mul_right (a := denominator) ?_
  calc 2 * significand * denominator
      = 2 * (significand * denominator) := Nat.mul_assoc ..
    _ ≤ 2 * (numerator * unit) + denominator := upper
    _ < 2 * (numerator * unit) + unit := Nat.add_lt_add_left fine _
    _ = (2 * numerator + 1) * unit := by ring
    _ ≤ half * denominator * unit := apart
    _ = half * unit * denominator := by ring

theorem IsClose.gt_of_gt (greater : half * denominator < 2 * numerator) :
    half * unit < 2 * significand := by
  have apart : (half * denominator + 1) * unit ≤ 2 * numerator * unit :=
    Nat.mul_le_mul_right unit greater
  have lower := close.below
  refine Nat.lt_of_mul_lt_mul_right (a := denominator) ?_
  have step : half * denominator * unit + unit ≤ 2 * (significand * denominator) + denominator := by
    calc half * denominator * unit + unit = (half * denominator + 1) * unit := by ring
      _ ≤ 2 * numerator * unit := apart
      _ = 2 * (numerator * unit) := Nat.mul_assoc ..
      _ ≤ 2 * (significand * denominator) + denominator := lower
  calc half * unit * denominator = half * denominator * unit := by ring
    _ < 2 * (significand * denominator) := by omega
    _ = 2 * significand * denominator := (Nat.mul_assoc ..).symm

variable (positive : 0 < denominator) (even : unit % 2 = 0)

include positive even

/-- A unit of an even number of parts has halves among its parts. -/
theorem IsClose.eq_of_eq (same : 2 * numerator = half * denominator) :
    2 * significand = half * unit := by
  obtain ⟨parts, rfl⟩ := Nat.dvd_of_mod_eq_zero even
  have scaled : 2 * (numerator * (2 * parts)) = 2 * (half * parts * denominator) := by
    calc 2 * (numerator * (2 * parts)) = 2 * numerator * (2 * parts) := (Nat.mul_assoc ..).symm
      _ = 2 * (half * parts * denominator) := by rw [same]; ring
  have upper := close.above
  have lower := close.below
  rw [scaled] at upper lower
  have exact_part : significand = half * parts := by
    rcases lt_trichotomy significand (half * parts) with less | equal | greater
    · have := Nat.mul_le_mul_right denominator (Nat.succ_le_of_lt less)
      rw [Nat.succ_mul] at this
      omega
    · exact equal
    · have := Nat.mul_le_mul_right denominator (Nat.succ_le_of_lt greater)
      rw [Nat.succ_mul] at this
      omega
  rw [exact_part]
  ring

theorem IsClose.half_le_iff (half : Nat) :
    half * unit ≤ 2 * significand ↔ half * denominator ≤ 2 * numerator := by
  rcases lt_trichotomy (2 * numerator) (half * denominator) with less | same | greater
  · exact iff_of_false (close.lt_of_lt fine less).not_ge less.not_ge
  · exact iff_of_true (close.eq_of_eq fine positive even same).ge same.ge
  · exact iff_of_true (close.gt_of_gt fine greater).le greater.le

theorem IsClose.le_half_iff (half : Nat) :
    2 * significand ≤ half * unit ↔ 2 * numerator ≤ half * denominator := by
  rcases lt_trichotomy (2 * numerator) (half * denominator) with less | same | greater
  · exact iff_of_true (close.lt_of_lt fine less).le less.le
  · exact iff_of_true (close.eq_of_eq fine positive even same).le same.le
  · exact iff_of_false (close.gt_of_gt fine greater).not_ge greater.not_ge

/-- So the same whole number is nearest to both. -/
theorem IsClose.isNearest (nearest : IsNearest numerator denominator value) :
    IsNearest significand unit value := by
  have odd (number length : Nat) : (2 * number + 1) * length = 2 * (number * length) + length := by
    ring
  obtain ⟨above, below, tie⟩ := nearest
  -- the halves after and before the number
  have after := close.le_half_iff fine positive even (2 * value + 1)
  have after_ge := close.half_le_iff fine positive even (2 * value + 1)
  rw [odd, odd] at after after_ge
  cases value with
  | zero =>
      constructor <;> omega
  | succ before =>
      have prior := close.half_le_iff fine positive even (2 * before + 1)
      have prior_le := close.le_half_iff fine positive even (2 * before + 1)
      rw [odd, odd] at prior prior_le
      have next (length : Nat) : (before + 1) * length = before * length + length :=
        Nat.succ_mul before length
      simp only [next] at above below tie after after_ge
      constructor <;> rw [next] <;> omega

end

end

/-!
### Binary quotients

The significand of a quotient below 2 ^ 52 is told in parts that are finer than its denominator,
for it takes 53 digits to reach a number that has no more than 52.
-/

section

variable {numerator denominator : Nat}

/-- Scaled by its exponent a quotient has 53 digits before the point. -/
theorem mul_two_pow_le_of_exponent (some_numerator : numerator ≠ 0) {shift : Nat}
    (exponent : binaryExponent numerator denominator + shift = 52) :
    denominator * 2 ^ 52 ≤ numerator * 2 ^ shift := by
  have above := Nat.log2_self_le some_numerator
  have below_lt : denominator < 2 ^ (denominator.log2 + 1) := Nat.lt_log2_self
  unfold binaryExponent at exponent
  dsimp only at exponent
  generalize numerator.log2 = high at above exponent
  generalize denominator.log2 = low at below_lt exponent
  split_ifs at exponent with reached
  · rw [Nat.shiftLeft_eq, Nat.shiftLeft_eq] at reached
    rcases Nat.le_total low high with wide | narrow
    · rw [Nat.sub_eq_zero_of_le wide, pow_zero, mul_one] at reached
      have digits : 52 = high - low + shift := by omega
      calc denominator * 2 ^ 52 = denominator * 2 ^ (high - low) * 2 ^ shift := by
            rw [digits, pow_add, mul_assoc]
        _ ≤ numerator * 2 ^ shift := Nat.mul_le_mul_right _ reached
    · rw [Nat.sub_eq_zero_of_le narrow, pow_zero, mul_one] at reached
      have digits : shift = low - high + 52 := by omega
      calc denominator * 2 ^ 52 ≤ numerator * 2 ^ (low - high) * 2 ^ 52 :=
            Nat.mul_le_mul_right _ reached
        _ = numerator * 2 ^ shift := by rw [digits, pow_add, mul_assoc]
  · have digits : low + 1 + 52 = high + shift := by omega
    calc denominator * 2 ^ 52 ≤ 2 ^ (low + 1) * 2 ^ 52 := Nat.mul_le_mul_right _ below_lt.le
      _ = 2 ^ high * 2 ^ shift := by rw [← pow_add, digits, pow_add]
      _ ≤ numerator * 2 ^ shift := Nat.mul_le_mul_right _ above

/-- Rounding a quotient below 2 ^ 52 to 53 digits first makes no difference to the whole number
that is nearest. -/
theorem round_nearestBinary_of_lt (positive : 0 < denominator) (small : numerator < 2 ^ 52) :
    (nearestBinary numerator denominator).round = roundHalfEven numerator denominator := by
  rcases Nat.eq_zero_or_pos numerator with rfl | some_numerator
  · rw [round_nearestBinary_zero]
    simp [roundHalfEven]
  have below : ¬ ((52 : Nat) : Int) ≤ binaryExponent numerator denominator := by
    rw [le_binaryExponent_iff some_numerator.ne' positive]
    have multiple : 2 ^ 52 ≤ denominator * 2 ^ 52 := Nat.le_mul_of_pos_left _ positive
    omega
  obtain ⟨shift, exponent⟩ : ∃ shift : Nat, binaryExponent numerator denominator + shift = 52 :=
    ⟨(52 - binaryExponent numerator denominator).toNat, by omega⟩
  have digits := mul_two_pow_le_of_exponent some_numerator.ne' exponent
  have shifted : binaryExponent numerator denominator + 1 - significandDigits = -(shift : Int) := by
    rw [significandDigits]
    omega
  have round : (nearestBinary numerator denominator).round =
      roundHalfEven (roundHalfEven (numerator * 2 ^ shift) denominator) (2 ^ shift) := by
    simp [nearestBinary, Binary.round, some_numerator.ne', shifted, Nat.shiftLeft_eq]
  have fine : denominator < 2 ^ shift := by
    refine Nat.lt_of_mul_lt_mul_right (a := 2 ^ 52) ?_
    calc denominator * 2 ^ 52 ≤ numerator * 2 ^ shift := digits
      _ < 2 ^ 52 * 2 ^ shift := Nat.mul_lt_mul_of_pos_right small (Nat.two_pow_pos shift)
      _ = 2 ^ shift * 2 ^ 52 := Nat.mul_comm ..
  have even : 2 ^ shift % 2 = 0 := by
    obtain ⟨further, rfl⟩ : ∃ further, shift = further + 1 := ⟨shift - 1, by omega⟩
    rw [pow_succ, Nat.mul_mod_left]
  obtain ⟨above, under, -⟩ := isNearest_roundHalfEven positive (numerator * 2 ^ shift)
  have close : IsClose numerator denominator
      (roundHalfEven (numerator * 2 ^ shift) denominator) (2 ^ shift) := ⟨above, under⟩
  rw [round]
  exact (isNearest_roundHalfEven (Nat.two_pow_pos shift) _).eq (Nat.two_pow_pos shift)
    (close.isNearest fine positive even (isNearest_roundHalfEven positive numerator))

end

end MonitorSplit
