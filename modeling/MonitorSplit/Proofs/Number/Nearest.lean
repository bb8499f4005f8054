/-
Module: MonitorSplit.Proofs.Number.Nearest
Purpose: How far rounding goes, and from which quotient on it reaches a power of two.
Main exports:
  roundHalfEven_mul_le, round_nearestBinary_mul_le, le_roundHalfEven_iff, le_binaryExponent_iff,
  lastTie, two_pow_le_nearestBinary_iff, round_nearestBinary_lt
-/
import Mathlib
import MonitorSplit.Number.Nearest

namespace MonitorSplit

/-!
### Coarse bounds

Rounding to the nearest at most doubles a quotient: below one half it gives zero, and from
there on it adds one half at most.
-/

theorem roundHalfEven_mul_le (numerator denominator : Nat) :
    roundHalfEven numerator denominator * denominator ≤ 2 * numerator := by
  have whole : numerator / denominator * denominator + numerator % denominator = numerator :=
    Nat.div_add_mod' numerator denominator
  -- one more than the floor is taken only from one half on
  have rounded : roundHalfEven numerator denominator = numerator / denominator ∨
      (roundHalfEven numerator denominator = numerator / denominator + 1 ∧
        denominator ≤ 2 * (numerator % denominator)) := by
    unfold roundHalfEven
    dsimp only
    split_ifs <;> omega
  rcases rounded with floor | ⟨ceiling, half⟩
  · rw [floor]
    omega
  · rw [ceiling, Nat.add_mul]
    omega

section

variable {numerator denominator : Nat}

theorem round_nearestBinary_zero (denominator : Nat) : (nearestBinary 0 denominator).round = 0 := by
  simp [nearestBinary, Binary.round, roundHalfEven]

/-- The significand of a quotient, with the exponent on the side where it is not negative. -/
theorem significand_mul_le (numerator denominator : Nat) :
    (nearestBinary numerator denominator).significand *
        2 ^ (nearestBinary numerator denominator).exponent.toNat * denominator ≤
      2 * numerator * 2 ^ (-(nearestBinary numerator denominator).exponent).toNat := by
  unfold nearestBinary
  split
  · simp
  · dsimp only
    generalize binaryExponent numerator denominator + 1 - significandDigits = exponent
    have rounded :=
      roundHalfEven_mul_le (numerator <<< (-exponent).toNat) (denominator <<< exponent.toNat)
    simp only [Nat.shiftLeft_eq] at rounded ⊢
    calc _ = roundHalfEven (numerator * 2 ^ (-exponent).toNat) (denominator * 2 ^ exponent.toNat) *
            (denominator * 2 ^ exponent.toNat) := by ring
      _ ≤ 2 * (numerator * 2 ^ (-exponent).toNat) := rounded
      _ = _ := by ring

theorem round_nearestBinary_mul_le (numerator denominator : Nat) :
    (nearestBinary numerator denominator).round * denominator ≤ 4 * numerator := by
  have significand := significand_mul_le numerator denominator
  generalize nearestBinary numerator denominator = quotient at significand ⊢
  have rounded := roundHalfEven_mul_le (quotient.significand <<< quotient.exponent.toNat)
    (1 <<< (-quotient.exponent).toNat)
  simp only [Nat.shiftLeft_eq, one_mul] at rounded
  refine Nat.le_of_mul_le_mul_right ?_ (Nat.two_pow_pos (-quotient.exponent).toNat)
  calc quotient.round * denominator * 2 ^ (-quotient.exponent).toNat
      = quotient.round * 2 ^ (-quotient.exponent).toNat * denominator := by ring
    _ ≤ 2 * (quotient.significand * 2 ^ quotient.exponent.toNat) * denominator := by
        refine Nat.mul_le_mul_right denominator ?_
        simpa only [Binary.round, Nat.shiftLeft_eq, one_mul] using rounded
    _ = 2 * (quotient.significand * 2 ^ quotient.exponent.toNat * denominator) := by ring
    _ ≤ 2 * (2 * numerator * 2 ^ (-quotient.exponent).toNat) := Nat.mul_le_mul_left 2 significand
    _ = 4 * numerator * 2 ^ (-quotient.exponent).toNat := by ring

/-- The exponent of a quotient is at least one less than the difference of those of its operands. -/
theorem le_binaryExponent (numerator denominator : Nat) :
    (numerator.log2 : Int) - denominator.log2 - 1 ≤ binaryExponent numerator denominator := by
  unfold binaryExponent
  dsimp only
  split_ifs <;> omega

theorem exponent_nearestBinary (some_numerator : numerator ≠ 0) :
    (nearestBinary numerator denominator).exponent =
      binaryExponent numerator denominator + 1 - significandDigits := by
  simp [nearestBinary, some_numerator]

/-- A significand after which fractions follow is small. -/
theorem significand_le_of_exponent_neg (positive : 0 < denominator)
    (fraction : (nearestBinary numerator denominator).exponent < 0) :
    (nearestBinary numerator denominator).significand ≤ 2 ^ 55 := by
  by_cases zero : numerator = 0
  · simp [nearestBinary, zero]
  have given : (nearestBinary numerator denominator).exponent = _ := exponent_nearestBinary zero
  have least := le_binaryExponent numerator denominator
  have bound := significand_mul_le numerator denominator
  generalize nearestBinary numerator denominator = quotient at fraction given bound ⊢
  have shift : numerator.log2 + 1 + (-quotient.exponent).toNat ≤ 54 + denominator.log2 := by
    simp only [significandDigits] at given
    omega
  have unshifted : quotient.exponent.toNat = 0 := by omega
  rw [unshifted, pow_zero, mul_one] at bound
  refine Nat.le_of_mul_le_mul_right ?_ positive
  calc quotient.significand * denominator
      ≤ 2 * numerator * 2 ^ (-quotient.exponent).toNat := bound
    _ ≤ 2 * 2 ^ (numerator.log2 + 1) * 2 ^ (-quotient.exponent).toNat :=
        Nat.mul_le_mul_right _ (Nat.mul_le_mul_left 2 Nat.lt_log2_self.le)
    _ = 2 * 2 ^ (numerator.log2 + 1 + (-quotient.exponent).toNat) := by ring
    _ ≤ 2 * 2 ^ (54 + denominator.log2) := Nat.mul_le_mul_left 2 (Nat.pow_le_pow_right two_pos shift)
    _ = 2 ^ 55 * 2 ^ denominator.log2 := by ring
    _ ≤ 2 ^ 55 * denominator := Nat.mul_le_mul_left _ (Nat.log2_self_le positive.ne')

end

/-!
### Whole numbers reached by rounding
-/

section

variable {numerator denominator bound : Nat}

theorem le_roundHalfEven (positive : 0 < denominator) (reached : bound * denominator ≤ numerator) :
    bound ≤ roundHalfEven numerator denominator := by
  have floor : bound ≤ numerator / denominator := (Nat.le_div_iff_mul_le positive).mpr reached
  unfold roundHalfEven
  dsimp only
  split_ifs <;> omega

/-- A whole number is reached from half before it on, and so is the half if the number is even. -/
theorem le_roundHalfEven_iff (positive : 0 < denominator) (even : bound % 2 = 0) :
    bound ≤ roundHalfEven numerator denominator ↔
      2 * (bound * denominator) ≤ 2 * numerator + denominator := by
  have whole : numerator / denominator * denominator + numerator % denominator = numerator :=
    Nat.div_add_mod' numerator denominator
  have partial_lt : numerator % denominator < denominator := Nat.mod_lt _ positive
  rw [roundHalfEven]
  generalize numerator / denominator = floor at whole ⊢
  generalize numerator % denominator = remainder at whole partial_lt ⊢
  rcases lt_trichotomy bound (floor + 1) with below | rfl | above
  · have multiple : bound * denominator ≤ floor * denominator :=
      Nat.mul_le_mul_right denominator (Nat.le_of_lt_succ below)
    split_ifs <;> omega
  · rw [Nat.add_mul, Nat.one_mul]
    split_ifs <;> omega
  · have multiple : (floor + 2) * denominator ≤ bound * denominator :=
      Nat.mul_le_mul_right denominator above
    rw [Nat.add_mul] at multiple
    split_ifs <;> omega

theorem roundHalfEven_le (positive : 0 < denominator) (within : numerator ≤ bound * denominator) :
    roundHalfEven numerator denominator ≤ bound := by
  have whole : numerator / denominator * denominator + numerator % denominator = numerator :=
    Nat.div_add_mod' numerator denominator
  have floor : numerator / denominator ≤ bound := Nat.div_le_of_le_mul (by rwa [Nat.mul_comm])
  rcases floor.eq_or_lt with same | below
  · rw [same] at whole
    unfold roundHalfEven
    dsimp only
    split_ifs <;> omega
  · unfold roundHalfEven
    dsimp only
    split_ifs <;> omega

end

/-!
### Powers of two reached by rounding

The exponent of a quotient is found from those of its operands.  With it the significand lies
between two powers of two, so rounding reaches a third one either far from it or, where the
significand is rounded up to that power, from the middle on between it and the number before it.
-/

section

variable {numerator denominator : Nat}

/-- The exponent is that of the greatest power of two in the quotient. -/
theorem le_binaryExponent_iff (some_numerator : numerator ≠ 0) (positive : 0 < denominator)
    (power : Nat) :
    (power : Int) ≤ binaryExponent numerator denominator ↔ denominator * 2 ^ power ≤ numerator := by
  have above := Nat.log2_self_le some_numerator
  have above_lt : numerator < 2 ^ (numerator.log2 + 1) := Nat.lt_log2_self
  have below := Nat.log2_self_le positive.ne'
  have below_lt : denominator < 2 ^ (denominator.log2 + 1) := Nat.lt_log2_self
  unfold binaryExponent
  dsimp only
  generalize numerator.log2 = high at above above_lt ⊢
  generalize denominator.log2 = low at below below_lt ⊢
  -- far from the difference of the exponents the powers decide alone
  have small (few : power + low < high) : denominator * 2 ^ power ≤ numerator := by
    calc denominator * 2 ^ power ≤ 2 ^ (low + 1) * 2 ^ power := Nat.mul_le_mul_right _ below_lt.le
      _ = 2 ^ (low + 1 + power) := (pow_add ..).symm
      _ ≤ 2 ^ high := Nat.pow_le_pow_right two_pos (by omega)
      _ ≤ numerator := above
  have large (many : high < power + low) : ¬ denominator * 2 ^ power ≤ numerator := by
    refine not_le.mpr ?_
    calc numerator < 2 ^ (high + 1) := above_lt
      _ ≤ 2 ^ (low + power) := Nat.pow_le_pow_right two_pos (by omega)
      _ = 2 ^ low * 2 ^ power := pow_add ..
      _ ≤ denominator * 2 ^ power := Nat.mul_le_mul_right _ below
  rcases lt_trichotomy (power + low) high with few | same | many
  · refine iff_of_true ?_ (small few)
    split_ifs <;> omega
  · have shift : high - low = power := by omega
    have unshifted : low - high = 0 := by omega
    rw [shift, unshifted, Nat.shiftLeft_eq, Nat.shiftLeft_zero]
    split_ifs with reached
    · exact iff_of_true (by omega) reached
    · exact iff_of_false (by omega) reached
  · refine iff_of_false ?_ (large many)
    split_ifs <;> omega

/-- A quotient from 2 ^ 52 on has a whole significand of 53 digits. -/
theorem nearestBinary_of_exponent (some_numerator : numerator ≠ 0) {shift : Nat}
    (exponent : binaryExponent numerator denominator = 52 + shift) :
    nearestBinary numerator denominator =
      { significand := roundHalfEven numerator (denominator * 2 ^ shift), exponent := shift } := by
  have shifted : binaryExponent numerator denominator + 1 - significandDigits = shift := by
    rw [exponent, significandDigits]
    omega
  simp only [nearestBinary, some_numerator, if_false, shifted, Int.toNat_natCast, Nat.shiftLeft_eq]
  simp

/-- The exponent of a quotient that is not below 2 ^ 52, with its bounds. -/
theorem exists_exponent (some_numerator : numerator ≠ 0) (positive : 0 < denominator)
    (large : denominator * 2 ^ 52 ≤ numerator) :
    ∃ shift : Nat, binaryExponent numerator denominator = 52 + shift ∧
      2 ^ 52 * (denominator * 2 ^ shift) ≤ numerator ∧
      numerator < 2 ^ 53 * (denominator * 2 ^ shift) := by
  have least := (le_binaryExponent_iff some_numerator positive 52).mpr large
  obtain ⟨shift, exponent⟩ : ∃ shift : Nat, binaryExponent numerator denominator = 52 + shift :=
    ⟨(binaryExponent numerator denominator - 52).toNat, by omega⟩
  have reached := (le_binaryExponent_iff some_numerator positive (52 + shift)).mp
    (by rw [exponent]; omega)
  have missed := (le_binaryExponent_iff some_numerator positive (53 + shift)).not.mp
    (by rw [exponent]; omega)
  refine ⟨shift, exponent, ?_, ?_⟩
  · calc 2 ^ 52 * (denominator * 2 ^ shift) = denominator * 2 ^ (52 + shift) := by ring
      _ ≤ numerator := reached
  · calc numerator < denominator * 2 ^ (53 + shift) := not_le.mp missed
      _ = 2 ^ 53 * (denominator * 2 ^ shift) := by ring

/-- The middle between a power of two and the last number of 53 digits before it. -/
def lastTie (digits : Nat) : Nat := (2 ^ 54 - 1) * 2 ^ digits

/-- A quotient below 2 ^ 52 stays far below. -/
theorem significand_shiftLeft_le (positive : 0 < denominator)
    (small : numerator < denominator * 2 ^ 52) :
    (nearestBinary numerator denominator).significand <<<
      (nearestBinary numerator denominator).exponent.toNat ≤ 2 ^ 55 := by
  rcases Nat.eq_zero_or_pos numerator with rfl | some_numerator
  · simp [nearestBinary]
  have least := (le_binaryExponent_iff some_numerator.ne' positive 52).not.mpr
    (not_le.mpr small)
  have fraction : (nearestBinary numerator denominator).exponent < 0 := by
    rw [exponent_nearestBinary some_numerator.ne', significandDigits]
    omega
  have unshifted : (nearestBinary numerator denominator).exponent.toNat = 0 := by omega
  rw [unshifted, Nat.shiftLeft_zero]
  exact significand_le_of_exponent_neg positive fraction

/-- Rounding reaches a power of two from the middle before it on. -/
theorem two_pow_le_nearestBinary_iff (positive : 0 < denominator) {digits : Nat}
    (enough : 2 ≤ digits) :
    2 ^ (digits + 54) ≤ (nearestBinary numerator denominator).significand <<<
        (nearestBinary numerator denominator).exponent.toNat ↔
      lastTie digits * denominator ≤ numerator := by
  have unit : 2 ^ 2 ≤ 2 ^ digits := Nat.pow_le_pow_right two_pos enough
  have multiple : 2 ^ 2 * denominator ≤ 2 ^ digits * denominator :=
    Nat.mul_le_mul_right denominator unit
  rw [lastTie, pow_add, Nat.mul_assoc]
  rcases lt_or_ge numerator (denominator * 2 ^ 52) with small | large
  · have bound := significand_shiftLeft_le positive small
    exact iff_of_false (by omega) (by omega)
  have some_numerator : numerator ≠ 0 := by omega
  obtain ⟨shift, exponent, reached, missed⟩ := exists_exponent some_numerator positive large
  have scaled_pos : 0 < denominator * 2 ^ shift := Nat.mul_pos positive (Nat.two_pow_pos shift)
  simp only [nearestBinary_of_exponent some_numerator exponent, Int.toNat_natCast, Nat.shiftLeft_eq]
  rcases lt_trichotomy shift (digits + 1) with few | rfl | many
  · have shift_le : 2 ^ shift ≤ 2 ^ digits := Nat.pow_le_pow_right two_pos (Nat.le_of_lt_succ few)
    have scaled_le := Nat.mul_le_mul_left denominator shift_le
    have rounded := Nat.mul_le_mul (roundHalfEven_le scaled_pos missed.le) shift_le
    rw [Nat.mul_comm denominator (2 ^ digits)] at scaled_le
    exact iff_of_false (by omega) (by omega)
  · have power : 2 ^ (digits + 1) = 2 * 2 ^ digits := pow_succ' 2 digits
    rw [power] at scaled_pos ⊢
    have reaches : 2 ^ digits * 2 ^ 54 = 2 ^ 53 * (2 * 2 ^ digits) := by ring
    rw [reaches, Nat.mul_le_mul_right_iff (by omega), le_roundHalfEven_iff scaled_pos (by norm_num),
      Nat.mul_left_comm denominator, Nat.mul_comm denominator]
    omega
  · have le_shift : 4 * 2 ^ digits ≤ 2 ^ shift := by
      calc 4 * 2 ^ digits = 2 ^ (digits + 2) := by ring
        _ ≤ 2 ^ shift := Nat.pow_le_pow_right two_pos many
    refine iff_of_true ?_ ?_
    · calc 2 ^ digits * 2 ^ 54 = 2 ^ 52 * (4 * 2 ^ digits) := by ring
        _ ≤ _ := Nat.mul_le_mul (le_roundHalfEven scaled_pos reached) le_shift
    · calc (2 ^ 54 - 1) * (2 ^ digits * denominator) ≤ 2 ^ 54 * (2 ^ digits * denominator) :=
            Nat.mul_le_mul_right _ (Nat.sub_le ..)
        _ = 2 ^ 52 * (denominator * (4 * 2 ^ digits)) := by ring
        _ ≤ 2 ^ 52 * (denominator * 2 ^ shift) :=
            Nat.mul_le_mul_left _ (Nat.mul_le_mul_left denominator le_shift)
        _ ≤ numerator := reached

/-- A number without fractions is its own whole number, and fractions are cut down. -/
theorem Binary.round_le (number : Binary) :
    number.round ≤ number.significand <<< number.exponent.toNat := by
  have one_le : 1 ≤ 1 <<< (-number.exponent).toNat := by
    rw [Nat.one_shiftLeft]
    exact Nat.one_le_two_pow
  exact roundHalfEven_le one_le (Nat.le_mul_of_pos_right _ one_le)

/-- What is rounded to less than a power of two is rounded to less than the middle before it. -/
theorem round_nearestBinary_lt (positive : 0 < denominator) {digits : Nat} (enough : 2 ≤ digits)
    (below : (nearestBinary numerator denominator).significand <<<
      (nearestBinary numerator denominator).exponent.toNat < 2 ^ (digits + 54)) :
    (nearestBinary numerator denominator).round < lastTie digits := by
  refine lt_of_le_of_lt (Binary.round_le _) ?_
  have unit : 2 ^ 2 ≤ 2 ^ digits := Nat.pow_le_pow_right two_pos enough
  rw [lastTie]
  rcases lt_or_ge numerator (denominator * 2 ^ 52) with small | large
  · have bound := significand_shiftLeft_le positive small
    omega
  have some_numerator : numerator ≠ 0 := by omega
  obtain ⟨shift, exponent, -, missed⟩ := exists_exponent some_numerator positive large
  have scaled_pos : 0 < denominator * 2 ^ shift := Nat.mul_pos positive (Nat.two_pow_pos shift)
  simp only [nearestBinary_of_exponent some_numerator exponent, Int.toNat_natCast,
    Nat.shiftLeft_eq] at below ⊢
  rcases Nat.lt_or_ge digits shift with many | few
  · -- the number is an even multiple of the unit
    obtain ⟨further, rfl⟩ := Nat.exists_eq_add_of_lt many
    generalize roundHalfEven numerator (denominator * 2 ^ (digits + further + 1)) = significand
      at below ⊢
    have multiple : significand * 2 ^ (digits + further + 1) =
        2 * (significand * 2 ^ further) * 2 ^ digits := by ring
    have limit : 2 ^ (digits + 54) = 2 ^ 54 * 2 ^ digits := by ring
    rw [multiple, limit, Nat.mul_lt_mul_right (Nat.two_pow_pos digits)] at below
    rw [multiple, Nat.mul_lt_mul_right (Nat.two_pow_pos digits)]
    omega
  · have shift_le : 2 ^ shift ≤ 2 ^ digits := Nat.pow_le_pow_right two_pos few
    have rounded := Nat.mul_le_mul (roundHalfEven_le scaled_pos missed.le) shift_le
    omega

end

end MonitorSplit
