/-
Module: MonitorSplit.Proofs.Monitor.Millimetres
Purpose: Which shares of millimetres there are, their bounds, and shares taken back to the whole.
Main exports:
  shareLimit, NoShare, exists_proportion_eq_error_iff, bounds_of_proportion, proportion_lt_shareLimit,
  lastTie_le_pow, exists_proportion_back, both_eq_ok_iff, exists_error_of_both_iff
-/
import MonitorSplit.Monitor.Millimetres
import MonitorSplit.Proofs.Number.Nearest

namespace MonitorSplit

/-!
### The limit

A quotient is too large from the middle on between the limit and the last number before it.
-/

/-- The middle between the limit and the last number before it. -/
def shareLimit : Nat := lastTie 970

/-- The limit has more than a thousand binary digits. -/
theorem exists_limit_eq :
    ∃ digits, 949 < digits ∧ quotientLimit = 2 ^ (digits + 54) ∧ shareLimit = lastTie digits := by
  obtain ⟨digits, many, limit, middle⟩ : ∃ digits, 949 < digits ∧
      quotientLimit = 1 <<< (digits + 54) ∧ shareLimit = lastTie digits :=
    ⟨970, by decide, rfl, rfl⟩
  exact ⟨digits, many, limit.trans (Nat.one_shiftLeft _), middle⟩

theorem quotientLimit_le_iff {numerator denominator : Nat} (positive : 0 < denominator) :
    quotientLimit ≤ (nearestBinary numerator denominator).significand <<<
        (nearestBinary numerator denominator).exponent.toNat ↔
      shareLimit * denominator ≤ numerator := by
  obtain ⟨digits, enough, limit, middle⟩ := exists_limit_eq
  rw [limit, middle]
  exact two_pow_le_nearestBinary_iff positive (by omega)

/-- A decimal digit says more than a binary one. -/
theorem lastTie_le_pow {places digits : Nat} (many : 54 + places ≤ digits) :
    lastTie places ≤ 10 ^ digits := by
  calc lastTie places ≤ 2 ^ 54 * 2 ^ places := Nat.mul_le_mul_right _ (Nat.sub_le _ 1)
    _ = 2 ^ (54 + places) := (pow_add 2 54 places).symm
    _ ≤ 10 ^ (54 + places) := Nat.pow_le_pow_left (by decide) _
    _ ≤ 10 ^ digits := Nat.pow_le_pow_right (by decide) many

theorem quotientLimit_le_two_mul : quotientLimit ≤ 2 * shareLimit := by
  obtain ⟨digits, -, limit, middle⟩ := exists_limit_eq
  rw [limit, middle, lastTie, pow_add]
  omega

/-!
### Shares
-/

/-- A part has no share of millimetres if the whole has no length or the share reaches the limit. -/
def NoShare (millimetres part whole : Int) : Prop :=
  millimetres ≠ 0 ∧ (whole = 0 ∨ shareLimit * whole ≤ millimetres * part)

instance (millimetres part whole : Int) : Decidable (NoShare millimetres part whole) :=
  inferInstanceAs (Decidable (_ ∧ _))

section

variable {millimetres part whole share : Int}

/-- Just then its millimetres cannot be told. -/
theorem exists_proportion_eq_error_iff (millimetres_nonneg : 0 ≤ millimetres)
    (part_nonneg : 0 ≤ part) (whole_nonneg : 0 ≤ whole) :
    (∃ fault, proportion millimetres part whole = .error fault) ↔
      NoShare millimetres part whole := by
  have reached_iff (some_length : whole ≠ 0) :
      quotientLimit ≤ (nearestBinary (millimetres * part).natAbs whole.natAbs).significand <<<
          (nearestBinary (millimetres * part).natAbs whole.natAbs).exponent.toNat ↔
        shareLimit * whole ≤ millimetres * part := by
    rw [quotientLimit_le_iff (Int.natAbs_pos.mpr some_length), ← Int.ofNat_le, Int.natCast_mul,
      Int.natAbs_of_nonneg whole_nonneg,
      Int.natAbs_of_nonneg (mul_nonneg millimetres_nonneg part_nonneg)]
  unfold proportion
  dsimp only
  split_ifs with none_known no_length too_large
  · exact iff_of_false (by rintro ⟨_, ⟨⟩⟩) fun unshared => unshared.1 none_known
  · exact iff_of_true ⟨_, rfl⟩ ⟨none_known, .inl no_length⟩
  · exact iff_of_true ⟨_, rfl⟩ ⟨none_known, .inr ((reached_iff no_length).mp too_large)⟩
  all_goals
    refine iff_of_false (by rintro ⟨_, ⟨⟩⟩) ?_
    rintro ⟨-, zero | reached⟩
    · exact no_length zero
    · exact too_large ((reached_iff no_length).mpr reached)

/-- A share that can be told is the quotient rounded twice. -/
theorem eq_round_of_proportion (millimetres_nonneg : 0 ≤ millimetres) (part_nonneg : 0 ≤ part)
    (whole_pos : 0 < whole) (success : proportion millimetres part whole = .ok share) :
    share = (nearestBinary (millimetres * part).natAbs whole.natAbs).round := by
  unfold proportion at success
  dsimp only at success
  split_ifs at success with none_known zero_whole too_large same_sign
  · rw [none_known, zero_mul, Int.natAbs_zero, round_nearestBinary_zero]
    exact (Except.ok.inj success).symm
  · exact (Except.ok.inj success).symm
  · exact absurd (propext ⟨fun below => absurd below (mul_nonneg millimetres_nonneg part_nonneg).not_gt,
      fun below => absurd below whole_pos.not_gt⟩) same_sign

/-- The share of a part is at most four times what it is without rounding. -/
theorem bounds_of_proportion (millimetres_nonneg : 0 ≤ millimetres) (part_nonneg : 0 ≤ part)
    (whole_pos : 0 < whole) (success : proportion millimetres part whole = .ok share) :
    0 ≤ share ∧ share * whole ≤ 4 * (millimetres * part) := by
  have rounded := round_nearestBinary_mul_le (millimetres * part).natAbs whole.natAbs
  have scaled : ((nearestBinary (millimetres * part).natAbs whole.natAbs).round : Int) *
      (whole.natAbs : Int) ≤ 4 * ((millimetres * part).natAbs : Int) := by exact_mod_cast rounded
  rw [Int.natAbs_of_nonneg whole_pos.le,
    Int.natAbs_of_nonneg (mul_nonneg millimetres_nonneg part_nonneg)] at scaled
  rw [eq_round_of_proportion millimetres_nonneg part_nonneg whole_pos success]
  exact ⟨Int.natCast_nonneg _, scaled⟩

/-- No share is negative. -/
theorem nonneg_of_proportion (millimetres_nonneg : 0 ≤ millimetres) (part_nonneg : 0 ≤ part)
    (whole_nonneg : 0 ≤ whole) (success : proportion millimetres part whole = .ok share) :
    0 ≤ share := by
  rcases whole_nonneg.eq_or_lt with rfl | whole_pos
  · unfold proportion at success
    split at success
    · exact (Except.ok.inj success).le
    · cases success
  · exact (bounds_of_proportion millimetres_nonneg part_nonneg whole_pos success).1

/-- A part without length has no millimetre. -/
theorem eq_zero_of_proportion (millimetres_nonneg : 0 ≤ millimetres) (whole_pos : 0 < whole)
    (success : proportion millimetres 0 whole = .ok share) : share = 0 := by
  rw [eq_round_of_proportion millimetres_nonneg le_rfl whole_pos success, mul_zero,
    Int.natAbs_zero, round_nearestBinary_zero, Nat.cast_zero]

/-- A share that can be told does not reach the limit. -/
theorem proportion_lt_shareLimit (success : proportion millimetres part whole = .ok share) :
    share < shareLimit := by
  obtain ⟨digits, enough, limit, middle⟩ := exists_limit_eq
  have middle_pos : 0 < shareLimit := by
    rw [middle, lastTie]
    exact Nat.mul_pos (by norm_num) (Nat.two_pow_pos digits)
  unfold proportion at success
  dsimp only at success
  split_ifs at success with none_known no_length too_large same_sign
  · obtain rfl := Except.ok.inj success
    exact_mod_cast middle_pos
  · obtain rfl := Except.ok.inj success
    rw [limit, not_le] at too_large
    have below := round_nearestBinary_lt (Int.natAbs_pos.mpr no_length) (by omega) too_large
    rw [← middle] at below
    exact_mod_cast below
  · obtain rfl := Except.ok.inj success
    have share_nonneg : (0 : Int) ≤ (nearestBinary (millimetres * part).natAbs whole.natAbs).round :=
      Int.natCast_nonneg _
    have limit_pos : (0 : Int) < shareLimit := by exact_mod_cast middle_pos
    omega

/-- A part that is not longer than the whole has a share, unless there is no length at all. -/
theorem noShare_iff_of_le (millimetres_nonneg : 0 ≤ millimetres) (small : millimetres < shareLimit)
    (part_le : part ≤ whole) (whole_nonneg : 0 ≤ whole) :
    NoShare millimetres part whole ↔ millimetres ≠ 0 ∧ whole = 0 := by
  constructor
  · rintro ⟨known, no_length | reached⟩
    · exact ⟨known, no_length⟩
    · refine ⟨known, whole_nonneg.eq_of_not_lt' fun whole_pos => not_le.mpr ?_ reached⟩
      calc millimetres * part ≤ millimetres * whole :=
            mul_le_mul_of_nonneg_left part_le millimetres_nonneg
        _ < shareLimit * whole := mul_lt_mul_of_pos_right small whole_pos
  · rintro ⟨known, no_length⟩
    exact ⟨known, .inl no_length⟩

/-- A share of less than half the limit can be told. -/
theorem exists_proportion (millimetres_nonneg : 0 ≤ millimetres) (part_nonneg : 0 ≤ part)
    (whole_pos : 0 < whole) (bound : 2 * (millimetres * part) < quotientLimit * whole) :
    ∃ share, proportion millimetres part whole = .ok share := by
  cases outcome : proportion millimetres part whole with
  | ok share => exact ⟨share, rfl⟩
  | error fault =>
      obtain ⟨-, no_length | reached⟩ :=
        (exists_proportion_eq_error_iff millimetres_nonneg part_nonneg whole_pos.le).mp ⟨fault, outcome⟩
      · exact absurd no_length whole_pos.ne'
      · have limit : (quotientLimit : Int) * whole ≤ 2 * shareLimit * whole :=
          mul_le_mul_of_nonneg_right (by exact_mod_cast quotientLimit_le_two_mul) whole_pos.le
        rw [mul_assoc] at limit
        omega

/-- Three decimal digits take no more than ten binary ones. -/
theorem eight_mul_pow_lt {places groups digits : Nat} (grouped : places = 3 * groups)
    (enough : 3 + 10 * groups < digits) : 8 * 10 ^ places < 2 ^ digits := by
  have group : 10 ^ 3 ≤ 2 ^ 10 := by decide
  calc 8 * 10 ^ places = 2 ^ 3 * (10 ^ 3) ^ groups := by rw [grouped, pow_mul]; rfl
    _ ≤ 2 ^ 3 * (2 ^ 10) ^ groups := Nat.mul_le_mul_left _ (Nat.pow_le_pow_left group groups)
    _ = 2 ^ (3 + 10 * groups) := by rw [pow_add, pow_mul]
    _ < 2 ^ digits := Nat.pow_lt_pow_right one_lt_two enough

theorem eight_mul_pow_lt_quotientLimit : (8 * 10 ^ 300 : Int) < quotientLimit := by
  obtain ⟨digits, enough, limit, -⟩ := exists_limit_eq
  have grouped : 300 = 3 * 100 := rfl
  have lengths : 8 * 10 ^ 300 < quotientLimit := by
    rw [limit]
    exact eight_mul_pow_lt grouped (by omega)
  exact_mod_cast lengths

/-- Millimetres of three hundred decimal digits do not reach the limit. -/
theorem lt_shareLimit_of_lt (small : millimetres < 10 ^ 300) : millimetres < shareLimit := by
  have eight := eight_mul_pow_lt_quotientLimit
  have two : (quotientLimit : Int) ≤ 2 * shareLimit := by exact_mod_cast quotientLimit_le_two_mul
  generalize (quotientLimit : Int) = limit at eight two
  generalize (shareLimit : Int) = middle at two ⊢
  have bound_pos : (0 : Int) < 10 ^ 300 := by positivity
  generalize (10 ^ 300 : Int) = bound at small eight bound_pos
  omega

/-- The share of a part can be taken back to the whole: a whole so much longer than its part
that the quotient gets too large leaves the part no millimetre. -/
theorem exists_proportion_back (millimetres_nonneg : 0 ≤ millimetres)
    (millimetres_lt : millimetres < 10 ^ 300) (part_nonneg : 0 ≤ part) (whole_pos : 0 < whole)
    (success : proportion millimetres part whole = .ok share) :
    ∃ back, proportion share whole part = .ok back := by
  obtain ⟨share_nonneg, share_le⟩ :=
    bounds_of_proportion millimetres_nonneg part_nonneg whole_pos success
  rcases part_nonneg.eq_or_lt with rfl | part_pos
  · have no_share := eq_zero_of_proportion millimetres_nonneg whole_pos success
    exact ⟨0, by simp [proportion, no_share]⟩
  · refine exists_proportion share_nonneg whole_pos.le part_pos ?_
    calc 2 * (share * whole) ≤ 2 * (4 * (millimetres * part)) := by omega
      _ = 8 * millimetres * part := by ring
      _ < quotientLimit * part := by
          have far : 8 * millimetres < 8 * 10 ^ 300 :=
            mul_lt_mul_of_pos_left millimetres_lt (by decide)
          exact mul_lt_mul_of_pos_right (far.trans eight_mul_pow_lt_quotientLimit) part_pos

end

/-!
### Two shares

A monitor has a share on each of two axes, and what is made of both fails as soon as one is missing.
-/

section

variable {ε α β γ : Type} {first : Except ε α} {second : Except ε β} {combine : α → β → γ}

theorem both_eq_ok_iff {result : γ} :
    (do let one ← first; let other ← second; return combine one other) = .ok result ↔
      ∃ one other, first = .ok one ∧ second = .ok other ∧ result = combine one other := by
  cases first <;> cases second <;> simp [bind, Except.bind, pure, Except.pure, eq_comm]

theorem exists_error_of_both_iff :
    (∃ cause, (do let one ← first; let other ← second; return combine one other) = .error cause) ↔
      (∃ cause, first = .error cause) ∨ ∃ cause, second = .error cause := by
  cases first <;> cases second <;> simp [bind, Except.bind, pure, Except.pure]

end

end MonitorSplit
