/-
Module: MonitorSplit.Proofs.Text.Decimal
Purpose: Plain digits among the digits of all scripts, and the digits that numbers are written in.
Main exports:
  Text.decimalValue_eq_ofDigitChars, Text.decimalValue_lt, Text.decimalValue_toDigits,
  toList_toString_nat, toList_toString_int
-/
import Mathlib.Data.Nat.Digits.Defs
import Mathlib.Tactic.Ring
import MonitorSplit.Text.Digit

namespace MonitorSplit

namespace Text

/-!
### Plain digits

The table of digits begins with the zero of the basic Latin block, so a plain digit is
found there first and has its usual value.
-/

/-- The plain digits are the digits of the library. -/
theorem isPlainDigit_eq_isDigit (c : Char) : isPlainDigit c = c.isDigit := by
  simp [isPlainDigit, Char.isDigit, Char.le_def]

/-- A plain digit has its usual value. -/
theorem digitValue?_of_isPlainDigit {c : Char} (plain : isPlainDigit c = true) :
    digitValue? c = some (c.toNat - '0'.toNat) := by
  have bounds : 0x30 ≤ c.toNat ∧ c.toNat ≤ 0x39 := by
    simpa [isPlainDigit, Char.le_def, UInt32.le_iff_toNat_le] using plain
  have first : (0x30 ≤ c.toNat && c.toNat < 0x30 + 10) = true := by
    simp only [Bool.and_eq_true, decide_eq_true_eq]
    omega
  simp only [digitValue?, digitZeros, List.find?_cons, first, Option.map_some]
  rfl

theorem isDigit_of_isPlainDigit {c : Char} (plain : isPlainDigit c = true) : isDigit c = true := by
  simp [isDigit, digitValue?_of_isPlainDigit plain]

/-- A run of plain digits denotes its number in base ten. -/
theorem decimalValue_eq_ofDigitChars {digits : List Char}
    (plain : ∀ c ∈ digits, isPlainDigit c = true) :
    decimalValue digits = Nat.ofDigitChars 10 digits 0 := by
  -- the values so far agree at every digit, whatever they are
  suffices same : ∀ value, digits.foldl (fun value c => 10 * value + (digitValue? c).getD 0) value =
      Nat.ofDigitChars 10 digits value from same 0
  induction digits with
  | nil => exact fun value => rfl
  | cons c rest inductionHypothesis =>
      intro value
      obtain ⟨head, tail⟩ := List.forall_mem_cons.mp plain
      rw [List.foldl_cons, Nat.ofDigitChars_cons, digitValue?_of_isPlainDigit head]
      exact inductionHypothesis tail _

/-!
### Digits of every script
-/

/-- A digit of any script is worth less than ten. -/
theorem digitValue?_lt {c : Char} {value : Nat} (digit : digitValue? c = some value) : value < 10 := by
  obtain ⟨first, found, rfl⟩ := Option.map_eq_some_iff.mp digit
  have bounds := List.find?_some found
  simp only [Bool.and_eq_true, decide_eq_true_eq] at bounds
  omega

/-- So many digits denote a number below that power of ten. -/
theorem decimalValue_lt (digits : List Char) : decimalValue digits < 10 ^ digits.length := by
  -- every digit makes at most ten times the value so far and nine of it
  suffices bound : ∀ value, digits.foldl (fun value c => 10 * value + (digitValue? c).getD 0) value <
      (value + 1) * 10 ^ digits.length from (bound 0).trans_eq (by rw [Nat.zero_add, Nat.one_mul])
  induction digits with
  | nil => simp
  | cons c rest inductionHypothesis =>
      intro value
      have digit : (digitValue? c).getD 0 < 10 := by
        cases found : digitValue? c with
        | none => exact Nat.zero_lt_succ 9
        | some given => exact digitValue?_lt found
      calc _ < (10 * value + (digitValue? c).getD 0 + 1) * 10 ^ rest.length := inductionHypothesis _
        _ ≤ (10 * (value + 1)) * 10 ^ rest.length := Nat.mul_le_mul_right _ (by omega)
        _ = (value + 1) * 10 ^ (c :: rest).length := by rw [List.length_cons]; ring

/-!
### Written numbers
-/

/-- A number is written in plain digits. -/
theorem isPlainDigit_of_mem_toDigits {number : Nat} {c : Char}
    (member : c ∈ Nat.toDigits 10 number) : isPlainDigit c = true := by
  rw [isPlainDigit_eq_isDigit]
  exact Nat.isDigit_of_mem_toDigits (by decide) (by decide) member

/-- The digits of a number denote it. -/
theorem decimalValue_toDigits (number : Nat) : decimalValue (Nat.toDigits 10 number) = number := by
  rw [decimalValue_eq_ofDigitChars fun c member => isPlainDigit_of_mem_toDigits member,
    Nat.ofDigitChars_ten_toDigits]

end Text

theorem toList_toString_nat (number : Nat) : (toString number).toList = Nat.toDigits 10 number := by
  rw [Nat.toString_eq_ofList_toDigits, String.toList_ofList]

/-- An integer is written as its digits, after a minus sign if it is negative. -/
theorem toList_toString_int (number : Int) :
    (toString number).toList =
      if 0 ≤ number then Nat.toDigits 10 number.toNat else '-' :: Nat.toDigits 10 (-number).toNat := by
  rw [Int.toString_eq_repr, Int.repr_eq_if]
  split <;> simp [Nat.repr_eq_ofList_toDigits]

end MonitorSplit
