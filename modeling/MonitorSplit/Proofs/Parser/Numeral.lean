/-
Module: MonitorSplit.Proofs.Parser.Numeral
Purpose: The numeral parser in terms of the number that its digits denote.
Main exports:
  fieldValue, toDigits_fieldValue, Parser.numeral_eq, Parser.LongestRun, Parser.ByValue,
  Parser.numeral_byValue
-/
import Mathlib
import MonitorSplit.Parser.Numeral
import MonitorSplit.Proofs.Text.Decimal

namespace MonitorSplit

/-!
### Long numerals

A numeral is refused by its length before it is evaluated.  Past the leading zeros a run of
more than ten digits denotes at least the tenth power of ten, so the length alone never
refuses a numeral that its value would admit.
-/

/-- The number that digits denote in base ten; zero if there are none. -/
def fieldValue (digits : List Char) : Nat := Nat.ofDigitChars 10 digits 0

theorem fieldValue_cons (c : Char) (rest : List Char) :
    fieldValue (c :: rest) = 10 ^ rest.length * (c.toNat - '0'.toNat) + fieldValue rest := by
  rw [fieldValue, Nat.ofDigitChars_cons, Nat.ofDigitChars_eq_ofDigitChars_zero, Nat.mul_zero,
    Nat.zero_add, fieldValue]

/-- Leading zeros do not count. -/
theorem fieldValue_dropWhile_zero (digits : List Char) :
    fieldValue (digits.dropWhile (· = '0')) = fieldValue digits := by
  induction digits with
  | nil => rfl
  | cons c rest inductionHypothesis =>
      by_cases zero : c = '0'
      · subst zero
        simp [fieldValue_cons, inductionHypothesis]
      · simp [zero]

/-- A number has as many digits as it is written with, if the first is not zero. -/
theorem pow_length_le_fieldValue {c : Char} {rest : List Char} (plain : Text.isPlainDigit c = true)
    (nonzero : c ≠ '0') : 10 ^ rest.length ≤ fieldValue (c :: rest) := by
  have digit_pos : 1 ≤ c.toNat - '0'.toNat := by
    have lower : '0'.toNat ≤ c.toNat := by
      simp only [Text.isPlainDigit, Bool.and_eq_true, decide_eq_true_eq, Char.le_def,
        UInt32.le_iff_toNat_le] at plain
      exact plain.1
    have differ : '0'.toNat ≠ c.toNat := fun same => nonzero (Char.toNat_inj.mp same.symm)
    omega
  calc 10 ^ rest.length
      = 10 ^ rest.length * 1 := (Nat.mul_one _).symm
    _ ≤ 10 ^ rest.length * (c.toNat - '0'.toNat) := by gcongr
    _ ≤ fieldValue (c :: rest) := by rw [fieldValue_cons]; exact Nat.le_add_right _ _

/-- The digits of a number that does not begin with zero are those it is written with. -/
theorem toDigits_fieldValue {c : Char} {rest : List Char}
    (plain : ∀ d ∈ c :: rest, Text.isPlainDigit d = true) (nonzero : c ≠ '0') :
    Nat.toDigits 10 (fieldValue (c :: rest)) = c :: rest := by
  have digit {d : Char} (member : d ∈ c :: rest) :
      d.toNat - '0'.toNat < 10 ∧ (d.toNat - '0'.toNat).digitChar = d := by
    have bounds : '0'.toNat ≤ d.toNat ∧ d.toNat ≤ '9'.toNat := by
      simpa [Text.isPlainDigit, Char.le_def, UInt32.le_iff_toNat_le] using plain d member
    have small : d.toNat - '0'.toNat < 10 := by
      have width : '9'.toNat = '0'.toNat + 9 := rfl
      omega
    refine ⟨small, Char.toNat_inj.mp ?_⟩
    rw [Nat.toNat_digitChar_of_lt_ten small]
    exact Nat.add_sub_cancel' bounds.1
  induction rest using List.reverseRecOn with
  | nil =>
      obtain ⟨small, written⟩ := digit List.mem_cons_self
      rw [fieldValue_cons, fieldValue, Nat.ofDigitChars_nil, List.length_nil, Nat.pow_zero,
        Nat.one_mul, Nat.add_zero, Nat.toDigits_of_lt_base small, written]
  | append_singleton front last inductionHypothesis =>
      have front_plain : ∀ d ∈ c :: front, Text.isPlainDigit d = true := fun d member =>
        plain d (by rw [← List.cons_append]; exact List.mem_append_left _ member)
      obtain ⟨small, written⟩ := digit (show last ∈ c :: (front ++ [last]) by simp)
      have positive : 0 < fieldValue (c :: front) := calc
        0 < 10 ^ front.length := Nat.pow_pos (by decide)
        _ ≤ fieldValue (c :: front) :=
          pow_length_le_fieldValue (front_plain c List.mem_cons_self) nonzero
      have value : fieldValue (c :: (front ++ [last])) =
          10 * fieldValue (c :: front) + (last.toNat - '0'.toNat) := by
        rw [← List.cons_append, fieldValue, Nat.ofDigitChars_append, Nat.ofDigitChars_cons,
          Nat.ofDigitChars_nil, fieldValue]
      have front_digits := inductionHypothesis front_plain fun member =>
        digit (by rw [← List.cons_append]; exact List.mem_append_left _ member)
      rw [value, ← Nat.toDigits_append_toDigits (by decide) positive small, front_digits,
        Nat.toDigits_of_lt_base small, written, List.cons_append]

theorem largestNumeral_lt_of_length {digits : List Char}
    (plain : ∀ c ∈ digits, Text.isPlainDigit c = true)
    (long : largestNumeralDigits < (digits.dropWhile (· = '0')).length) :
    largestNumeral < fieldValue digits := by
  rw [← fieldValue_dropWhile_zero]
  cases significant : digits.dropWhile (· = '0') with
  | nil => simp [significant] at long
  | cons c rest =>
      have member : c ∈ digits :=
        (List.dropWhile_sublist _).subset (significant ▸ List.mem_cons_self)
      have nonzero : c ≠ '0' := by
        simpa [significant] using List.head_dropWhile_not (· = '0') (l := digits) (by simp [significant])
      rw [significant, List.length_cons, largestNumeralDigits] at long
      calc largestNumeral
          < 10 ^ 10 := by decide
        _ ≤ 10 ^ rest.length := Nat.pow_le_pow_right (by decide) (by omega)
        _ ≤ fieldValue (c :: rest) := pow_length_le_fieldValue (plain c member) nonzero

namespace Parser

/-- A numeral is the maximal run of plain digits, unless there are none or their number is
too large. -/
theorem numeral_eq (text : List Char) :
    numeral text =
      let digits := text.takeWhile Text.isPlainDigit
      if digits = [] then .error { defect := .noDigit, remaining := text }
      else if largestNumeral < fieldValue digits then
        .error { defect := .tooLarge, remaining := text }
      else .ok (fieldValue digits, text.dropWhile Text.isPlainDigit) := by
  have plain : ∀ c ∈ text.takeWhile Text.isPlainDigit, Text.isPlainDigit c = true :=
    fun c member => List.mem_takeWhile_imp member
  have value : Text.decimalValue ((text.takeWhile Text.isPlainDigit).dropWhile (· = '0')) =
      fieldValue (text.takeWhile Text.isPlainDigit) := by
    rw [← fieldValue_dropWhile_zero]
    exact Text.decimalValue_eq_ofDigitChars fun c member =>
      plain c ((List.dropWhile_sublist _).subset member)
  have refused : largestNumeralDigits <
        ((text.takeWhile Text.isPlainDigit).dropWhile (· = '0')).length ∨
        largestNumeral < fieldValue (text.takeWhile Text.isPlainDigit) ↔
      largestNumeral < fieldValue (text.takeWhile Text.isPlainDigit) :=
    or_iff_right_of_imp (largestNumeral_lt_of_length plain)
  simp only [numeral, value, refused]

/-!
### Numerals by their value

The number of digits decides nothing that the value would not.  This holds of runs of any length
and with any number of zeros before them.
-/

/-- The longest start of a text that consists of plain digits. -/
structure LongestRun (text digits : List Char) : Prop where
  starts : digits <+: text
  plain : ∀ c ∈ digits, Text.isPlainDigit c = true
  longest : ∀ other, other <+: text → (∀ c ∈ other, Text.isPlainDigit c = true) → other <+: digits

/-- What a text comes to that begins with just these digits, by the number that they denote. -/
inductive ByValue (text digits rest : List Char) : Except ParseError (Nat × List Char) → Prop where
  /-- Without digits the error is recoverable. -/
  | missing {error : ParseError} (noDigit : digits = []) (soft : error.isFinal = false)
      (code : error.defect.code = "Digit") (place : error.remaining = text) :
      ByValue text digits rest (.error error)
  /-- A number past 32 binary digits is an error for good. -/
  | tooLarge {error : ParseError} (large : 2 ^ 32 ≤ fieldValue digits)
      (final : error.isFinal = true) (code : error.defect.code = "TooLarge")
      (place : error.remaining = text) :
      ByValue text digits rest (.error error)
  /-- Every other number is read, and the text behind its digits is left. -/
  | value (some_digit : digits ≠ []) (small : fieldValue digits < 2 ^ 32) :
      ByValue text digits rest (.ok (fieldValue digits, rest))

theorem longestRun_takeWhile (text : List Char) :
    LongestRun text (text.takeWhile Text.isPlainDigit) where
  starts := List.takeWhile_prefix _
  plain _ member := List.mem_takeWhile_imp member
  longest := by
    rintro other ⟨rest, rfl⟩ plain
    rw [List.takeWhile_append_of_pos plain]
    exact List.prefix_append _ _

/-- A numeral is read from the longest run of digits at the start of a text, and its outcome is the
one by the value of that run. -/
theorem numeral_byValue (text : List Char) :
    ∃ digits rest, LongestRun text digits ∧ text = digits ++ rest ∧
      ByValue text digits rest (numeral text) := by
  refine ⟨text.takeWhile Text.isPlainDigit, text.dropWhile Text.isPlainDigit,
    longestRun_takeWhile text, List.takeWhile_append_dropWhile.symm, ?_⟩
  rw [numeral_eq]
  dsimp only
  split_ifs with missing large
  · exact .missing missing rfl rfl rfl
  · exact .tooLarge large rfl rfl rfl
  · exact .value missing (Nat.lt_succ_of_le (not_lt.mp large))

/-- Zeros do not count, also where the digits behind them are as many as may be. -/
example : numeral "0004294967295x".toList = .ok (4294967295, ['x']) ∧
    numeral "0004294967296x".toList =
      .error { defect := .tooLarge, remaining := "0004294967296x".toList } := by
  constructor <;> cbv

end Parser

end MonitorSplit
