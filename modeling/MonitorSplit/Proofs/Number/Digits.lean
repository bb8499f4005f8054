/-
Module: MonitorSplit.Proofs.Number.Digits
Purpose: Which integers are short enough to be written, and texts made up of written ones.
Main exports:
  digitCount_le_iff, writable_iff, Writable.of_bounds, longest, joinWritten_congr, joinWritten_eq
-/
import MonitorSplit.Number.Digits
import MonitorSplit.Proofs.Text.Decimal

namespace MonitorSplit

/-!
### Numbers of digits
-/

/-- An integer has at most so many digits just if it is below that power of ten. -/
theorem digitCount_le_iff {number : Int} {bound : Nat} (positive : 0 < bound) :
    digitCount number ≤ bound ↔ number.natAbs < 10 ^ bound := by
  constructor
  · intro few
    have below := Text.decimalValue_lt (Nat.toDigits 10 number.natAbs)
    rw [Text.decimalValue_toDigits] at below
    exact below.trans_le (Nat.pow_le_pow_right (by decide) few)
  · exact Nat.toDigits_length 10 _ _ positive

theorem writable_iff {number : Int} : Writable number ↔ number.natAbs < 10 ^ mostDigits :=
  digitCount_le_iff (by decide)

/-- A number between two others that can be written can be written. -/
theorem Writable.of_bounds {number low high : Int} (lower : Writable low) (upper : Writable high)
    (above : low ≤ number) (below : number ≤ high) : Writable number := by
  rw [writable_iff] at lower upper ⊢
  omega

/-- The greatest integer that can be written: nothing but nines. -/
def longest : Int := 10 ^ mostDigits - 1

theorem longest_eq : longest = ((10 ^ mostDigits : Nat) : Int) - 1 := by
  rw [longest, Nat.cast_pow, Nat.cast_ofNat]

theorem not_writable_of_longest_lt {number : Int} (greater : longest < number) :
    ¬ Writable number := by
  rw [writable_iff, not_lt]
  have power := longest_eq
  omega

theorem longest_pos : 0 < longest := by
  have power : 10 ^ 1 ≤ 10 ^ mostDigits := Nat.pow_le_pow_right (by decide) (by decide)
  have same := longest_eq
  omega

/-- Twice the nines end in an eight behind a nine. -/
theorem not_four_dvd_longest_add_longest : ¬ (4 : Int) ∣ longest + longest := by
  have hundreds : (10 ^ 2 : Int) ∣ 10 ^ mostDigits := pow_dvd_pow 10 (by decide)
  rw [longest]
  omega

/-!
### Texts of several values
-/

/-- Values that are written alike one by one are written alike as lists. -/
theorem joinWritten_congr {α β : Type} {mark : Char} {write : α → Except DigitFault (List Char)}
    {writeOther : β → Except DigitFault (List Char)} {values : List α} {others : List β}
    (each : List.Forall₂ (fun value other => write value = writeOther other) values others) :
    joinWritten mark write values = joinWritten mark writeOther others := by
  suffices gathered : values.mapM write = others.mapM writeOther by
    rw [joinWritten, joinWritten, gathered]
  induction each with
  | nil => rfl
  | cons head _ inductionHypothesis =>
      rw [List.mapM_cons, List.mapM_cons, head, inductionHypothesis]

/-- If each value has a text unless it is too long, then so has a list of them. -/
theorem joinWritten_eq {α : Type} {mark : Char} {write : α → Except DigitFault (List Char)}
    {short : α → Prop} [DecidablePred short] {text : α → List Char}
    (each : ∀ value, write value = if short value then .ok (text value) else .error .toWrite)
    (values : List α) :
    joinWritten mark write values =
      if ∀ value ∈ values, short value then .ok (List.intercalate [mark] (values.map text))
      else .error .toWrite := by
  suffices gathered : values.mapM write =
      if ∀ value ∈ values, short value then .ok (values.map text) else .error .toWrite by
    rw [joinWritten, gathered]
    split <;> rfl
  induction values with
  | nil => rfl
  | cons value rest inductionHypothesis =>
      rw [List.mapM_cons, each, inductionHypothesis]
      by_cases head : short value
      · by_cases tail : ∀ other ∈ rest, short other
        · rw [if_pos head, if_pos tail, if_pos (List.forall_mem_cons.mpr ⟨head, tail⟩)]
          rfl
        · rw [if_pos head, if_neg tail, if_neg fun all => tail (List.forall_mem_cons.mp all).2]
          rfl
      · rw [if_neg head, if_neg fun all => head (List.forall_mem_cons.mp all).1]
        rfl

end MonitorSplit
