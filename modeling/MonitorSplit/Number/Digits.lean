/-
Module: MonitorSplit.Number.Digits
Purpose: Integers with too many digits to be converted to text or from it.
Main exports:
  mostDigits, digitCount, Writable, DigitFault, DigitFault.message, writeInt, joinWritten,
  Raised, Raised.tell
-/

namespace MonitorSplit

/-!
Integers are unbounded, but one of too many decimal digits is neither written nor read.
A failure is raised with its message, whose numbers are written out there and then; if one
of them is too long for that, nothing else is told of the failure.
-/

/-- The most decimal digits of an integer that is converted to text or from it. -/
def mostDigits : Nat := 4300

/-- How many digits an integer has.  A sign does not count. -/
def digitCount (number : Int) : Nat := (Nat.toDigits 10 number.natAbs).length

/-- An integer of few enough digits to be written. -/
def Writable (number : Int) : Prop := digitCount number ≤ mostDigits

instance (number : Int) : Decidable (Writable number) :=
  inferInstanceAs (Decidable (_ ≤ _))

/-- Why an integer is not converted: it has too many digits to be written, or its text has
too many to be read. -/
inductive DigitFault where
  | toWrite
  | toRead (digits : Nat)
deriving DecidableEq, Repr, Inhabited

/-- The wording of a conversion that is refused. -/
def DigitFault.message (fault : DigitFault) : String :=
  let found := match fault with
    | .toWrite => ""
    | .toRead digits => s!": value has {digits} digits"
  s!"Exceeds the limit ({mostDigits} digits) for integer string conversion" ++ found ++
    "; use sys.set_int_max_str_digits() to increase the limit"

/-- The text of an integer. -/
def writeInt (number : Int) : Except DigitFault (List Char) :=
  if Writable number then .ok (toString number).toList else .error .toWrite

/-- The texts of some values with a mark between them. -/
def joinWritten {α : Type} (mark : Char) (write : α → Except DigitFault (List Char))
    (values : List α) : Except DigitFault (List Char) :=
  (values.mapM write).map (List.intercalate [mark])

/-- A failure as it is raised: with its message, or only as one whose message could not be
written. -/
inductive Raised (ε : Type) where
  | told (cause : ε)
  | overlong
deriving DecidableEq, Repr, Inhabited

namespace Raised

variable {ε δ : Type}

/-- Raise a failure whose message holds some numbers. -/
def tell (numbers : List Int) (cause : ε) : Raised ε :=
  if ∀ number ∈ numbers, Writable number then .told cause else .overlong

/-- A failure that is raised for another one, if that is told. -/
def andThen (raise : ε → Raised δ) : Raised ε → Raised δ
  | .told cause => raise cause
  | .overlong => .overlong

/-- A failure that is raised for another one, and whose message adds no number to its. -/
def map (wrap : ε → δ) : Raised ε → Raised δ := andThen fun cause => .told (wrap cause)

/-- A failure is told just if all numbers of its message can be written. -/
theorem tell_eq_told_iff {numbers : List Int} {cause told : ε} :
    tell numbers cause = .told told ↔ (∀ number ∈ numbers, Writable number) ∧ cause = told := by
  unfold tell
  by_cases short : ∀ number ∈ numbers, Writable number
  · rw [if_pos short, Raised.told.injEq, and_iff_right short]
  · rw [if_neg short]
    exact ⟨nofun, fun both => absurd both.1 short⟩

theorem tell_eq_overlong_iff {numbers : List Int} {cause : ε} :
    tell numbers cause = .overlong ↔ ¬ ∀ number ∈ numbers, Writable number := by
  unfold tell
  by_cases short : ∀ number ∈ numbers, Writable number
  · rw [if_pos short]
    exact ⟨nofun, fun long => absurd short long⟩
  · rw [if_neg short]
    exact ⟨fun _ => short, fun _ => rfl⟩

/-- What is raised for a failure adds no number, so it is told just if that is. -/
@[simp] theorem map_tell (numbers : List Int) (cause : ε) (wrap : ε → δ) :
    (tell numbers cause).map wrap = tell numbers (wrap cause) := by
  unfold tell
  split <;> rfl

/-- What is raised for a failure that is told, it is raised for the failure itself, if it
would not be told either where that is not. -/
theorem andThen_tell {numbers : List Int} {cause : ε} {raise : ε → Raised δ}
    (overlong : (¬ ∀ number ∈ numbers, Writable number) → raise cause = .overlong) :
    (tell numbers cause).andThen raise = raise cause := by
  unfold tell
  split
  · rfl
  · rename_i long
    exact (overlong long).symm

end Raised

end MonitorSplit
