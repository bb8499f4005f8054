/-
Module: MonitorSplit.Proofs.Ratio.Writing
Purpose: Which sums, ratios and boxes can be written, and that the others come to no text at all.
Main exports:
  AxisSum.Short, AxisSum.write_eq, Ratio.Short, Ratio.write_eq, Box.Short, Box.write_eq
-/
import MonitorSplit.Proofs.Number.Digits
import MonitorSplit.Ratio.Basic
import MonitorSplit.Ratio.Box

namespace MonitorSplit

/-!
A value is written as its text if each of its numbers can be.  One number that is too long is
enough for no text to be written, whatever the others are.
-/

namespace AxisSum

/-- Every known addend can be written. -/
def Short (sum : AxisSum) : Prop := ∀ addend ∈ sum.addends, ∀ known ∈ addend, Writable known

instance : DecidablePred Short := fun sum =>
  inferInstanceAs (Decidable (∀ addend ∈ sum.addends, ∀ known ∈ addend, Writable known))

/-- An unknown is always written, and a known addend if it is short enough. -/
theorem writeAddend_eq (addend : Option Int) :
    writeAddend addend =
      if ∀ known ∈ addend, Writable known then .ok (renderAddend addend) else .error .toWrite := by
  cases addend with
  | none => rfl
  | some known => simp only [writeAddend, writeInt, renderAddend, Option.mem_some_iff, forall_eq']

/-- A sum is written if all its addends can be. -/
theorem write_eq (sum : AxisSum) :
    sum.write = if sum.Short then .ok sum.render else .error .toWrite :=
  joinWritten_eq writeAddend_eq sum.addends

end AxisSum

namespace Ratio

/-- Every known addend can be written. -/
def Short (ratio : Ratio) : Prop := ∀ sum ∈ ratio.sums, sum.Short

instance : DecidablePred Short := fun ratio =>
  inferInstanceAs (Decidable (∀ sum ∈ ratio.sums, sum.Short))

/-- A ratio is written if all its sums can be. -/
theorem write_eq (ratio : Ratio) :
    ratio.write = if ratio.Short then .ok ratio.render else .error .toWrite :=
  joinWritten_eq AxisSum.write_eq ratio.sums

theorem Short.write_eq {ratio : Ratio} (short : ratio.Short) : ratio.write = .ok ratio.render := by
  rw [Ratio.write_eq, if_pos short]

/-- One addend that is too long leaves no text of the ratio. -/
theorem write_eq_error {ratio : Ratio} (long : ¬ ratio.Short) : ratio.write = .error .toWrite := by
  rw [write_eq, if_neg long]

end Ratio

namespace Box

/-- Every length can be written. -/
def Short (box : Box) : Prop := ∀ length ∈ box.lengths, Writable length

instance : DecidablePred Short := fun box =>
  inferInstanceAs (Decidable (∀ length ∈ box.lengths, Writable length))

/-- A box is written if all its lengths can be. -/
theorem write_eq (box : Box) : box.write = if box.Short then .ok box.render else .error .toWrite :=
  joinWritten_eq (fun _ => rfl) box.lengths

theorem Short.write_eq {box : Box} (short : box.Short) : box.write = .ok box.render := by
  rw [Box.write_eq, if_pos short]

/-- One length that is too long leaves no text of the box. -/
theorem write_eq_error {box : Box} (long : ¬ box.Short) : box.write = .error .toWrite := by
  rw [write_eq, if_neg long]

end Box

end MonitorSplit
