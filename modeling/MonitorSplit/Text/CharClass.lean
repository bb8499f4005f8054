/-
Module: MonitorSplit.Text.CharClass
Purpose: Classes of characters given by the edges of their ranges.
Main exports:
  CharClass, CharClass.contains
-/

namespace MonitorSplit.Text

/-- A class of characters.  `edges` lists, in ascending order, every code point at
which membership changes; below the first edge nothing belongs to the class. -/
structure CharClass where
  edges : List Nat
deriving DecidableEq, Repr, Inhabited

namespace CharClass

/-- A character belongs to the class when an odd number of edges lie at or below it. -/
def contains (family : CharClass) (c : Char) : Bool :=
  (family.edges.takeWhile (· ≤ c.toNat)).length % 2 == 1

/-- Nothing belongs to the class without edges. -/
@[simp] theorem contains_nil (c : Char) : contains { edges := [] } c = false := rfl

end CharClass

end MonitorSplit.Text
