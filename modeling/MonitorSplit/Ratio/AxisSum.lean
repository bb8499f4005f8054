/-
Module: MonitorSplit.Ratio.AxisSum
Purpose: Sums along one axis with known and unknown addends.
Main exports:
  AxisSum, AxisSum.ofAddends, AxisSum.write, AxisSum.parser, AxisFailure, AxisFailure.raise,
  AxisSum.inferScale, AxisSum.solve
-/
import MonitorSplit.Number.Quotient
import MonitorSplit.Parser.List
import MonitorSplit.Parser.Numeral
import MonitorSplit.Ratio.Shape
import MonitorSplit.Ratio.SolvedSum

namespace MonitorSplit

/-!
A sum such as `1++3` gives the addends of one axis in order; an empty field is an
unknown.  All unknowns of a sum are solved to one value, so that the addends fill the
axis once its length and the number of pixels per unit are known.
-/

/-- A sum along one axis; an absent addend is an unknown. -/
structure AxisSum where
  addends : List (Option Int)
  nonempty : addends ≠ [] := by simp
deriving DecidableEq, Repr

instance : Inhabited AxisSum := ⟨{ addends := [none] }⟩

/-- Why a sum cannot be solved on an axis. -/
inductive AxisFailure where
  | exceeded (sum : AxisSum) (total : Int)
  | indivisible (sum : AxisSum) (length scale : Int) (cause : NotDivisible)
deriving DecidableEq, Repr, Inhabited

namespace AxisSum

/-- The sum of some addends, of which there has to be one. -/
def ofAddends (addends : List (Option Int)) : Except ShapeError AxisSum :=
  if nonempty : addends ≠ [] then .ok { addends, nonempty } else .error .sumWithoutAddends

/-- The number of addends. -/
def size (sum : AxisSum) : Nat := sum.addends.length

/-- The number of unknowns. -/
def unknowns (sum : AxisSum) : Nat := sum.addends.countP (·.isNone)

/-- The known addends. -/
def knowns (sum : AxisSum) : List Int := sum.addends.filterMap id

/-- What the known addends add up to. -/
def knownTotal (sum : AxisSum) : Int := addUp sum.knowns

/-- Every known addend multiplied by a factor. -/
def times (sum : AxisSum) (factor : Int) : AxisSum where
  addends := sum.addends.map (·.map (· * factor))
  nonempty := by simpa using sum.nonempty

/-- The sum with one value for every unknown. -/
def fill (sum : AxisSum) (share : Int) : SolvedSum :=
  { addends := sum.addends.map (·.getD share) }

/-! ### Text -/

/-- An unknown is an empty field. -/
def renderAddend : Option Int → List Char
  | none => []
  | some addend => (toString addend).toList

/-- The text of a sum: its fields with plus signs between them.  It shows addends of any
length, and messages show it once all of them are known to be writable. -/
def render (sum : AxisSum) : List Char :=
  List.intercalate ['+'] (sum.addends.map renderAddend)

instance : ToString AxisSum := ⟨fun sum => String.ofList sum.render⟩

/-- Write an addend. -/
def writeAddend : Option Int → Except DigitFault (List Char)
  | none => .ok []
  | some addend => writeInt addend

/-- Write a sum. -/
def write (sum : AxisSum) : Except DigitFault (List Char) :=
  joinWritten '+' writeAddend sum.addends

/-- The form in which a reader is shown the value. -/
def describe (sum : AxisSum) : Except DigitFault String :=
  sum.write.map fun text => s!"<IndeterminateDimensionSum {Text.quoteText text}>"

/-- The sum of the fields that a parser read. -/
def ofFields (fields : { values : List (Option Nat) // values ≠ [] }) : AxisSum where
  addends := fields.val.map (·.map Int.ofNat)
  nonempty := by simpa using fields.property

/-- Reads fields with plus signs between them. -/
def parser : Parser AxisSum :=
  Parser.map ofFields
    (Parser.nonemptyList .atLeastOne Bounds.excludesEmpty_atLeastOne (Parser.char ['+'])
      (Parser.optional Parser.numeral))

/-- Reads a whole text as a sum. -/
def parse (text : List Char) : Except ParseError AxisSum := Parser.parseAll parser text

end AxisSum

namespace AxisFailure

/-- The wording of a failure on one axis. -/
def message : AxisFailure → String
  | .exceeded sum total => s!"known addends of {sum} exceed the total of {total} units"
  | .indivisible sum length scale cause =>
      s!"unable to split {length} pixels at scale {scale} into {sum}: {cause.message}"

/-- The division that failed, if one did. -/
def cause? : AxisFailure → Option NotDivisible
  | .exceeded .. => none
  | .indivisible _ _ _ cause => some cause

/-- The numbers that the wording holds. -/
def numbers : AxisFailure → List Int
  | .exceeded sum total => total :: sum.knowns
  | .indivisible sum length scale cause => length :: scale :: sum.knowns ++ cause.numbers

/-- A failure on one axis with its message. -/
def raise (failure : AxisFailure) : Raised AxisFailure := .tell failure.numbers failure

end AxisFailure

namespace AxisSum

/-! ### Solving -/

/-- The scale that a length implies, if every addend is known. -/
def inferScale (sum : AxisSum) (length : Int) : Except (Raised NotDivisible) (Option Int) :=
  if sum.unknowns ≠ 0 then .ok none
  else (divide length sum.knownTotal).map some

/-- A division that failed on the way to a solution, as a failure on the axis. -/
def indivisible (sum : AxisSum) (length scale : Int) : Raised NotDivisible → Raised AxisFailure :=
  Raised.andThen fun cause => AxisFailure.raise (.indivisible sum length scale cause)

/-- The operands of the division are in the message of the failure on the axis. -/
@[simp] theorem indivisible_raise (sum : AxisSum) (length scale : Int) (cause : NotDivisible) :
    sum.indivisible length scale cause.raise =
      AxisFailure.raise (.indivisible sum length scale cause) := by
  refine Raised.andThen_tell fun long => if_neg fun short => long fun number member => ?_
  exact short number (List.mem_append_right _ member)

/-- Solve the unknowns on an axis `length` pixels long, at `scale` pixels per unit.
Each takes an equal share of the units that the known addends leave. -/
def solve (sum : AxisSum) (length scale : Int) : Except (Raised AxisFailure) SolvedSum :=
  match divide length scale with
  | .error cause => .error (sum.indivisible length scale cause)
  | .ok total =>
      if sum.unknowns = 0 then .ok (sum.fill 0)
      else if total - sum.knownTotal < 0 then .error (AxisFailure.raise (.exceeded sum total))
      else
        match divide (total - sum.knownTotal) sum.unknowns with
        | .error cause => .error (sum.indivisible length scale cause)
        | .ok share => .ok (sum.fill share)

end AxisSum

end MonitorSplit
