/-
Module: MonitorSplit.Ratio.Box
Purpose: Boxes given by their length on each axis.
Main exports:
  Box, Box.ofLengths, AxisError, AxisError.message, Box.lengthAt, Box.write, Box.parser
-/
import MonitorSplit.Number.Digits
import MonitorSplit.Number.Word
import MonitorSplit.Parser.List
import MonitorSplit.Parser.Numeral
import MonitorSplit.Ratio.Shape

namespace MonitorSplit

/-- A box with its edges along the axes, written `1920x1080`. -/
structure Box where
  lengths : List Int
  nonempty : lengths ≠ [] := by simp
deriving DecidableEq, Repr

instance : Inhabited Box := ⟨{ lengths := [0] }⟩

/-- Why a box has no length for the number of an axis: there are fewer axes, or the
number is none that could be asked for. -/
inductive AxisError where
  | outOfRange
  | unfit (cause : WordOverflow)
deriving DecidableEq, Repr, Inhabited

/-- The wording of an axis that a box does not have. -/
def AxisError.message : AxisError → String
  | .outOfRange => "tuple index out of range"
  | .unfit cause => cause.message

namespace Box

/-- The box of some lengths, of which there has to be one. -/
def ofLengths (lengths : List Int) : Except ShapeError Box :=
  if nonempty : lengths ≠ [] then .ok { lengths, nonempty } else .error .boxWithoutAxes

/-- The number of axes. -/
def dimensions (box : Box) : Nat := box.lengths.length

/-- The length on an axis.  The number of the axis is a word; a negative one counts from
the last axis. -/
def lengthAt (box : Box) (axis : Int) : Except AxisError Int := do
  let axis ← (toWord axis).mapError .unfit
  let index := if axis < 0 then axis + box.dimensions else axis
  if index < 0 then .error .outOfRange
  else
    match box.lengths[index.toNat]? with
    | some length => .ok length
    | none => .error .outOfRange

/-- The length on the first axis. -/
def width (box : Box) : Int := box.lengths.head box.nonempty

/-- The length on the second axis, zero if there is none. -/
def height (box : Box) : Int := (box.lengths.drop 1).headD 0

/-- The box of a width and a height. -/
def plane (width height : Int) : Box := { lengths := [width, height] }

/-- The text of a box: its lengths with an `x` between them, of any length themselves. -/
def render (box : Box) : List Char :=
  List.intercalate ['x'] (box.lengths.map fun length => (toString length).toList)

instance : ToString Box := ⟨fun box => String.ofList box.render⟩

/-- Write a box. -/
def write (box : Box) : Except DigitFault (List Char) := joinWritten 'x' writeInt box.lengths

/-- The form in which a reader is shown the value. -/
def describe (box : Box) : Except DigitFault String :=
  box.write.map fun text => s!"<HyperRectangle {String.ofList text}>"

/-- The box of the lengths that a parser read. -/
def ofNumerals (numerals : { values : List Nat // values ≠ [] }) : Box where
  lengths := numerals.val.map Int.ofNat
  nonempty := by simpa using numerals.property

/-- Reads exactly so many positive lengths with an `x` between them. -/
def parser (dimensions : Int) : Except ShapeError (Parser Box) :=
  if none_due : dimensions < 1 then .error .boxWithoutAxes
  else
    .ok (Parser.map ofNumerals
      (Parser.nonemptyList (.exactly dimensions) (Bounds.excludesEmpty_exactly none_due)
        (Parser.char ['x']) Parser.positiveNumeral))

end Box

end MonitorSplit
