/-
Module: MonitorSplit.Monitor.Listing
Purpose: The listing of monitors that the display tool prints.
Main exports:
  Listing.Figure, Listing.Fields, Listing.readFields, Listing.Line, Listing.readLines,
  Listing.monitors, Listing.ignored
-/
import MonitorSplit.Monitor.Basic
import MonitorSplit.Text.Blank
import MonitorSplit.Text.Digit
import MonitorSplit.Text.Lines

namespace MonitorSplit.Listing

/-!
A listing has a header and one line for each monitor, such as

    0: +*DP-5 3840/1210x2160/680+0+0  DP-5

with an index, flags, the name, width and height with their millimetres, the position
and the output, if there is one.  A star among the flags marks the primary monitor and
a plus sign one that the tool made by itself.  Every field is the longest run that it
can be, except that the name keeps at least one character of a word that consists of
flags alone.  What follows the position directly, or comes after the output, is passed
over.  Digits of every script count.  A line is told by its form alone; only then are its
numbers read, but for the index, and one of too many digits fails the whole listing.
-/

/-- A number as it stands in a listing. -/
structure Figure where
  digits : List Char
  isNegative : Bool := false
deriving DecidableEq, Repr, Inhabited

/-- The number that a figure denotes.  Leading zeros count as digits, a sign does not. -/
def Figure.value (figure : Figure) : Except DigitFault Int :=
  if mostDigits < figure.digits.length then .error (.toRead figure.digits.length)
  else
    let size : Int := Text.decimalValue figure.digits
    .ok (if figure.isNegative then -size else size)

/-- The figure at the start of a text, and the rest. -/
def readNumber (text : List Char) : Option (Figure × List Char) :=
  let digits := text.takeWhile Text.isDigit
  if digits = [] then none else some ({ digits }, text.dropWhile Text.isDigit)

/-- The figure at the start of a text, after a minus sign if there is one. -/
def readSigned : List Char → Option (Figure × List Char)
  | '-' :: text =>
      (readNumber text).map fun (figure, rest) => ({ figure with isNegative := true }, rest)
  | text => readNumber text

/-- The text after an expected character. -/
def readMark (mark : Char) : List Char → Option (List Char)
  | c :: rest => if c = mark then some rest else none
  | [] => none

/-- The text after at least one blank. -/
def readBlanks : List Char → Option (List Char)
  | c :: rest => if Text.isBlank c then some (Text.trimStart rest) else none
  | [] => none

/-- The word at the start of a text, and the rest. -/
def readWord (text : List Char) : Option (List Char × List Char) :=
  let word := Text.firstWord text
  if word.1 = [] then none else some word

/-- A character that may stand among the flags. -/
def isFlag (c : Char) : Bool := c = '+' || c = '*'

/-- Flags and name of a word.  The name has at least one character. -/
def splitFlags (word : List Char) : List Char × List Char :=
  let flags := word.takeWhile isFlag
  let count := min flags.length (word.length - 1)
  (word.take count, word.drop count)

/-- The output after a position: the next word, if blanks come first. -/
def readOutput (text : List Char) : Option String := do
  let rest ← readBlanks text
  let (word, _) ← readWord rest
  return String.ofList word

/-- What a line says of a monitor. -/
structure Fields where
  flags : List Char
  name : List Char
  width : Figure
  widthMm : Figure
  height : Figure
  heightMm : Figure
  x : Figure
  y : Figure
  output : Option String
deriving DecidableEq, Repr, Inhabited

/-- The monitor that a line describes. -/
def Fields.monitor (fields : Fields) : Except DigitFault Monitor := do
  let width ← fields.width.value
  let widthMm ← fields.widthMm.value
  let height ← fields.height.value
  let heightMm ← fields.heightMm.value
  let x ← fields.x.value
  let y ← fields.y.value
  return {
    name := String.ofList fields.name
    resolution := .plane width height
    sizeMm := (widthMm, heightMm)
    position := (x, y)
    output := fields.output
    primary := fields.flags.contains '*'
    automatic := fields.flags.contains '+' }

/-- What a line without blanks at its ends says of a monitor, if it has the form for that. -/
def readFields (line : List Char) : Option Fields := do
  let (_, rest) ← readNumber line
  let rest ← readMark ':' rest
  let rest ← readBlanks rest
  let (word, rest) ← readWord rest
  let rest ← readBlanks rest
  let (width, rest) ← readNumber rest
  let rest ← readMark '/' rest
  let (widthMm, rest) ← readNumber rest
  let rest ← readMark 'x' rest
  let (height, rest) ← readNumber rest
  let rest ← readMark '/' rest
  let (heightMm, rest) ← readNumber rest
  let rest ← readMark '+' rest
  let (x, rest) ← readSigned rest
  let rest ← readMark '+' rest
  let (y, rest) ← readSigned rest
  let (flags, name) := splitFlags word
  return { flags, name, width, widthMm, height, heightMm, x, y, output := readOutput rest }

/-- What a line of a listing is. -/
inductive Line where
  | nothing
  | monitor (fields : Fields)
  | ignored (text : List Char)
deriving DecidableEq, Repr, Inhabited

/-- The monitor of a line that describes one. -/
def Line.monitor? : Line → Option (Except DigitFault Monitor)
  | .monitor fields => some fields.monitor
  | _ => none

/-- The start of the header line. -/
def headerMark : List Char := "Monitors:".toList

/-- Read one line, blanks at its ends left aside. -/
def readLine (line : List Char) : Line :=
  let line := Text.trim line
  if line = [] ∨ headerMark.isPrefixOf line then .nothing
  else
    match readFields line with
    | some fields => .monitor fields
    | none => .ignored line

/-- Read the lines of a listing. -/
def readLines (listing : String) : List Line :=
  (Text.splitLines (Text.trim listing.toList)).map readLine

/-- The monitors of a listing, in order, if all of their numbers can be read. -/
def monitors (listing : String) : Except DigitFault (List Monitor) :=
  ((readLines listing).filterMap Line.monitor?).mapM id

/-- The lines that describe nothing, up to a line that cannot be read. -/
def ignoredOf : List Line → List (List Char)
  | [] => []
  | .nothing :: rest => ignoredOf rest
  | .ignored line :: rest => line :: ignoredOf rest
  | .monitor fields :: rest =>
      match fields.monitor with
      | .ok _ => ignoredOf rest
      | .error _ => []

/-- The lines of a listing that describe nothing, as far as it is read. -/
def ignored (listing : String) : List (List Char) := ignoredOf (readLines listing)

end MonitorSplit.Listing
