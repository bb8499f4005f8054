/-
Module: MonitorSplit.Ratio.Grammar
Purpose: Parsers described as data.
Main exports:
  Grammar, Parsed, GrammarError, Grammar.build
-/
import MonitorSplit.Ratio.Basic
import MonitorSplit.Ratio.Box

namespace MonitorSplit

/-- A description of a parser. -/
inductive Grammar where
  | char (expected : List Char)
  | numeral
  | positiveNumeral
  | axisSum
  | box (dimensions : Int)
  | ratio (dimensions : Int)
  | optional (inner : Grammar)
  | wholeText (inner : Grammar)
  | list (bounds : Bounds) (separator element : Grammar)
deriving Repr, Inhabited

/-- A value that a described parser reads. -/
inductive Parsed where
  | text (content : List Char)
  | number (value : Nat)
  | absent
  | axisSum (value : AxisSum)
  | box (value : Box)
  | ratio (value : Ratio)
  | list (values : List Parsed)
deriving Repr, Inhabited

/-- Why a description describes no parser. -/
inductive GrammarError where
  | bounds (cause : DisorderedBounds)
  | shape (cause : ShapeError)
deriving DecidableEq, Repr, Inhabited

/-- The wording of a description's fault. -/
def GrammarError.message : GrammarError → String
  | .bounds cause => cause.message
  | .shape cause => cause.message

namespace Grammar

/-- A parser, or why it was refused, read as a parser of described values. -/
def lift {α : Type} (read : α → Parsed) :
    Except ShapeError (Parser α) → Except GrammarError (Parser Parsed)
  | .ok parser => .ok (parser.map read)
  | .error cause => .error (.shape cause)

/-- The parser that a description describes.  The parts of a list are built, separator
first, before its bounds are looked at. -/
def build : Grammar → Except GrammarError (Parser Parsed)
  | .char expected => .ok ((Parser.char expected).map .text)
  | .numeral => .ok (Parser.numeral.map .number)
  | .positiveNumeral => .ok (Parser.positiveNumeral.map .number)
  | .axisSum => .ok (AxisSum.parser.map .axisSum)
  | .box dimensions => lift .box (Box.parser dimensions)
  | .ratio dimensions => lift .ratio (Ratio.parser dimensions)
  | .optional inner => do
      let parser ← inner.build
      return (Parser.optional parser).map (·.getD .absent)
  | .wholeText inner => do
      let parser ← inner.build
      return Parser.wholeText parser
  | .list bounds separator element => do
      let readSeparator ← separator.build
      let readElement ← element.build
      match bounds.check with
      | .ok () => return (Parser.listBetween bounds readSeparator readElement).map .list
      | .error cause => .error (.bounds cause)

end Grammar

end MonitorSplit
