/-
Module: MonitorSplit.Ratio.Written
Purpose: Boxes and ratios read from whole texts.
Main exports:
  TextFailure, Box.parse, Ratio.parse
-/
import MonitorSplit.Ratio.Basic
import MonitorSplit.Ratio.Box

namespace MonitorSplit

/-- Why a text is no box or ratio of so many axes: there is none of so many, or the text
does not follow its grammar. -/
inductive TextFailure where
  | shape (cause : ShapeError)
  | parse (cause : ParseError)
deriving DecidableEq, Repr, Inhabited

/-- The wording of a text that is none. -/
def TextFailure.message : TextFailure → String
  | .shape cause => cause.message
  | .parse cause => cause.message

/-- Read a whole text with a parser, unless the parser was refused. -/
def readWith {α : Type} (parser : Except ShapeError (Parser α)) (text : List Char) :
    Except TextFailure α :=
  match parser with
  | .error cause => .error (.shape cause)
  | .ok parser =>
      match Parser.parseAll parser text with
      | .error cause => .error (.parse cause)
      | .ok value => .ok value

/-- Read a whole text as a box of so many axes. -/
def Box.parse (dimensions : Int) (text : List Char) : Except TextFailure Box :=
  readWith (Box.parser dimensions) text

/-- Read a whole text as a ratio of so many axes. -/
def Ratio.parse (dimensions : Int) (text : List Char) : Except TextFailure Ratio :=
  readWith (Ratio.parser dimensions) text

end MonitorSplit
