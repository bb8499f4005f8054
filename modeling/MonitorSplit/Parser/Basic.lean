/-
Module: MonitorSplit.Parser.Basic
Purpose: Parsers that hand on the rest of their text, and what can go wrong in them.
Main exports:
  Defect, ParseError, Parser, Parser.char, Parser.optional, Parser.wholeText, Parser.parseAll
-/
import MonitorSplit.Text.Quoted

namespace MonitorSplit

/-!
A parser reads a value from the start of a text and hands on the rest.  Its errors
are of two kinds.  After a recoverable error an enclosing parser may try something
else; a final error ends the whole parse, whoever encloses it.
-/

/-- What is wrong at a place in a text: the code by which a message names it, and whether
it is final, so that no parser recovers from it.  Parsers may use codes of their own. -/
structure Defect where
  code : String
  isFinal : Bool := false
deriving DecidableEq, Repr, Inhabited

namespace Defect

/-- The text begins with another character than the one expected. -/
def otherCharacter : Defect := { code := "Char" }

/-- The text does not begin with a digit. -/
def noDigit : Defect := { code := "Digit" }

/-- A list ends before it has enough elements. -/
def tooFew : Defect := { code := "ManyMN" }

/-- Text is left over after a value that should have taken up all of it. -/
def leftover : Defect := { code := "Eof" }

/-- A numeral is above the greatest value. -/
def tooLarge : Defect := { code := "TooLarge", isFinal := true }

/-- A numeral that has to be positive is zero. -/
def zeroLength : Defect := { code := "Zero", isFinal := true }

/-- A step of a list consumes nothing. -/
def noProgress : Defect := { code := "SeparatedList", isFinal := true }

end Defect

/-- A defect and the text from the place where it was met. -/
structure ParseError where
  defect : Defect
  remaining : List Char
deriving DecidableEq, Repr, Inhabited

namespace ParseError

/-- No parser recovers from a final error. -/
def isFinal (error : ParseError) : Bool := error.defect.isFinal

/-- The wording of a parse error. -/
def message (error : ParseError) : String :=
  s!"parse error {error.defect.code} at {Text.quoteText error.remaining}"

end ParseError

/-- Reads a value from the start of a text and hands on the rest. -/
abbrev Parser (α : Type) := List Char → Except ParseError (α × List Char)

namespace Parser

variable {α β : Type}

/-- Apply a function to the value that a parser reads. -/
def map (f : α → β) (parser : Parser α) : Parser β := fun text =>
  match parser text with
  | .ok (value, rest) => .ok (f value, rest)
  | .error error => .error error

/-- The first character of the text, taken as a text of its own, is the one expected.
At the end of the text that is the empty text. -/
def char (expected : List Char) : Parser (List Char) := fun text =>
  if text.take 1 = expected then .ok (expected, text.drop 1)
  else .error { defect := .otherCharacter, remaining := text }

/-- A value, or nothing where the parser fails recoverably. -/
def optional (parser : Parser α) : Parser (Option α) := fun text =>
  match parser text with
  | .ok (value, rest) => .ok (some value, rest)
  | .error error => if error.isFinal then .error error else .ok (none, text)

/-- A value that takes up the whole text. -/
def wholeText (parser : Parser α) : Parser α := fun text =>
  match parser text with
  | .ok (value, []) => .ok (value, [])
  | .ok (_, rest) => .error { defect := .leftover, remaining := rest }
  | .error error => .error error

/-- The value of a text that a parser reads to its end. -/
def parseAll (parser : Parser α) (text : List Char) : Except ParseError α :=
  match wholeText parser text with
  | .ok (value, _) => .ok value
  | .error error => .error error

end Parser

end MonitorSplit
