/-
Module: MonitorSplit.Parser.Numeral
Purpose: Decimal numerals of bounded value.
Main exports:
  largestNumeral, Parser.numeral, Parser.positiveNumeral
-/
import MonitorSplit.Parser.Basic
import MonitorSplit.Text.Digit

namespace MonitorSplit

/-- The greatest value of a numeral: that of 32 binary digits. -/
def largestNumeral : Nat := 4294967295

/-- How many digits the greatest value has. -/
def largestNumeralDigits : Nat := 10

namespace Parser

/-!
A numeral is the maximal run of plain digits at the start of a text.  Whether its
value is in bounds is first read off the number of digits after the leading zeros,
so that a long numeral is refused without being evaluated.
-/

/-- A numeral without sign, of value at most `largestNumeral`. -/
def numeral : Parser Nat := fun text =>
  let digits := text.takeWhile Text.isPlainDigit
  let significant := digits.dropWhile (· = '0')
  if digits = [] then .error { defect := .noDigit, remaining := text }
  else if largestNumeralDigits < significant.length ∨
      largestNumeral < Text.decimalValue significant then
    .error { defect := .tooLarge, remaining := text }
  else .ok (Text.decimalValue significant, text.dropWhile Text.isPlainDigit)

/-- A numeral of value at least one. -/
def positiveNumeral : Parser Nat := fun text =>
  match numeral text with
  | .ok (0, _) => .error { defect := .zeroLength, remaining := text }
  | outcome => outcome

end Parser

end MonitorSplit
