/-
Module: MonitorSplit.Text.Blank
Purpose: Blank characters, and texts without blanks at their ends.
Main exports:
  isBlank, trimStart, trimEnd, trim, firstWord
-/

namespace MonitorSplit.Text

/-!
Blanks are the white space of the character set together with the four
information separators `0x1C` to `0x1F`.  The line feed is one of them.
-/

/-- A blank: white space of any script, or an information separator. -/
def isBlank (c : Char) : Bool :=
  let code := c.toNat
  (9 ≤ code && code ≤ 13) || (0x1C ≤ code && code ≤ 0x20) || code == 0x85 || code == 0xA0 ||
    code == 0x1680 || (0x2000 ≤ code && code ≤ 0x200A) || code == 0x2028 || code == 0x2029 ||
    code == 0x202F || code == 0x205F || code == 0x3000

/-- The text from its first character that is no blank. -/
def trimStart (text : List Char) : List Char :=
  text.dropWhile isBlank

/-- The text up to its last character that is no blank. -/
def trimEnd (text : List Char) : List Char :=
  (text.reverse.dropWhile isBlank).reverse

/-- The text without the blanks at either end. -/
def trim (text : List Char) : List Char :=
  trimEnd (trimStart text)

/-- The maximal run without a blank at the start of a text, and what follows it. -/
def firstWord (text : List Char) : List Char × List Char :=
  (text.takeWhile (!isBlank ·), text.dropWhile (!isBlank ·))

/-- Taking the first word loses nothing. -/
theorem firstWord_append (text : List Char) :
    (firstWord text).1 ++ (firstWord text).2 = text :=
  List.takeWhile_append_dropWhile

/-- Every character that core counts as white space is a blank. -/
theorem isBlank_of_isWhitespace (c : Char) (h : c.isWhitespace = true) : isBlank c = true := by
  simp only [Char.isWhitespace, Bool.or_eq_true, decide_eq_true_eq] at h
  rcases h with ((rfl | rfl) | rfl) | rfl <;> decide

end MonitorSplit.Text
