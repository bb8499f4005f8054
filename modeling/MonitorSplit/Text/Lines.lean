/-
Module: MonitorSplit.Text.Lines
Purpose: Lines of a text.
Main exports:
  splitLines, keepLines, unifyLineEnds
-/

namespace MonitorSplit.Text

/-- The pieces of a text between its line feeds.  There is always at least one. -/
def splitLines : List Char → List (List Char)
  | [] => [[]]
  | c :: rest =>
      if c = '\n' then [] :: splitLines rest
      else
        match splitLines rest with
        | [] => [[c]]
        | line :: lines => (c :: line) :: lines

/-- The lines of a text, each with the line feed that ends it.  The last one may be
without; it is never empty. -/
def keepLines : List Char → List (List Char)
  | [] => []
  | c :: rest =>
      if c = '\n' then [c] :: keepLines rest
      else
        match keepLines rest with
        | [] => [[c]]
        | line :: lines => (c :: line) :: lines

/-- Every line end as one line feed: a carriage return, alone or before a line feed,
becomes a line feed. -/
def unifyLineEnds : List Char → List Char
  | [] => []
  | '\r' :: '\n' :: rest => '\n' :: unifyLineEnds rest
  | '\r' :: rest => '\n' :: unifyLineEnds rest
  | c :: rest => c :: unifyLineEnds rest

/-- The lines together are the text. -/
theorem flatten_keepLines (text : List Char) : (keepLines text).flatten = text := by
  induction text with
  | nil => rfl
  | cons c rest inductionHypothesis =>
      rw [keepLines]
      split
      · simp [inductionHypothesis]
      · cases lines : keepLines rest with
        | nil => simp [lines] at inductionHypothesis; simp [inductionHypothesis]
        | cons line more => rw [lines] at inductionHypothesis; simp [← inductionHypothesis]

/-- There is always a piece. -/
theorem splitLines_ne_nil (text : List Char) : splitLines text ≠ [] := by
  cases text with
  | nil => simp [splitLines]
  | cons c rest =>
      rw [splitLines]
      split
      · simp
      · split <;> simp

/-- Joining the pieces by line feeds gives the text back. -/
theorem intercalate_splitLines (text : List Char) :
    List.intercalate ['\n'] (splitLines text) = text := by
  induction text with
  | nil => rfl
  | cons c rest inductionHypothesis =>
      cases pieces : splitLines rest with
      | nil => exact absurd pieces (splitLines_ne_nil rest)
      | cons line lines =>
          rw [pieces] at inductionHypothesis
          rw [splitLines, pieces]
          split
          · rename_i isFeed
            cases lines <;> simp_all [List.intercalate]
          · cases lines <;> simp_all [List.intercalate]

end MonitorSplit.Text
