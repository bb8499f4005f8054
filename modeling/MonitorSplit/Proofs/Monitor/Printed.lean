/-
Module: MonitorSplit.Proofs.Monitor.Printed
Purpose: Listings as the display tool prints them read back as the monitors that they were printed for.
Main exports:
  Listing.LineEnd, Listing.Row, Listing.PrintedLine, Listing.printed, Listing.monitors_printed
-/
import MonitorSplit.Proofs.Monitor.Listing

namespace MonitorSplit.Listing

/-!
### Printed listings

A listing is printed line by line.  A line is a header, an entry or empty, with blanks before it
and an end of one or two characters behind it; only the last line may lack its end.
-/

/-- What stands on a line. -/
inductive Row where
  | header (count : Nat)
  | empty
  | monitor (entry : Entry)
deriving DecidableEq, Repr

/-- The text of a row. -/
def Row.text : Row → String
  | .header count => "Monitors: " ++ toString count
  | .empty => ""
  | .monitor entry => entry.line

/-- The entry of a row, if it is one. -/
def Row.entry? : Row → Option Entry
  | .monitor entry => some entry
  | _ => none

/-- How a line ends. -/
inductive LineEnd where
  | feed
  | returnFeed
deriving DecidableEq, Repr

/-- The characters of an end. -/
def LineEnd.text : LineEnd → String
  | .feed => "\n"
  | .returnFeed => "\r\n"

/-- A row behind its indentation. -/
structure PrintedLine where
  indent : String := ""
  row : Row
deriving DecidableEq, Repr

/-- The line without its end. -/
def PrintedLine.text (line : PrintedLine) : String := line.indent ++ line.row.text

/-- A listing of lines with their ends, and perhaps of a last line without one. -/
def printed (lines : List (PrintedLine × LineEnd)) (last : Option PrintedLine) : String :=
  String.join (lines.map fun line => line.1.text ++ line.2.text) ++ (last.map PrintedLine.text).getD ""

/-- The indentation is blank and does not end the line, and an entry is sound. -/
structure PrintedLine.Sound (line : PrintedLine) : Prop where
  indent : ∀ c ∈ line.indent.toList, Text.isBlank c = true ∧ c ≠ '\n'
  entry : ∀ entry ∈ line.row.entry?, entry.Sound

/-!
### Lines as they are read
-/

theorem toList_header (count : Nat) :
    (Row.header count).text.toList = headerMark ++ [' '] ++ (toString count).toList := by
  rw [Row.text, String.toList_append]
  rfl

/-- A header describes no monitor, whatever blanks are around it. -/
theorem monitorOf_header (count : Nat) {before after : List Char}
    (blankBefore : ∀ c ∈ before, Text.isBlank c = true)
    (blankAfter : ∀ c ∈ after, Text.isBlank c = true) :
    monitorOf (before ++ (Row.header count).text.toList ++ after) = none := by
  have mark : headerMark = 'M' :: "onitors:".toList := rfl
  have trimmed : Text.trim (Row.header count).text.toList = (Row.header count).text.toList := by
    rw [toList_header]
    refine Text.trim_of_ends ?_ ((Text.isWord_toString_int count).getLast?_append _)
    rw [mark]
    rintro c ⟨⟩
    decide
  have marked : headerMark.isPrefixOf (Row.header count).text.toList = true := by
    rw [toList_header, List.append_assoc, List.isPrefixOf_iff_prefix]
    exact List.prefix_append _ _
  rw [monitorOf, readLine, Text.trim_padded blankBefore blankAfter, trimmed, if_pos (.inr marked)]
  rfl

theorem monitorOf_blanks {blanks : List Char} (blank : ∀ c ∈ blanks, Text.isBlank c = true) :
    monitorOf blanks = none := by
  have trimmed : Text.trim (blanks ++ [] ++ []) = [] := Text.trim_padded blank (by simp) []
  rw [List.append_nil, List.append_nil] at trimmed
  rw [monitorOf_trim, trimmed]
  rfl

/-- A line is read as the monitor of its row, if the row is one. -/
theorem PrintedLine.Sound.monitorOf_eq {line : PrintedLine} (sound : line.Sound) {after : List Char}
    (blankAfter : ∀ c ∈ after, Text.isBlank c = true) :
    monitorOf (line.text.toList ++ after) = line.row.entry?.map (.ok ·.monitor) := by
  have blankBefore : ∀ c ∈ line.indent.toList, Text.isBlank c = true := fun c member =>
    (sound.indent c member).1
  obtain ⟨indent, row⟩ := line
  rw [PrintedLine.text, String.toList_append]
  cases row with
  | header count => exact monitorOf_header count blankBefore blankAfter
  | empty =>
      refine monitorOf_blanks fun c member => ?_
      have either : c ∈ indent.toList ∨ c ∈ after := by simpa [Row.text] using member
      exact either.elim (blankBefore c) (blankAfter c)
  | monitor entry => exact monitorOf_line (sound.entry entry rfl) blankBefore blankAfter

theorem PrintedLine.Sound.noFeed {line : PrintedLine} (sound : line.Sound) :
    '\n' ∉ line.text.toList := by
  obtain ⟨indent, row⟩ := line
  rw [PrintedLine.text, String.toList_append, List.mem_append, not_or]
  refine ⟨fun member => (sound.indent '\n' member).2 rfl, ?_⟩
  cases row with
  | header count =>
      rw [toList_header, List.mem_append, not_or]
      exact ⟨by decide, (Text.isWord_toString_int count).noFeed⟩
  | empty => exact List.not_mem_nil
  | monitor entry => exact noFeed_line (sound.entry entry rfl).toFormed

/-!
### Listings as they are read
-/

/-- What the end of a line leaves on the line. -/
def LineEnd.rest : LineEnd → List Char
  | .feed => []
  | .returnFeed => ['\r']

theorem LineEnd.toList_text (ending : LineEnd) : ending.text.toList = ending.rest ++ ['\n'] := by
  cases ending <;> rfl

theorem LineEnd.blank_rest (ending : LineEnd) : ∀ c ∈ ending.rest, Text.isBlank c = true := by
  cases ending with
  | feed => simp [LineEnd.rest]
  | returnFeed =>
      intro c member
      obtain rfl := List.mem_singleton.mp member
      decide

theorem LineEnd.noFeed_rest (ending : LineEnd) : '\n' ∉ ending.rest := by
  cases ending <;> decide

/-- The lines of a listing, with the last one though it lacks its end. -/
def linesOf (lines : List (PrintedLine × LineEnd)) (last : Option PrintedLine) : List PrintedLine :=
  lines.map Prod.fst ++ last.toList

theorem toList_printed (lines : List (PrintedLine × LineEnd)) (last : Option PrintedLine) :
    (printed lines last).toList =
      (lines.map fun line => line.1.text.toList ++ line.2.rest).flatMap (· ++ ['\n']) ++
        ((last.map PrintedLine.text).getD "").toList := by
  simp [printed, List.flatMap_map, LineEnd.toList_text]

/-- A printed listing is read line by line: the monitors are those of its entries, in order. -/
theorem monitors_printed {lines : List (PrintedLine × LineEnd)} {last : Option PrintedLine}
    (sound : ∀ line ∈ linesOf lines last, line.Sound) :
    monitors (printed lines last) =
      .ok (((linesOf lines last).filterMap fun line => line.row.entry?).map Entry.monitor) := by
  obtain ⟨ended, unended⟩ := List.forall_mem_append.mp sound
  rw [List.forall_mem_map] at ended
  have noFeed : ∀ text ∈ lines.map fun line => line.1.text.toList ++ line.2.rest, '\n' ∉ text := by
    rw [List.forall_mem_map]
    intro line listed
    rw [List.mem_append, not_or]
    exact ⟨(ended line listed).noFeed, line.2.noFeed_rest⟩
  have each : (lines.map fun line => line.1.text.toList ++ line.2.rest).filterMap monitorOf =
      (lines.map Prod.fst).filterMap fun line => line.row.entry?.map (.ok ·.monitor) := by
    rw [List.filterMap_map, List.filterMap_map]
    exact List.filterMap_congr fun line listed =>
      (ended line listed).monitorOf_eq line.2.blank_rest
  have final : (Text.splitLines ((last.map PrintedLine.text).getD "").toList).filterMap monitorOf =
      last.toList.filterMap fun line => line.row.entry?.map (.ok ·.monitor) := by
    cases last with
    | none => rfl
    | some line =>
        have lineSound := unended line (by simp)
        have read : monitorOf (line.text.toList ++ []) = line.row.entry?.map (.ok ·.monitor) :=
          lineSound.monitorOf_eq (by simp)
        rw [List.append_nil] at read
        rw [Option.map_some, Option.getD_some, Text.splitLines_of_noFeed lineSound.noFeed]
        simp only [Option.toList_some, List.filterMap_cons, List.filterMap_nil, read]
  have gathered : (linesOf lines last).filterMap (fun line => line.row.entry?.map (.ok ·.monitor)) =
      ((((linesOf lines last).filterMap fun line => line.row.entry?).map Entry.monitor).map .ok :
        List (Except DigitFault Monitor)) := by
    rw [List.map_map, List.map_filterMap]
    rfl
  rw [monitors_eq_mapM, toList_printed, Text.splitLines_flatMap_append noFeed,
    List.filterMap_append, each, final, ← List.filterMap_append, ← linesOf, gathered, mapM_id_map_ok]

/-- A monitor named like a geometry, whose output looks like the start of a line. -/
def lookalike : Entry where
  index := 0
  flags := "+*+"
  name := "1/2x3/4+5+-6"
  geometry := { width := 4, widthMm := 0, height := 2, heightMm := 200, x := -4, y := 0 }
  output := some "1:"

/-- A monitor without output, with flags inside its name. -/
def starred : Entry where
  index := 1
  name := "A*+"
  geometry := { width := 4, widthMm := 400, height := 2, heightMm := 200, x := 0, y := -2 }

/-- The lines of the two monitors but for the last, the ends being of both kinds. -/
def oddLines : List (PrintedLine × LineEnd) :=
  [({ row := .header 2 }, .feed), ({ indent := " ", row := .monitor lookalike }, .returnFeed),
    ({ indent := "\t\r", row := .empty }, .feed)]

theorem lookalike_sound : lookalike.Sound where
  flags := by simp [lookalike, isFlag]
  name := by decide
  nameBegins := by simp [lookalike, isFlag]
  width := by decide
  widthMm := by decide
  height := by decide
  heightMm := by decide
  short := by decide
  output := by
    intro output member
    obtain rfl := Option.mem_some.mp member
    decide

theorem starred_sound : starred.Sound where
  flags := by simp [starred]
  name := by decide
  nameBegins := by simp [starred, isFlag]
  width := by decide
  widthMm := by decide
  height := by decide
  heightMm := by decide
  short := by decide
  output := by simp [starred]

theorem monitors_oddLines :
    (∀ line ∈ linesOf oddLines (some { row := .monitor starred }), line.Sound) ∧
      printed oddLines (some { row := .monitor starred }) =
        "Monitors: 2\n 0: +*+1/2x3/4+5+-6 4/0x2/200+-4+0  1:\r\n\t\r\n1: A*+ 4/400x2/200+0+-2" ∧
      monitors (printed oddLines (some { row := .monitor starred })) =
        .ok [lookalike.monitor, starred.monitor] := by
  have sound : ∀ line ∈ linesOf oddLines (some { row := .monitor starred }), line.Sound := by
    simp only [linesOf, oddLines, List.map_cons, List.map_nil, Option.toList_some, List.cons_append,
      List.nil_append, List.forall_mem_cons]
    refine ⟨⟨by simp, by simp [Row.entry?]⟩, ⟨by simp; decide, ?_⟩,
      ⟨by simp; decide, by simp [Row.entry?]⟩, ⟨by simp, ?_⟩, List.forall_mem_nil _⟩
    · rintro entry ⟨⟩
      exact lookalike_sound
    · rintro entry ⟨⟩
      exact starred_sound
  exact ⟨sound, by decide +kernel, monitors_printed sound⟩

end MonitorSplit.Listing
