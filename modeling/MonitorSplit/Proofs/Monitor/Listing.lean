/-
Module: MonitorSplit.Proofs.Monitor.Listing
Purpose: Lines of a listing read back as the monitors that they were written for.
Main exports:
  Listing.Entry, Listing.Entry.Formed, Listing.Entry.Sound, Listing.readFields_line, Listing.text,
  Listing.monitors_text, Listing.exists_monitors_text_iff, Listing.isWord_of_mem_monitors,
  Listing.DigitsAtMost, Listing.exists_monitors_of_digitsAtMost, Listing.Sized,
  Listing.sized_of_mem_monitors
-/
import MonitorSplit.Monitor.Listing
import MonitorSplit.Monitor.Partition
import MonitorSplit.Proofs.Number.Digits
import MonitorSplit.Proofs.Ratio.Pairing
import MonitorSplit.Proofs.Text.Lines

namespace MonitorSplit.Listing

open Text (IsWord)

/-!
### Entries

An entry is what a line says of a monitor.  Its line is made of words and numbers with
separators that belong to none of them, so each field is read up to the next separator.
-/

/-- What a line of a listing says. -/
structure Entry where
  index : Nat
  flags : String := ""
  name : String
  geometry : Geometry
  output : Option String := none
deriving DecidableEq, Repr, Inhabited

namespace Entry

/-- The output at the end of a line, behind two blanks. -/
def outputText (entry : Entry) : String :=
  match entry.output with
  | some output => "  " ++ output
  | none => ""

/-- The line of an entry, without indentation. -/
def line (entry : Entry) : String :=
  toString entry.index ++ ": " ++ entry.flags ++ entry.name ++ " " ++ entry.geometry.render ++
    entry.outputText

/-- The monitor of an entry. -/
def monitor (entry : Entry) : Monitor where
  name := entry.name
  resolution := .plane entry.geometry.width entry.geometry.height
  sizeMm := (entry.geometry.widthMm, entry.geometry.heightMm)
  position := (entry.geometry.x, entry.geometry.y)
  output := entry.output
  primary := entry.flags.toList.contains '*'
  automatic := entry.flags.toList.contains '+'

/-- The fields of an entry can be told apart: names are words that do not begin like flags,
and sizes are not negative. -/
structure Formed (entry : Entry) : Prop where
  flags : ∀ c ∈ entry.flags.toList, isFlag c = true
  name : IsWord entry.name.toList
  nameBegins : ∀ c ∈ entry.name.toList.head?, isFlag c = false
  width : 0 ≤ entry.geometry.width
  widthMm : 0 ≤ entry.geometry.widthMm
  height : 0 ≤ entry.geometry.height
  heightMm : 0 ≤ entry.geometry.heightMm
  output : ∀ output ∈ entry.output, IsWord output.toList

/-- The fields can be told apart, and no number is too long to be read. -/
structure Sound (entry : Entry) : Prop extends entry.Formed where
  short : ∀ number ∈ entry.geometry.numbers, Writable number

end Entry

/-!
### Fields
-/

/-- The text begins with no digit. -/
def EndsNumber (text : List Char) : Prop := ∀ c ∈ text.head?, Text.isDigit c = false

theorem endsNumber_cons {c : Char} (noDigit : Text.isDigit c = false) (rest : List Char) :
    EndsNumber (c :: rest) := by
  simpa [EndsNumber] using noDigit

/-- The figure of a number. -/
def Figure.of (number : Int) : Figure where
  digits := Nat.toDigits 10 number.natAbs
  isNegative := decide (number < 0)

theorem Figure.of_injective : Function.Injective Figure.of := by
  intro number other same
  obtain ⟨digits, signs⟩ := Figure.mk.inj same
  have sizes : number.natAbs = other.natAbs := by
    rw [← Text.decimalValue_toDigits number.natAbs, digits, Text.decimalValue_toDigits]
  have negative : number < 0 ↔ other < 0 := by simpa using signs
  omega

/-- A number that is short enough to be written is read. -/
theorem Figure.value_of {number : Int} (short : Writable number) :
    (Figure.of number).value = .ok number := by
  have few : (Figure.of number).digits.length ≤ mostDigits := short
  rw [Figure.value, if_neg (not_lt.mpr few)]
  simp only [Figure.of, Text.decimalValue_toDigits, decide_eq_true_eq]
  split <;> exact congrArg Except.ok (by omega)

/-- A number that is too long to be written is not read either. -/
theorem Figure.exists_value_of_iff {number : Int} :
    (∃ value, (Figure.of number).value = .ok value) ↔ Writable number := by
  constructor
  · rintro ⟨value, told⟩
    by_contra long
    have many : mostDigits < (Figure.of number).digits.length := not_le.mp long
    rw [Figure.value, if_pos many] at told
    cases told
  · exact fun short => ⟨number, Figure.value_of short⟩

theorem readNumber_append (number : Nat) {rest : List Char} (ends : EndsNumber rest) :
    readNumber ((toString number).toList ++ rest) = some (.of number, rest) := by
  have digits : ∀ c ∈ Nat.toDigits 10 number, Text.isDigit c = true := fun c member =>
    Text.isDigit_of_isPlainDigit (Text.isPlainDigit_of_mem_toDigits member)
  have stops : rest.takeWhile Text.isDigit = [] ∧ rest.dropWhile Text.isDigit = rest := by
    cases rest with
    | nil => exact ⟨rfl, rfl⟩
    | cons c rest => simp [ends c rfl]
  have unsigned : ¬ (number : Int) < 0 := by omega
  rw [readNumber, toList_toString_nat, List.takeWhile_append_of_pos digits,
    List.dropWhile_append_of_pos digits, stops.1, stops.2, List.append_nil,
    if_neg Nat.toDigits_ne_nil, Figure.of, Int.natAbs_natCast, decide_eq_false unsigned]

theorem readNumber_append_int {number : Int} (nonneg : 0 ≤ number) {rest : List Char}
    (ends : EndsNumber rest) :
    readNumber ((toString number).toList ++ rest) = some (.of number, rest) := by
  obtain ⟨size, rfl⟩ := Int.eq_ofNat_of_zero_le nonneg
  rw [toList_toString_int, if_pos nonneg, Int.toNat_natCast, ← toList_toString_nat]
  exact readNumber_append size ends

theorem readSigned_append (number : Int) {rest : List Char} (ends : EndsNumber rest) :
    readSigned ((toString number).toList ++ rest) = some (.of number, rest) := by
  by_cases nonneg : 0 ≤ number
  · have unsigned : ∀ later, (toString number).toList ++ rest ≠ '-' :: later := by
      intro later sign
      rw [toList_toString_int, if_pos nonneg] at sign
      obtain ⟨digit, digits, found⟩ := List.exists_cons_of_ne_nil
        (Nat.toDigits_ne_nil (n := number.toNat) (b := 10))
      rw [found, List.cons_append, List.cons.injEq] at sign
      have plain : Text.isPlainDigit digit = true :=
        Text.isPlainDigit_of_mem_toDigits (by rw [found]; exact List.mem_cons_self)
      rw [sign.1] at plain
      exact absurd plain (by decide)
    rw [readSigned.eq_2 _ unsigned, readNumber_append_int nonneg ends]
  · have digits := readNumber_append (-number).toNat ends
    rw [toList_toString_nat] at digits
    have size : (((-number).toNat : Nat) : Int).natAbs = number.natAbs := by omega
    have negative : number < 0 := by omega
    rw [toList_toString_int, if_neg nonneg, List.cons_append, readSigned, digits, Option.map_some,
      Figure.of, Figure.of, size, decide_eq_true negative]

theorem readMark_cons (mark : Char) (rest : List Char) : readMark mark (mark :: rest) = some rest :=
  if_pos rfl

theorem readBlanks_append {blank : Char} (isBlank : Text.isBlank blank = true) {rest : List Char}
    (begins : ∀ c ∈ rest.head?, Text.isBlank c = false) : readBlanks (blank :: rest) = some rest := by
  rw [readBlanks, if_pos isBlank, Text.trimStart_of_head begins]

theorem readWord_append {word rest : List Char} (isWord : IsWord word)
    (ends : ∀ c ∈ rest.head?, Text.isBlank c = true) :
    readWord (word ++ rest) = some (word, rest) := by
  simp [readWord, Text.firstWord_append_of_isWord isWord ends, isWord.1]

theorem splitFlags_append {flags name : List Char} (areFlags : ∀ c ∈ flags, isFlag c = true)
    (some_name : name ≠ []) (begins : ∀ c ∈ name.head?, isFlag c = false) :
    splitFlags (flags ++ name) = (flags, name) := by
  obtain ⟨first, rest, rfl⟩ := List.exists_cons_of_ne_nil some_name
  have run : (flags ++ first :: rest).takeWhile isFlag = flags := by
    rw [List.takeWhile_append_of_pos areFlags, List.takeWhile_cons_of_neg (by simp [begins first rfl]),
      List.append_nil]
  simp [splitFlags, run]

/-- The output is read if there is one, and nothing is read at the end of a line. -/
theorem readOutput_outputText {entry : Entry} (formed : entry.Formed) :
    readOutput entry.outputText.toList = entry.output := by
  unfold Entry.outputText
  cases given : entry.output with
  | none => rfl
  | some output =>
      have isWord : IsWord output.toList := formed.output output given
      have word : readWord (output.toList ++ []) = some (output.toList, []) :=
        readWord_append isWord (by simp)
      have begins : ∀ c ∈ output.toList.head?, Text.isBlank c = false := fun c member =>
        isWord.2 c (List.mem_of_mem_head? member)
      have blanks : readBlanks (' ' :: ' ' :: output.toList) = some output.toList := by
        rw [readBlanks, if_pos (by decide), Text.trimStart, List.dropWhile_cons_of_pos (by decide),
          ← Text.trimStart, Text.trimStart_of_head begins]
      rw [List.append_nil] at word
      have text : ("  " ++ output).toList = ' ' :: ' ' :: output.toList := by simp
      rw [text, readOutput, blanks]
      simp [word]

theorem render_eq (geometry : Geometry) :
    geometry.render =
      toString geometry.width ++ "/" ++ toString geometry.widthMm ++ "x" ++
        toString geometry.height ++ "/" ++ toString geometry.heightMm ++
        ("+" ++ toString geometry.x ++ "+" ++ toString geometry.y) := rfl

theorem toList_render (geometry : Geometry) (rest : List Char) :
    geometry.render.toList ++ rest =
      (toString geometry.width).toList ++ '/' :: ((toString geometry.widthMm).toList ++
        'x' :: ((toString geometry.height).toList ++ '/' :: ((toString geometry.heightMm).toList ++
          '+' :: ((toString geometry.x).toList ++ '+' :: ((toString geometry.y).toList ++ rest))))) := by
  simp [render_eq]

theorem isWord_render (geometry : Geometry) : IsWord geometry.render.toList := by
  have number := Text.isWord_toString_int
  have mark {c : Char} (noBlank : Text.isBlank c = false) : IsWord [c] := by
    simpa [IsWord] using noBlank
  rw [← List.append_nil geometry.render.toList, toList_render, List.append_nil]
  exact (number _).append ((mark (by decide)).append ((number _).append ((mark (by decide)).append
    ((number _).append ((mark (by decide)).append ((number _).append ((mark (by decide)).append
      ((number _).append ((mark (by decide)).append (number _))))))))))

theorem endsNumber_outputText (entry : Entry) : EndsNumber entry.outputText.toList := by
  unfold EndsNumber Entry.outputText
  cases entry.output with
  | none => simp
  | some output => simp; decide

/-- Flags do not end a word, nor do they make one. -/
theorem isWord_append_of_flags {flags name : List Char} (areFlags : ∀ c ∈ flags, isFlag c = true)
    (isWord : IsWord name) : IsWord (flags ++ name) := by
  refine ⟨fun empty => isWord.1 (List.append_eq_nil_iff.mp empty).2, fun c member => ?_⟩
  rcases List.mem_append.mp member with flag | letter
  · have either : c = '+' ∨ c = '*' := by simpa [isFlag] using areFlags c flag
    rcases either with rfl | rfl <;> decide
  · exact isWord.2 c letter

theorem toList_line (entry : Entry) :
    entry.line.toList = (toString entry.index).toList ++ ':' :: ' ' ::
      (entry.flags.toList ++ entry.name.toList ++ ' ' ::
        (entry.geometry.render.toList ++ entry.outputText.toList)) := by
  simp [Entry.line]

/-- A reader goes on after it has read something. -/
theorem bind_eq_some {α β : Type} {read : Option α} {next : α → Option β} {value : α} {last : β}
    (first : read = some value) (rest : next value = some last) : (read >>= next) = some last :=
  Option.bind_eq_some_iff.mpr ⟨value, first, rest⟩

/-- What the line of an entry says. -/
def Entry.fields (entry : Entry) : Fields where
  flags := entry.flags.toList
  name := entry.name.toList
  width := .of entry.geometry.width
  widthMm := .of entry.geometry.widthMm
  height := .of entry.geometry.height
  heightMm := .of entry.geometry.heightMm
  x := .of entry.geometry.x
  y := .of entry.geometry.y
  output := entry.output

/-- The line of an entry is read field by field. -/
theorem readFields_line {entry : Entry} (formed : entry.Formed) :
    readFields entry.line.toList = some entry.fields := by
  have isWord := isWord_append_of_flags formed.flags formed.name
  have endsWord (rest : List Char) : ∀ c ∈ (' ' :: rest).head?, Text.isBlank c = true := by
    rintro c ⟨⟩
    decide
  have number := Text.isWord_toString_int entry.geometry.width
  rw [toList_line, toList_render]
  apply bind_eq_some (readNumber_append _ (endsNumber_cons (by decide) _))
  apply bind_eq_some (readMark_cons _ _)
  apply bind_eq_some (readBlanks_append (by decide) (isWord.head?_append _))
  apply bind_eq_some (readWord_append isWord (endsWord _))
  apply bind_eq_some (readBlanks_append (by decide) (number.head?_append _))
  apply bind_eq_some (readNumber_append_int formed.width (endsNumber_cons (by decide) _))
  apply bind_eq_some (readMark_cons _ _)
  apply bind_eq_some (readNumber_append_int formed.widthMm (endsNumber_cons (by decide) _))
  apply bind_eq_some (readMark_cons _ _)
  apply bind_eq_some (readNumber_append_int formed.height (endsNumber_cons (by decide) _))
  apply bind_eq_some (readMark_cons _ _)
  apply bind_eq_some (readNumber_append_int formed.heightMm (endsNumber_cons (by decide) _))
  apply bind_eq_some (readMark_cons _ _)
  apply bind_eq_some (readSigned_append _ (endsNumber_cons (by decide) _))
  apply bind_eq_some (readMark_cons _ _)
  apply bind_eq_some (readSigned_append _ (endsNumber_outputText entry))
  dsimp only
  rw [splitFlags_append formed.flags formed.name.1 formed.nameBegins, readOutput_outputText formed]
  rfl

/-- A monitor has the name and the output that its line says, and the values of the figures. -/
theorem Fields.monitor_eq_ok_iff {fields : Fields} {monitor : Monitor} :
    fields.monitor = .ok monitor ↔
      ∃ width widthMm height heightMm x y, fields.width.value = .ok width ∧
        fields.widthMm.value = .ok widthMm ∧ fields.height.value = .ok height ∧
        fields.heightMm.value = .ok heightMm ∧ fields.x.value = .ok x ∧ fields.y.value = .ok y ∧
        monitor = {
          name := String.ofList fields.name
          resolution := .plane width height
          sizeMm := (widthMm, heightMm)
          position := (x, y)
          output := fields.output
          primary := fields.flags.contains '*'
          automatic := fields.flags.contains '+' } := by
  constructor
  · intro told
    obtain ⟨width, wide, told⟩ := bind_eq_ok_iff.mp told
    obtain ⟨widthMm, wideMm, told⟩ := bind_eq_ok_iff.mp told
    obtain ⟨height, high, told⟩ := bind_eq_ok_iff.mp told
    obtain ⟨heightMm, highMm, told⟩ := bind_eq_ok_iff.mp told
    obtain ⟨x, left, told⟩ := bind_eq_ok_iff.mp told
    obtain ⟨y, top, told⟩ := bind_eq_ok_iff.mp told
    exact ⟨width, widthMm, height, heightMm, x, y, wide, wideMm, high, highMm, left, top,
      (Except.ok.inj told).symm⟩
  · rintro ⟨width, widthMm, height, heightMm, x, y, wide, wideMm, high, highMm, left, top, rfl⟩
    rw [Fields.monitor, wide, wideMm, high, highMm, left, top]
    rfl

/-- What the line of an entry says is its monitor. -/
theorem monitor_fields {entry : Entry} (short : ∀ number ∈ entry.geometry.numbers, Writable number) :
    entry.fields.monitor = .ok entry.monitor := by
  obtain ⟨width, widthMm, height, heightMm, x, y, -⟩ :
      Writable entry.geometry.width ∧ Writable entry.geometry.widthMm ∧
        Writable entry.geometry.height ∧ Writable entry.geometry.heightMm ∧
        Writable entry.geometry.x ∧ Writable entry.geometry.y ∧ ∀ number ∈ [], Writable number := by
    simpa only [Geometry.numbers, List.forall_mem_cons] using short
  exact Fields.monitor_eq_ok_iff.mpr ⟨_, _, _, _, _, _, Figure.value_of width, Figure.value_of widthMm,
    Figure.value_of height, Figure.value_of heightMm, Figure.value_of x, Figure.value_of y, by
      simp only [Entry.fields, String.ofList_toList]; rfl⟩

/-- A line with a number that is too long comes to no monitor. -/
theorem exists_monitor_fields_iff {entry : Entry} :
    (∃ monitor, entry.fields.monitor = .ok monitor) ↔
      ∀ number ∈ entry.geometry.numbers, Writable number := by
  refine ⟨fun ⟨monitor, told⟩ => ?_, fun short => ⟨_, monitor_fields short⟩⟩
  obtain ⟨width, widthMm, height, heightMm, x, y, wide, wideMm, high, highMm, left, top, -⟩ :=
    Fields.monitor_eq_ok_iff.mp told
  have short {number value : Int} (read : (Figure.of number).value = .ok value) : Writable number :=
    Figure.exists_value_of_iff.mp ⟨value, read⟩
  simp only [Geometry.numbers, List.forall_mem_cons]
  exact ⟨short wide, short wideMm, short high, short highMm, short left, short top,
    List.forall_mem_nil _⟩

/-!
### Lines
-/

/-- The monitor that a line describes. -/
def monitorOf (line : List Char) : Option (Except DigitFault Monitor) := (readLine line).monitor?

theorem monitorOf_trim (line : List Char) : monitorOf line = monitorOf (Text.trim line) := by
  rw [monitorOf, monitorOf, readLine, readLine, Text.trim_trim]

/-- What a line says, if it describes a monitor. -/
def fieldsOf (line : List Char) : Option Fields :=
  match readLine line with
  | .monitor fields => some fields
  | _ => none

theorem fieldsOf_eq_some_iff {line : List Char} {fields : Fields} :
    fieldsOf line = some fields ↔ readLine line = .monitor fields := by
  unfold fieldsOf
  split <;> simp_all

/-- A line of a listing is read by itself. -/
theorem mem_readLines {listing : String} {line : List Char} {fields : Fields}
    (member : line ∈ Text.splitLines listing.toList) (read : readLine line = .monitor fields) :
    Line.monitor fields ∈ readLines listing := by
  have trims (line : List Char) : fieldsOf line = fieldsOf (Text.trim line) := by
    rw [fieldsOf, fieldsOf, readLine, readLine, Text.trim_trim]
  have found : fields ∈ (Text.splitLines (Text.trim listing.toList)).filterMap fieldsOf := by
    rw [Text.filterMap_splitLines_trim trims rfl]
    exact List.mem_filterMap.mpr ⟨line, member, fieldsOf_eq_some_iff.mpr read⟩
  obtain ⟨trimmed, listed, told⟩ := List.mem_filterMap.mp found
  exact List.mem_map.mpr ⟨trimmed, listed, fieldsOf_eq_some_iff.mp told⟩

/-- The monitors of a listing are those of its lines. -/
theorem monitors_eq_mapM (listing : String) :
    monitors listing = ((Text.splitLines listing.toList).filterMap monitorOf).mapM id := by
  rw [← Text.filterMap_splitLines_trim monitorOf_trim rfl, monitors, readLines, List.filterMap_map]
  rfl

/-- Lines that each end with a line feed are read one by one. -/
theorem monitors_flatMap {lines : List (List Char)} (noFeed : ∀ line ∈ lines, '\n' ∉ line) :
    monitors (String.ofList (lines.flatMap (· ++ ['\n']))) = (lines.filterMap monitorOf).mapM id := by
  have nothing : monitorOf [] = none := rfl
  rw [monitors_eq_mapM, String.toList_ofList, Text.splitLines_flatMap noFeed,
    List.filterMap_append, List.filterMap_cons, nothing, List.filterMap_nil, List.append_nil]

/-- Monitors that can be read are read. -/
theorem mapM_id_map_ok {ε α : Type} (values : List α) :
    (values.map (Except.ok (ε := ε))).mapM id = .ok values := by
  induction values with
  | nil => rfl
  | cons value rest inductionHypothesis =>
      rw [List.map_cons, List.mapM_cons, inductionHypothesis]
      rfl

/-- A line begins with a digit of its index. -/
theorem exists_line_eq_cons (entry : Entry) :
    ∃ digit rest, Text.isPlainDigit digit = true ∧ entry.line.toList = digit :: rest := by
  have text := toList_line entry
  obtain ⟨digit, digits, found⟩ := List.exists_cons_of_ne_nil
    (Nat.toDigits_ne_nil (n := entry.index) (b := 10))
  rw [toList_toString_nat, found, List.cons_append] at text
  exact ⟨digit, _, Text.isPlainDigit_of_mem_toDigits (by rw [found]; exact List.mem_cons_self), text⟩

/-- A line ends with the word of its output or, without an output, with a number. -/
theorem exists_line_eq_append {entry : Entry} (formed : entry.Formed) :
    ∃ front word, IsWord word ∧ entry.line.toList = front ++ word := by
  cases given : entry.output with
  | some output =>
      refine ⟨(toString entry.index ++ ": " ++ entry.flags ++ entry.name ++ " " ++
        entry.geometry.render ++ "  ").toList, output.toList, formed.output output given, ?_⟩
      simp [Entry.line, Entry.outputText, given]
  | none =>
      refine ⟨(toString entry.index ++ ": " ++ entry.flags ++ entry.name ++ " " ++
        toString entry.geometry.width ++ "/" ++ toString entry.geometry.widthMm ++ "x" ++
        toString entry.geometry.height ++ "/" ++ toString entry.geometry.heightMm ++
        "+" ++ toString entry.geometry.x ++ "+").toList, (toString entry.geometry.y).toList,
        Text.isWord_toString_int _, ?_⟩
      simp [Entry.line, Entry.outputText, given, render_eq]

/-- A line has no blanks at its ends. -/
theorem trim_line {entry : Entry} (formed : entry.Formed) :
    Text.trim entry.line.toList = entry.line.toList := by
  refine Text.trim_of_ends ?_ ?_
  · obtain ⟨digit, rest, plain, text⟩ := exists_line_eq_cons entry
    rw [text]
    intro c member
    cases member
    exact Text.isBlank_of_isPlainDigit plain
  · obtain ⟨front, word, isWord, text⟩ := exists_line_eq_append formed
    rw [text]
    exact isWord.getLast?_append front

/-- An entry is read from its line, whatever blanks are around it. -/
theorem readLine_line {entry : Entry} (formed : entry.Formed) {before after : List Char}
    (blankBefore : ∀ c ∈ before, Text.isBlank c = true)
    (blankAfter : ∀ c ∈ after, Text.isBlank c = true) :
    readLine (before ++ entry.line.toList ++ after) = .monitor entry.fields := by
  obtain ⟨digit, rest, plain, text⟩ := exists_line_eq_cons entry
  have no_header : headerMark.isPrefixOf entry.line.toList = false := by
    have mark : headerMark = 'M' :: "onitors:".toList := rfl
    have differ : ('M' == digit) = false := by
      rw [beq_eq_false_iff_ne]
      rintro rfl
      exact absurd plain (by decide)
    rw [mark, text, List.isPrefixOf, differ, Bool.false_and]
  rw [readLine, Text.trim_padded blankBefore blankAfter, trim_line formed]
  simp [text ▸ List.cons_ne_nil digit rest, no_header, readFields_line formed]

/-- What is read from the line of an entry comes to its monitor. -/
theorem monitorOf_line {entry : Entry} (sound : entry.Sound) {before after : List Char}
    (blankBefore : ∀ c ∈ before, Text.isBlank c = true)
    (blankAfter : ∀ c ∈ after, Text.isBlank c = true) :
    monitorOf (before ++ entry.line.toList ++ after) = some (.ok entry.monitor) := by
  rw [monitorOf, readLine_line sound.toFormed blankBefore blankAfter, Line.monitor?,
    monitor_fields sound.short]

/-- No word or number of a line holds a line feed, and nor does what stands between them. -/
theorem noFeed_line {entry : Entry} (formed : entry.Formed) : '\n' ∉ entry.line.toList := by
  have number : '\n' ∉ (toString entry.index).toList := by
    rw [toList_toString_nat]
    exact (Text.isWord_toDigits entry.index).noFeed
  have named := (isWord_append_of_flags formed.flags formed.name).noFeed
  have output : '\n' ∉ entry.outputText.toList := by
    unfold Entry.outputText
    cases given : entry.output with
    | none => simp
    | some output => simpa using (formed.output output given).noFeed
  rw [toList_line]
  simp only [List.mem_append, List.mem_cons, not_or] at named ⊢
  exact ⟨number, by decide, by decide, named, by decide, (isWord_render entry.geometry).noFeed, output⟩

/-- A listing of entries: each on a line of its own, behind a blank. -/
def text (entries : List Entry) : String :=
  String.ofList ((entries.map fun entry => ' ' :: entry.line.toList).flatMap (· ++ ['\n']))

/-- The line of each entry stands in the listing. -/
theorem noFeed_of_formed {entries : List Entry} (formed : ∀ entry ∈ entries, entry.Formed) :
    ∀ line ∈ entries.map (fun entry => ' ' :: entry.line.toList), '\n' ∉ line := by
  intro line member
  rcases List.mem_map.mp member with ⟨entry, listed, rfl⟩
  simpa using noFeed_line (formed entry listed)

theorem readLine_indented {entry : Entry} (formed : entry.Formed) :
    readLine (' ' :: entry.line.toList) = .monitor entry.fields := by
  have blank : ∀ c ∈ [' '], Text.isBlank c = true := by
    intro c member
    rcases List.mem_singleton.mp member with rfl
    decide
  have read : readLine ([' '] ++ entry.line.toList ++ []) = .monitor entry.fields :=
    readLine_line formed blank (by simp)
  simpa using read

/-- Every entry is read, whether its numbers can be read or not. -/
theorem mem_readLines_text {entries : List Entry} (formed : ∀ entry ∈ entries, entry.Formed)
    {entry : Entry} (member : entry ∈ entries) :
    Line.monitor entry.fields ∈ readLines (text entries) := by
  refine mem_readLines ?_ (readLine_indented (formed entry member))
  rw [text, String.toList_ofList, Text.splitLines_flatMap (noFeed_of_formed formed)]
  exact List.mem_append_left _ (List.mem_map_of_mem member)

/-- A listing comes to what its entries say. -/
theorem monitors_text_formed {entries : List Entry} (formed : ∀ entry ∈ entries, entry.Formed) :
    monitors (text entries) = (entries.map fun entry => entry.fields.monitor).mapM id := by
  have each : (entries.map fun entry => ' ' :: entry.line.toList).filterMap monitorOf =
      entries.map fun entry => entry.fields.monitor := by
    rw [List.filterMap_map, List.filterMap_eq_map_iff_forall_eq_some]
    intro entry listed
    simp only [Function.comp_apply, monitorOf, readLine_indented (formed entry listed), Line.monitor?]
  rw [text, monitors_flatMap (noFeed_of_formed formed), each]

/-- A listing is read entry by entry. -/
theorem monitors_text {entries : List Entry} (sound : ∀ entry ∈ entries, entry.Sound) :
    monitors (text entries) = .ok (entries.map Entry.monitor) := by
  have each : (entries.map fun entry => entry.fields.monitor) =
      (entries.map Entry.monitor).map .ok := by
    rw [List.map_map]
    exact List.map_congr_left fun entry listed => monitor_fields (sound entry listed).short
  rw [monitors_text_formed fun entry listed => (sound entry listed).toFormed, each, mapM_id_map_ok]

/-- One number that is too long fails the whole listing. -/
theorem exists_monitors_text_iff {entries : List Entry} (formed : ∀ entry ∈ entries, entry.Formed) :
    (∃ found, monitors (text entries) = .ok found) ↔
      ∀ entry ∈ entries, ∀ number ∈ entry.geometry.numbers, Writable number := by
  rw [monitors_text_formed formed]
  constructor
  · rintro ⟨found, read⟩ entry listed
    obtain ⟨monitor, -, told⟩ :=
      exists_of_mem_left (forall₂_of_mapM read) (List.mem_map_of_mem listed)
    exact exists_monitor_fields_iff.mp ⟨monitor, told⟩
  · intro short
    have sound : ∀ entry ∈ entries, entry.Sound := fun entry listed =>
      { toFormed := formed entry listed, short := short entry listed }
    exact ⟨_, (monitors_text_formed formed).symm.trans (monitors_text sound)⟩

/-!
### Names

Whatever a listing says, the names and outputs in it are words.
-/

theorem isWord_of_readWord {text word rest : List Char} (read : readWord text = some (word, rest)) :
    IsWord word := by
  by_cases none_read : (Text.firstWord text).1 = []
  · simp [readWord, none_read] at read
  · simp only [readWord, none_read, if_false, Option.some.injEq] at read
    obtain rfl : (Text.firstWord text).1 = word := congrArg Prod.fst read
    exact Text.isWord_firstWord none_read

theorem isWord_splitFlags {word : List Char} (isWord : IsWord word) : IsWord (splitFlags word).2 := by
  have size : 0 < word.length := List.length_pos_iff.mpr isWord.1
  refine ⟨?_, fun c member => isWord.2 c (List.mem_of_mem_drop member)⟩
  simp only [splitFlags, ne_eq, List.drop_eq_nil_iff]
  omega

theorem isWord_of_readOutput {text : List Char} {output : String}
    (read : readOutput text = some output) : IsWord output.toList := by
  simp only [readOutput, Option.bind_eq_bind, Option.bind_eq_some_iff] at read
  obtain ⟨_, -, ⟨word, rest⟩, found, same⟩ := read
  obtain rfl : String.ofList word = output := Option.some.inj same
  rw [String.toList_ofList]
  exact isWord_of_readWord found

/-!
### Numbers

A reader goes on in what the one before it left of the line, so every number of a line is a run
of digits somewhere in it.
-/

/-- The figure is a run of digits in the text. -/
def HoldsFigure (text : List Char) (figure : Figure) : Prop :=
  figure.digits <:+: text ∧ ∀ c ∈ figure.digits, Text.isDigit c = true

/-- A figure that is read without a sign is a run of digits, and the rest comes after it. -/
theorem of_readNumber {text rest : List Char} {figure : Figure}
    (read : readNumber text = some (figure, rest)) :
    rest <:+ text ∧ HoldsFigure text figure ∧ figure.isNegative = false := by
  unfold readNumber at read
  dsimp only at read
  split at read
  · cases read
  · cases read
    exact ⟨List.dropWhile_suffix _, ⟨(List.takeWhile_prefix _).isInfix,
      fun c member => List.mem_takeWhile_imp member⟩, rfl⟩

theorem of_readSigned {text rest : List Char} {figure : Figure}
    (read : readSigned text = some (figure, rest)) : rest <:+ text ∧ HoldsFigure text figure := by
  unfold readSigned at read
  split at read
  · obtain ⟨⟨unsigned, later⟩, found, same⟩ := Option.map_eq_some_iff.mp read
    cases same
    obtain ⟨suffix, ⟨inside, digits⟩, -⟩ := of_readNumber found
    exact ⟨suffix.trans (List.suffix_cons _ _), inside.trans (List.suffix_cons _ _).isInfix, digits⟩
  · obtain ⟨suffix, holds, -⟩ := of_readNumber read
    exact ⟨suffix, holds⟩

theorem readMark_suffix {mark : Char} {text rest : List Char} (read : readMark mark text = some rest) :
    rest <:+ text := by
  unfold readMark at read
  split at read
  · split at read
    · cases read
      exact List.suffix_cons _ _
    · cases read
  · cases read

theorem readBlanks_suffix {text rest : List Char} (read : readBlanks text = some rest) :
    rest <:+ text := by
  unfold readBlanks at read
  split at read
  · split at read
    · cases read
      exact (List.dropWhile_suffix _).trans (List.suffix_cons _ _)
    · cases read
  · cases read

theorem readWord_suffix {text word rest : List Char} (read : readWord text = some (word, rest)) :
    rest <:+ text := by
  unfold readWord at read
  dsimp only at read
  split at read
  · cases read
  · cases read
    exact List.dropWhile_suffix _

theorem HoldsFigure.of_suffix {line text : List Char} {figure : Figure}
    (holds : HoldsFigure text figure) (suffix : text <:+ line) : HoldsFigure line figure :=
  ⟨holds.1.trans suffix.isInfix, holds.2⟩

/-- The figures of a size, in pixels and millimetres. -/
def Fields.sizes (fields : Fields) : List Figure :=
  [fields.width, fields.widthMm, fields.height, fields.heightMm]

/-- What a line says stands in it: names are words and figures are runs of digits, those of sizes
without a sign. -/
structure Fields.Within (line : List Char) (fields : Fields) : Prop where
  name : IsWord fields.name
  output : ∀ output ∈ fields.output, IsWord output.toList
  sizes : ∀ figure ∈ fields.sizes, HoldsFigure line figure ∧ figure.isNegative = false
  position : HoldsFigure line fields.x ∧ HoldsFigure line fields.y

theorem within_of_readFields {line : List Char} {fields : Fields}
    (read : readFields line = some fields) : fields.Within line := by
  unfold readFields at read
  rcases Option.bind_eq_some_iff.mp read with ⟨⟨_, afterIndex⟩, index, read⟩
  rcases Option.bind_eq_some_iff.mp read with ⟨afterColon, colon, read⟩
  rcases Option.bind_eq_some_iff.mp read with ⟨text, blanks, read⟩
  rcases Option.bind_eq_some_iff.mp read with ⟨⟨word, rest⟩, found, read⟩
  rcases Option.bind_eq_some_iff.mp read with ⟨sizes, gap, read⟩
  rcases Option.bind_eq_some_iff.mp read with ⟨⟨width, afterWidth⟩, wide, read⟩
  rcases Option.bind_eq_some_iff.mp read with ⟨widthMmText, slash, read⟩
  rcases Option.bind_eq_some_iff.mp read with ⟨⟨widthMm, afterWidthMm⟩, wideMm, read⟩
  rcases Option.bind_eq_some_iff.mp read with ⟨heightText, cross, read⟩
  rcases Option.bind_eq_some_iff.mp read with ⟨⟨height, afterHeight⟩, high, read⟩
  rcases Option.bind_eq_some_iff.mp read with ⟨heightMmText, secondSlash, read⟩
  rcases Option.bind_eq_some_iff.mp read with ⟨⟨heightMm, afterHeightMm⟩, highMm, read⟩
  rcases Option.bind_eq_some_iff.mp read with ⟨xText, plus, read⟩
  rcases Option.bind_eq_some_iff.mp read with ⟨⟨x, afterX⟩, left, read⟩
  rcases Option.bind_eq_some_iff.mp read with ⟨yText, secondPlus, read⟩
  rcases Option.bind_eq_some_iff.mp read with ⟨⟨y, outputText⟩, top, same⟩
  rcases Option.some.inj same with rfl
  -- each piece of text that a figure is read from is an end of the line
  have widthInside : sizes <:+ line :=
    (readBlanks_suffix gap).trans ((readWord_suffix found).trans ((readBlanks_suffix blanks).trans
      ((readMark_suffix colon).trans (of_readNumber index).1)))
  have widthMmInside : widthMmText <:+ line :=
    (readMark_suffix slash).trans ((of_readNumber wide).1.trans widthInside)
  have heightInside : heightText <:+ line :=
    (readMark_suffix cross).trans ((of_readNumber wideMm).1.trans widthMmInside)
  have heightMmInside : heightMmText <:+ line :=
    (readMark_suffix secondSlash).trans ((of_readNumber high).1.trans heightInside)
  have xInside : xText <:+ line :=
    (readMark_suffix plus).trans ((of_readNumber highMm).1.trans heightMmInside)
  have yInside : yText <:+ line :=
    (readMark_suffix secondPlus).trans ((of_readSigned left).1.trans xInside)
  have size {piece after : List Char} {figure : Figure} (inside : piece <:+ line)
      (digits : readNumber piece = some (figure, after)) :
      HoldsFigure line figure ∧ figure.isNegative = false :=
    ⟨(of_readNumber digits).2.1.of_suffix inside, (of_readNumber digits).2.2⟩
  constructor
  case name => exact isWord_splitFlags (isWord_of_readWord found)
  case output => exact fun _ given => isWord_of_readOutput given
  case sizes =>
    simp only [Fields.sizes, List.forall_mem_cons]
    exact ⟨size widthInside wide, size widthMmInside wideMm, size heightInside high,
      size heightMmInside highMm, List.forall_mem_nil _⟩
  case position =>
    exact ⟨(of_readSigned left).2.of_suffix xInside, (of_readSigned top).2.of_suffix yInside⟩

/-- A line that describes a monitor has the form for that. -/
theorem exists_readFields_of_monitorOf {line : List Char} {described : Except DigitFault Monitor}
    (found : monitorOf line = some described) :
    ∃ fields, readFields (Text.trim line) = some fields ∧ fields.monitor = described := by
  unfold monitorOf readLine at found
  dsimp only at found
  by_cases nothing : Text.trim line = [] ∨ headerMark.isPrefixOf (Text.trim line)
  · rw [if_pos nothing] at found
    cases found
  · rw [if_neg nothing] at found
    cases read : readFields (Text.trim line) with
    | none =>
        rw [read] at found
        cases found
    | some fields =>
        rw [read] at found
        exact ⟨fields, rfl, Option.some.inj found⟩

/-- No number of the text has more digits than this. -/
def DigitsAtMost (bound : Nat) (text : List Char) : Prop :=
  ∀ digits, digits <:+: text → (∀ c ∈ digits, Text.isDigit c = true) → digits.length ≤ bound

theorem digitsAtMost_of_length_le {bound : Nat} {text : List Char} (short : text.length ≤ bound) :
    DigitsAtMost bound text :=
  fun _ inside _ => inside.length_le.trans short

theorem DigitsAtMost.mono {bound greater : Nat} {text : List Char} (few : DigitsAtMost bound text)
    (less : bound ≤ greater) : DigitsAtMost greater text :=
  fun digits inside areDigits => (few digits inside areDigits).trans less

section

variable {bound : Nat} {text : List Char} {figure : Figure} {number : Int}

/-- A figure is read just if it has few enough digits. -/
theorem Figure.exists_value_iff :
    (∃ number, figure.value = .ok number) ↔ figure.digits.length ≤ mostDigits := by
  unfold Figure.value
  rw [← not_lt]
  split <;> simp_all

theorem HoldsFigure.natAbs_lt (holds : HoldsFigure text figure) (few : DigitsAtMost bound text)
    (told : figure.value = .ok number) : number.natAbs < 10 ^ bound := by
  have below := (Text.decimalValue_lt figure.digits).trans_le
    (Nat.pow_le_pow_right (by decide) (few figure.digits holds.1 holds.2))
  unfold Figure.value at told
  split at told
  · cases told
  · rcases Except.ok.inj told with rfl
    split <;> simpa using below

/-- Without a sign a figure denotes no negative number. -/
theorem Figure.nonneg_of_value (unsigned : figure.isNegative = false)
    (told : figure.value = .ok number) : 0 ≤ number := by
  unfold Figure.value at told
  rw [unsigned] at told
  split at told
  · cases told
  · rcases Except.ok.inj told with rfl
    exact Int.natCast_nonneg _

end

/-- What a line says comes to a monitor if no number of it is too long. -/
theorem Fields.Within.exists_monitor {line : List Char} {fields : Fields}
    (within : fields.Within line) (few : DigitsAtMost mostDigits line) :
    ∃ monitor, fields.monitor = .ok monitor := by
  have told {figure : Figure} (holds : HoldsFigure line figure) :
      ∃ number, figure.value = .ok number :=
    Figure.exists_value_iff.mpr (few figure.digits holds.1 holds.2)
  have size (figure : Figure) (member : figure ∈ fields.sizes) :
      ∃ number, figure.value = .ok number := told (within.sizes figure member).1
  obtain ⟨width, wide⟩ := size fields.width (by simp [Fields.sizes])
  obtain ⟨widthMm, wideMm⟩ := size fields.widthMm (by simp [Fields.sizes])
  obtain ⟨height, high⟩ := size fields.height (by simp [Fields.sizes])
  obtain ⟨heightMm, highMm⟩ := size fields.heightMm (by simp [Fields.sizes])
  obtain ⟨x, left⟩ := told within.position.1
  obtain ⟨y, top⟩ := told within.position.2
  exact ⟨_, Fields.monitor_eq_ok_iff.mpr
    ⟨width, widthMm, height, heightMm, x, y, wide, wideMm, high, highMm, left, top, rfl⟩⟩

section

variable {listing : String} {found : List Monitor} {monitor : Monitor}

/-- Every piece of a listing that describes a monitor is a line within it. -/
theorem exists_within_of_mem_pieces {described : Except DigitFault Monitor}
    (listed : described ∈ (Text.splitLines listing.toList).filterMap monitorOf) :
    ∃ line fields, line <:+: listing.toList ∧ Fields.Within line fields ∧
      fields.monitor = described := by
  obtain ⟨line, piece, told⟩ := List.mem_filterMap.mp listed
  obtain ⟨fields, form, monitorTold⟩ := exists_readFields_of_monitorOf told
  have inside : line <:+: listing.toList :=
    Text.intercalate_splitLines listing.toList ▸ Text.isInfix_intercalate_of_mem piece
  exact ⟨_, fields, (Text.isInfix_trim line).trans inside, within_of_readFields form, monitorTold⟩

theorem exists_within_of_mem (read : monitors listing = .ok found) (member : monitor ∈ found) :
    ∃ line fields, line <:+: listing.toList ∧ Fields.Within line fields ∧
      fields.monitor = .ok monitor := by
  rw [monitors_eq_mapM] at read
  obtain ⟨described, listed, rfl⟩ := exists_of_mem_right (forall₂_of_mapM read) member
  exact exists_within_of_mem_pieces listed

/-- A listing without numbers that are too long is read. -/
theorem exists_monitors_of_digitsAtMost (few : DigitsAtMost mostDigits listing.toList) :
    ∃ found, monitors listing = .ok found := by
  cases read : monitors listing with
  | ok found => exact ⟨found, rfl⟩
  | error cause =>
      rw [monitors_eq_mapM] at read
      obtain ⟨_, listed, fault, rfl⟩ := exists_mapM_error_iff.mp ⟨cause, read⟩
      obtain ⟨line, fields, inside, within, failed⟩ := exists_within_of_mem_pieces listed
      obtain ⟨monitor, told⟩ := within.exists_monitor fun digits piece => few digits (piece.trans inside)
      cases failed.symm.trans told

theorem isWord_of_mem_monitors (read : monitors listing = .ok found) (member : monitor ∈ found) :
    IsWord monitor.name.toList ∧ ∀ output ∈ monitor.output, IsWord output.toList := by
  obtain ⟨line, fields, -, within, told⟩ := exists_within_of_mem read member
  obtain ⟨_, _, _, _, _, _, -, -, -, -, -, -, rfl⟩ := Fields.monitor_eq_ok_iff.mp told
  rw [String.toList_ofList]
  exact ⟨within.name, within.output⟩

/-- A listed monitor is a plane.  Its size is not negative, nor are its millimetres, and no number is
longer than the listing lets it be. -/
structure Sized (bound : Nat) (monitor : Monitor) : Prop where
  plane : monitor.resolution.dimensions = 2
  width : 0 ≤ monitor.resolution.width ∧ monitor.resolution.width < 10 ^ bound
  height : 0 ≤ monitor.resolution.height ∧ monitor.resolution.height < 10 ^ bound
  widthMm : 0 ≤ monitor.sizeMm.1 ∧ monitor.sizeMm.1 < 10 ^ bound
  heightMm : 0 ≤ monitor.sizeMm.2 ∧ monitor.sizeMm.2 < 10 ^ bound
  left : monitor.position.1.natAbs < 10 ^ bound
  top : monitor.position.2.natAbs < 10 ^ bound

theorem sized_of_mem_monitors {bound : Nat} (read : monitors listing = .ok found)
    (member : monitor ∈ found) (few : DigitsAtMost bound listing.toList) : Sized bound monitor := by
  obtain ⟨line, fields, inside, within, told⟩ := exists_within_of_mem read member
  obtain ⟨width, widthMm, height, heightMm, x, y, wide, wideMm, high, highMm, left, top, rfl⟩ :=
    Fields.monitor_eq_ok_iff.mp told
  have fewOfLine : DigitsAtMost bound line := fun digits piece => few digits (piece.trans inside)
  have size {figure : Figure} {number : Int} (listed : figure ∈ fields.sizes)
      (value : figure.value = .ok number) : 0 ≤ number ∧ number < 10 ^ bound := by
    obtain ⟨holds, unsigned⟩ := within.sizes figure listed
    have below := holds.natAbs_lt fewOfLine value
    have nonneg := Figure.nonneg_of_value unsigned value
    refine ⟨nonneg, ?_⟩
    rw [← Int.natAbs_of_nonneg nonneg]
    exact_mod_cast below
  exact {
    plane := rfl
    width := size (by simp [Fields.sizes]) wide
    height := size (by simp [Fields.sizes]) high
    widthMm := size (by simp [Fields.sizes]) wideMm
    heightMm := size (by simp [Fields.sizes]) highMm
    left := within.position.1.natAbs_lt fewOfLine left
    top := within.position.2.natAbs_lt fewOfLine top }

end

end MonitorSplit.Listing
