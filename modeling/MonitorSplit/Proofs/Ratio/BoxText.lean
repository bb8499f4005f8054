/-
Module: MonitorSplit.Proofs.Ratio.BoxText
Purpose: Which texts are boxes, where and why the others are refused, and boxes read back.
Main exports:
  Box.run, Box.IsLength, Box.written, Box.Refused, Box.InRange, Box.Reads, Box.reads_texts,
  Box.longSide_not_refused
-/
import MonitorSplit.Proofs.Parser.Greedy
import MonitorSplit.Proofs.Ratio.Rendering

namespace MonitorSplit

namespace Box

/-!
### Texts of boxes
-/

/-- The maximal run of plain digits at the start of a text. -/
def run (text : List Char) : List Char := text.takeWhile Text.isPlainDigit

/-- Digits of a length: their number is neither zero nor too large. -/
structure IsLength (digits : List Char) : Prop where
  plain : ∀ c ∈ digits, Text.isPlainDigit c = true
  positive : 0 < fieldValue digits
  small : fieldValue digits ≤ largestNumeral

instance (digits : List Char) : Decidable (IsLength digits) :=
  decidable_of_iff (digits.all Text.isPlainDigit = true ∧ 0 < fieldValue digits ∧
      fieldValue digits ≤ largestNumeral)
    ⟨fun ⟨plain, positive, small⟩ => ⟨List.all_eq_true.mp plain, positive, small⟩,
      fun ⟨plain, positive, small⟩ => ⟨List.all_eq_true.mpr plain, positive, small⟩⟩

/-- The text of some lengths, an `x` being between them. -/
def written (lengths : List (List Char)) : List Char := List.intercalate ['x'] lengths

/-- The first defect of a text from left to right.  Lengths are read as long as an `x` and a digit
follow, until there are enough of them. -/
inductive Refused (dimensions : Nat) (text : List Char) : Ratio.Refusal → Prop where
  /-- The text begins with no length. -/
  | noLength (missing : run text = []) :
      Refused dimensions text { isFinal := false, code := "Digit", remaining := text }
  /-- A length that is due is too large. -/
  | tooLarge {read : List (List Char)} {here : List Char}
      (lengths : ∀ digits ∈ read, IsLength digits) (few : read.length < dimensions)
      (place : text = read.flatMap (· ++ ['x']) ++ here)
      (large : largestNumeral < fieldValue (run here)) :
      Refused dimensions text { isFinal := true, code := "TooLarge", remaining := here }
  /-- A length that is due has no digit but zeros. -/
  | zero {read : List (List Char)} {here : List Char}
      (lengths : ∀ digits ∈ read, IsLength digits) (few : read.length < dimensions)
      (place : text = read.flatMap (· ++ ['x']) ++ here)
      (digits : run here ≠ []) (zero : fieldValue (run here) = 0) :
      Refused dimensions text { isFinal := true, code := "Zero", remaining := here }
  /-- Lengths are missing where no `x` with a digit behind it follows the last one. -/
  | tooFew {read : List (List Char)} {rest : List Char} (some_read : read ≠ [])
      (lengths : ∀ digits ∈ read, IsLength digits) (few : read.length < dimensions)
      (place : text = written read ++ rest) (ends : run rest = [])
      (stops : ∀ later, rest = 'x' :: later → run later = []) :
      Refused dimensions text { isFinal := false, code := "ManyMN", remaining := rest }
  /-- Something is left behind the last length. -/
  | leftover {read : List (List Char)} {rest : List Char}
      (lengths : ∀ digits ∈ read, IsLength digits) (enough : read.length = dimensions)
      (place : text = written read ++ rest) (ends : run rest = []) (left : rest ≠ []) :
      Refused dimensions text { isFinal := false, code := "Eof", remaining := rest }

/-!
### Lengths
-/

theorem run_eq_nil_iff {text : List Char} : run text = [] ↔ Text.EndsDigits text := by
  cases text with
  | nil => simp [run, Text.EndsDigits]
  | cons c rest => simp [run, Text.EndsDigits, List.takeWhile_cons]

/-- A run of digits ends where no digit follows. -/
theorem run_append {digits rest : List Char} (plain : ∀ c ∈ digits, Text.isPlainDigit c = true)
    (ends : run rest = []) :
    run (digits ++ rest) = digits ∧ (digits ++ rest).dropWhile Text.isPlainDigit = rest :=
  Ratio.takeWhile_digits_append plain (run_eq_nil_iff.mp ends)

theorem run_dropWhile (text : List Char) : run (text.dropWhile Text.isPlainDigit) = [] := by
  rw [run_eq_nil_iff]
  intro c first
  have head := List.head?_dropWhile_not Text.isPlainDigit text
  rw [first] at head
  exact head

theorem IsLength.ne_nil {digits : List Char} (isLength : IsLength digits) : digits ≠ [] := by
  rintro rfl
  exact absurd isLength.positive (by decide)

/-- What is read of a length is decided by the run of digits that the text begins with. -/
theorem positiveNumeral_eq (text : List Char) :
    Parser.positiveNumeral text =
      if run text = [] then .error { defect := .noDigit, remaining := text }
      else if largestNumeral < fieldValue (run text) then
        .error { defect := .tooLarge, remaining := text }
      else if fieldValue (run text) = 0 then .error { defect := .zeroLength, remaining := text }
      else .ok (fieldValue (run text), text.dropWhile Text.isPlainDigit) := by
  rw [Parser.positiveNumeral, Parser.numeral_eq]
  simp only [← run.eq_1]
  by_cases missing : run text = []
  · simp only [missing, if_true]
  · by_cases large : largestNumeral < fieldValue (run text)
    · simp only [missing, large, if_false, if_true]
    · simp only [missing, large, if_false]
      cases fieldValue (run text) <;> rfl

/-- A length is read up to where its digits end. -/
theorem positiveNumeral_append {digits rest : List Char} (isLength : IsLength digits)
    (ends : run rest = []) :
    Parser.positiveNumeral (digits ++ rest) = .ok (fieldValue digits, rest) := by
  obtain ⟨first, behind⟩ := run_append isLength.plain ends
  rw [positiveNumeral_eq, first, behind, if_neg isLength.ne_nil, if_neg isLength.small.not_gt,
    if_neg isLength.positive.ne']

/-- What is read as a length is a whole run of digits. -/
theorem exists_of_positiveNumeral {text rest : List Char} {value : Nat}
    (read : Parser.positiveNumeral text = .ok (value, rest)) :
    ∃ digits, IsLength digits ∧ text = digits ++ rest ∧ run rest = [] ∧
      value = fieldValue digits := by
  rw [positiveNumeral_eq] at read
  split_ifs at read with missing large zero
  cases read
  have plain : ∀ c ∈ run text, Text.isPlainDigit c = true := fun c member =>
    List.mem_takeWhile_imp member
  exact ⟨run text, ⟨plain, Nat.pos_of_ne_zero zero, not_lt.mp large⟩,
    List.takeWhile_append_dropWhile.symm, run_dropWhile text, rfl⟩

/-- Only a missing numeral is a recoverable error. -/
theorem exists_of_positiveNumeral_error {text : List Char} {error : ParseError}
    (failed : Parser.positiveNumeral text = .error error) :
    error.isFinal = false ∧ run text = [] ∧ error = { defect := .noDigit, remaining := text } ∨
      error.isFinal = true ∧
        (largestNumeral < fieldValue (run text) ∧
            error = { defect := .tooLarge, remaining := text } ∨
          run text ≠ [] ∧ fieldValue (run text) = 0 ∧
            error = { defect := .zeroLength, remaining := text }) := by
  rw [positiveNumeral_eq] at failed
  split_ifs at failed with missing large zero
  all_goals cases failed
  · exact .inl ⟨rfl, missing, rfl⟩
  · exact .inr ⟨rfl, .inl ⟨large, rfl⟩⟩
  · exact .inr ⟨rfl, .inr ⟨missing, zero, rfl⟩⟩

/-!
### Lists of lengths
-/

/-- A separator and the length behind it. -/
def further : Parser Nat := Parser.step (Parser.char ['x']) Parser.positiveNumeral

theorem further_cons_x (later : List Char) :
    further ('x' :: later) = Parser.positiveNumeral later := by
  rw [further, Parser.step, Parser.char_singleton_cons, if_pos rfl]

/-- Without a mark no further length is read. -/
theorem further_of_not_x {text : List Char} (noMark : ∀ later, text ≠ 'x' :: later) :
    further text = .error { defect := .otherCharacter, remaining := text } := by
  cases text with
  | nil => rfl
  | cons c rest =>
      have other : c ≠ 'x' := fun same => noMark rest (same ▸ rfl)
      rw [further, Parser.step, Parser.char_singleton_cons, if_neg other]

theorem written_cons (digits : List Char) (others : List (List Char)) :
    written (digits :: others) = digits ++ others.flatMap ('x' :: ·) := by
  induction others generalizing digits with
  | nil => simp [written]
  | cons next others inductionHypothesis =>
      rw [written, List.intercalate_cons_cons, ← written, inductionHypothesis]
      simp

/-- No digit follows a length. -/
theorem run_others {stop : List Char} (ends : run stop = []) (others : List (List Char)) :
    run (others.flatMap ('x' :: ·) ++ stop) = [] := by
  cases others with
  | nil => exact ends
  | cons next others => rfl

theorem run_stop {others : List (List Char)} {stop : List Char}
    (first : run (others.flatMap ('x' :: ·) ++ stop) = []) (ends : others ≠ [] → run stop = []) :
    run stop = [] := by
  cases others with
  | nil => exact first
  | cons next others => exact ends (List.cons_ne_nil _ _)

/-- The lengths after the first one stand behind a mark each. -/
theorem chain_succ_iff {count : Nat} {text stop : List Char} {values : List Nat} :
    Parser.Chain (Parser.char ['x']) Parser.positiveNumeral (count + 1) text values stop ↔
      ∃ others, (∀ digits ∈ others, IsLength digits) ∧ values = others.map fieldValue ∧
        text = others.flatMap ('x' :: ·) ++ stop ∧ (others ≠ [] → run stop = []) := by
  constructor
  · intro chain
    generalize number : count + 1 = index at chain
    induction chain generalizing count with
    | done => exact ⟨[], List.forall_mem_nil _, rfl, rfl, fun some_read => absurd rfl some_read⟩
    | @more index text rest stop value values read consumed later inductionHypothesis =>
        subst number
        obtain ⟨others, lengths, rfl, rfl, ends⟩ := inductionHypothesis rfl
        have step : further text = .ok (value, others.flatMap ('x' :: ·) ++ stop) := read
        by_cases mark : ∃ tail, text = 'x' :: tail
        · obtain ⟨tail, rfl⟩ := mark
          rw [further_cons_x] at step
          obtain ⟨digits, isLength, rfl, stops, rfl⟩ := exists_of_positiveNumeral step
          exact ⟨digits :: others, List.forall_mem_cons.mpr ⟨isLength, lengths⟩, rfl, by simp,
            fun _ => run_stop stops ends⟩
        · rw [further_of_not_x (not_exists.mp mark)] at step
          cases step
  · rintro ⟨others, lengths, rfl, rfl, ends⟩
    induction others generalizing count with
    | nil => exact .done
    | cons digits others inductionHypothesis =>
        obtain ⟨isLength, later⟩ := List.forall_mem_cons.mp lengths
        have stops := ends (List.cons_ne_nil _ _)
        have text : (digits :: others).flatMap ('x' :: ·) ++ stop =
            'x' :: (digits ++ (others.flatMap ('x' :: ·) ++ stop)) := by simp
        have read : further ('x' :: (digits ++ (others.flatMap ('x' :: ·) ++ stop))) =
            .ok (fieldValue digits, others.flatMap ('x' :: ·) ++ stop) := by
          rw [further_cons_x]
          exact positiveNumeral_append isLength (run_others stops others)
        rw [text, List.map_cons]
        refine .more read (fun _ => ?_) (inductionHypothesis later fun _ => stops)
        simp only [List.length_cons, List.length_append]
        omega

/-- A list of lengths is read from the text that they are written as. -/
theorem chain_iff {text stop : List Char} {values : List Nat} :
    Parser.Chain (Parser.char ['x']) Parser.positiveNumeral 0 text values stop ↔
      ∃ read, (∀ digits ∈ read, IsLength digits) ∧ values = read.map fieldValue ∧
        text = written read ++ stop ∧ (read ≠ [] → run stop = []) := by
  constructor
  · intro chain
    cases chain with
    | done => exact ⟨[], List.forall_mem_nil _, rfl, rfl, fun some_read => absurd rfl some_read⟩
    | more read consumed later =>
        obtain ⟨digits, isLength, rfl, stops, rfl⟩ := exists_of_positiveNumeral read
        obtain ⟨others, lengths, rfl, rfl, ends⟩ := chain_succ_iff.mp later
        exact ⟨digits :: others, List.forall_mem_cons.mpr ⟨isLength, lengths⟩, rfl,
          by rw [written_cons, List.append_assoc], fun _ => run_stop stops ends⟩
  · rintro ⟨read, lengths, rfl, rfl, ends⟩
    cases read with
    | nil => exact .done
    | cons digits others =>
        obtain ⟨isLength, later⟩ := List.forall_mem_cons.mp lengths
        have stops := ends (List.cons_ne_nil _ _)
        rw [written_cons, List.append_assoc, List.map_cons]
        refine .more (positiveNumeral_append isLength (run_others stops others))
          (fun further => absurd rfl further) ?_
        exact chain_succ_iff.mpr ⟨others, later, rfl, rfl, fun _ => stops⟩

/-!
### Refusals
-/

/-- What a parse error is to one who is told its code and place. -/
def refusal (error : ParseError) : Ratio.Refusal where
  isFinal := error.isFinal
  code := error.defect.code
  remaining := error.remaining

theorem refusal_injective : Function.Injective refusal := by
  rintro ⟨⟨code, isFinal⟩, remaining⟩ ⟨⟨other, final⟩, place⟩ same
  obtain rfl : isFinal = final := congrArg Ratio.Refusal.isFinal same
  obtain rfl : code = other := congrArg Ratio.Refusal.code same
  obtain rfl : remaining = place := congrArg Ratio.Refusal.remaining same
  rfl

/-- Reads so many lengths from the start of a text. -/
def lengthList (dimensions : Nat) : Parser (List Nat) :=
  Parser.listBetween (.exactly dimensions) (Parser.char ['x']) Parser.positiveNumeral

section

variable {dimensions : Nat} {text : List Char}

/-- Lengths are read one by one until the reading halts. -/
theorem lengthList_eq_iff {outcome : Parser.Outcome (List Nat)} :
    lengthList dimensions text = outcome ↔
      ∃ values stop,
        Parser.Chain (Parser.char ['x']) Parser.positiveNumeral 0 text values stop ∧
          Parser.Halts (.exactly dimensions) (Parser.char ['x']) Parser.positiveNumeral values stop
            outcome := by
  refine Parser.listBetween_eq_iff (Parser.inside_char _).restInside
    Parser.inside_positiveNumeral.restInside (Int.natCast_nonneg _) ?_
  rintro most ⟨⟩
  exact le_rfl

theorem isFull_map_iff {read : List (List Char)} :
    (Bounds.exactly dimensions).isFull (read.map fieldValue).length = false ↔
      read.length < dimensions := by
  simp [Bounds.isFull, Bounds.exactly]

/-- All lengths are read just if the text begins with that many, and no digit follows. -/
theorem lengthList_eq_ok_iff (one : 1 ≤ dimensions) {values : List Nat} {rest : List Char} :
    lengthList dimensions text = .ok (values, rest) ↔
      ∃ read, (∀ digits ∈ read, IsLength digits) ∧ read.length = dimensions ∧
        values = read.map fieldValue ∧ text = written read ++ rest ∧ run rest = [] := by
  rw [lengthList_eq_iff]
  constructor
  · rintro ⟨values, stop, chain, halts⟩
    obtain ⟨read, lengths, rfl, place, ends⟩ := chain_iff.mp chain
    cases halts with
    | full full =>
        have enough : read.length = dimensions := by
          have most : (dimensions : Int) = (read.map fieldValue).length := Option.some.inj full
          rw [List.length_map] at most
          exact_mod_cast most.symm
        have some_read : read ≠ [] := List.ne_nil_of_length_pos (enough ▸ one)
        exact ⟨read, lengths, enough, rfl, place, ends some_read⟩
    | enough due failed soft enough =>
        have few := isFull_map_iff.mp due
        have many : dimensions ≤ (read.map fieldValue).length := Int.ofNat_le.mp enough
        rw [List.length_map] at many
        omega
  · rintro ⟨read, lengths, rfl, rfl, rfl, ends⟩
    refine ⟨_, rest, chain_iff.mpr ⟨read, lengths, rfl, rfl, fun _ => ends⟩, .full ?_⟩
    rw [List.length_map]
    rfl

/-- A mark behind each length is one between any two and one more. -/
theorem flatMap_append_eq {read : List (List Char)} (some_read : read ≠ []) (here : List Char) :
    read.flatMap (· ++ ['x']) ++ here = written read ++ 'x' :: here := by
  obtain ⟨first, rest, rfl⟩ := List.exists_cons_of_ne_nil some_read
  rw [← Text.intercalate_append_separator, written, List.append_assoc, List.singleton_append]

/-- The defect of a length ends the list that it is due in. -/
theorem lengthList_of_final {read : List (List Char)} {here : List Char} {error : ParseError}
    (lengths : ∀ digits ∈ read, IsLength digits) (few : read.length < dimensions)
    (failed : Parser.positiveNumeral here = .error error) (final : error.isFinal = true) :
    lengthList dimensions (read.flatMap (· ++ ['x']) ++ here) = .error error := by
  have due := isFull_map_iff.mpr few
  rw [lengthList_eq_iff]
  cases read with
  | nil => exact ⟨[], here, .done, .failed due failed final⟩
  | cons digits others =>
      have some_read := List.cons_ne_nil digits others
      have place := flatMap_append_eq some_read here
      have step : further ('x' :: here) = .error error := failed
      exact ⟨_, 'x' :: here, chain_iff.mpr ⟨_, lengths, rfl, place, fun _ => rfl⟩,
        .failed due step final⟩

/-- A length that fails for good is refused at its own place. -/
theorem refused_of_final {read : List (List Char)} {here : List Char} {error : ParseError}
    (lengths : ∀ digits ∈ read, IsLength digits) (few : read.length < dimensions)
    (place : text = read.flatMap (· ++ ['x']) ++ here)
    (failed : Parser.positiveNumeral here = .error error) (final : error.isFinal = true) :
    Refused dimensions text (refusal error) := by
  rcases exists_of_positiveNumeral_error failed with
    ⟨soft, -⟩ | ⟨-, ⟨large, rfl⟩ | ⟨digits, zero, rfl⟩⟩
  · rw [soft] at final
    cases final
  · exact .tooLarge lengths few place large
  · exact .zero lengths few place digits zero

/-- Every failure to read the lengths is one of the refusals. -/
theorem refused_of_lengthList {error : ParseError}
    (failed : lengthList dimensions text = .error error) :
    Refused dimensions text (refusal error) := by
  obtain ⟨values, stop, chain, halts⟩ := lengthList_eq_iff.mp failed
  obtain ⟨read, lengths, rfl, place, ends⟩ := chain_iff.mp chain
  -- the first length is read without a mark before it
  cases halts with
  | few due stopped soft =>
      have missing := isFull_map_iff.mp due
      cases read with
      | nil =>
          obtain rfl : text = stop := place
          rcases exists_of_positiveNumeral_error stopped with ⟨-, none_read, rfl⟩ | ⟨final, -⟩
          · exact .noLength none_read
          · rw [soft] at final
            cases final
      | cons digits others =>
          have some_read := List.cons_ne_nil digits others
          refine .tooFew some_read lengths missing place (ends some_read) ?_
          rintro later rfl
          have step : Parser.positiveNumeral later = .error _ :=
            (further_cons_x later).symm.trans stopped
          rcases exists_of_positiveNumeral_error step with ⟨-, none_read, -⟩ | ⟨final, -⟩
          · exact none_read
          · rw [soft] at final
            cases final
  | failed due stopped final =>
      have missing := isFull_map_iff.mp due
      cases read with
      | nil => exact refused_of_final lengths missing place stopped final
      | cons digits others =>
          have step : further stop = .error error := stopped
          by_cases mark : ∃ here, stop = 'x' :: here
          · obtain ⟨here, rfl⟩ := mark
            rw [further_cons_x] at step
            rw [← flatMap_append_eq (List.cons_ne_nil digits others)] at place
            exact refused_of_final lengths missing place step final
          · rw [further_of_not_x (not_exists.mp mark)] at step
            cases step
            cases final
  | @stuck value due some_read read =>
      obtain ⟨count, counted⟩ := Nat.exists_eq_succ_of_ne_zero some_read
      rw [counted] at read
      have step : further stop = .ok (value, stop) := read
      by_cases mark : ∃ here, stop = 'x' :: here
      · obtain ⟨here, rfl⟩ := mark
        rw [further_cons_x] at step
        have shorter := (Parser.inside_positiveNumeral.rest step).length_le
        rw [List.length_cons] at shorter
        omega
      · rw [further_of_not_x (not_exists.mp mark)] at step
        cases step

/-!
### Whole texts
-/

/-- A text is a box if its list of lengths is the whole text. -/
theorem parse_eq (one : 1 ≤ dimensions) (text : List Char) :
    (Box.parse dimensions text).map lengths =
      (Parser.parseAll (Parser.map (List.map Int.ofNat) (lengthList dimensions)) text).mapError
        .parse := by
  have none_due : ¬ (dimensions : Int) < 1 := by omega
  have parser : Box.parser dimensions = .ok (Parser.map ofNumerals
      (Parser.nonemptyList (.exactly dimensions) (Bounds.excludesEmpty_exactly none_due)
        (Parser.char ['x']) Parser.positiveNumeral)) := dif_neg none_due
  rw [lengthList, ← Parser.map_val_nonemptyList _ (Bounds.excludesEmpty_exactly none_due),
    Parser.map_map, Box.parse, parser, readWith, Parser.parseAll_map, Parser.parseAll_map]
  cases Parser.parseAll (Parser.nonemptyList (.exactly dimensions)
    (Bounds.excludesEmpty_exactly none_due) (Parser.char ['x']) Parser.positiveNumeral) text <;> rfl

theorem lengths_injective : Function.Injective lengths := by
  rintro ⟨_, _⟩ ⟨_, _⟩ rfl
  rfl

/-- A text whose lengths are not read is refused like them. -/
theorem parse_of_error (one : 1 ≤ dimensions) {error : ParseError}
    (failed : lengthList dimensions text = .error error) :
    Box.parse dimensions text = .error (.parse error) := by
  rw [← map_eq_error_iff, parse_eq one, Parser.parseAll_map, Parser.parseAll, Parser.wholeText,
    failed]
  rfl

/-- A text with more than the lengths is refused at what is left. -/
theorem parse_of_leftover (one : 1 ≤ dimensions) {values : List Nat} {rest : List Char}
    (read : lengthList dimensions text = .ok (values, rest)) (left : rest ≠ []) :
    Box.parse dimensions text = .error (.parse { defect := .leftover, remaining := rest }) := by
  obtain ⟨c, later, rfl⟩ := List.exists_cons_of_ne_nil left
  rw [← map_eq_error_iff, parse_eq one, Parser.parseAll_map, Parser.parseAll, Parser.wholeText,
    read]
  rfl

/-- A text of nothing but the lengths is read. -/
theorem exists_parse_of_whole (one : 1 ≤ dimensions) {values : List Nat}
    (read : lengthList dimensions text = .ok (values, [])) :
    ∃ box, Box.parse dimensions text = .ok box ∧ box.lengths = values.map Int.ofNat := by
  rw [← map_eq_ok_iff, parse_eq one, Parser.parseAll_map, Parser.parseAll, Parser.wholeText, read]
  rfl

/-- The texts of boxes are those made of so many lengths. -/
theorem parse_eq_ok_iff (one : 1 ≤ dimensions) {box : Box} :
    Box.parse dimensions text = .ok box ↔
      ∃ read, (∀ digits ∈ read, IsLength digits) ∧ read.length = dimensions ∧ text = written read ∧
        box.lengths = read.map fun digits => (fieldValue digits : Int) := by
  have numbers (read : List (List Char)) :
      (read.map fieldValue).map Int.ofNat = read.map fun digits => (fieldValue digits : Int) :=
    List.map_map
  constructor
  · intro parsed
    rcases outcome : lengthList dimensions text with error | ⟨values, rest⟩
    · rw [parse_of_error one outcome] at parsed
      cases parsed
    · by_cases left : rest = []
      · subst left
        obtain ⟨same, again, values_eq⟩ := exists_parse_of_whole one outcome
        obtain rfl : same = box := Except.ok.inj (again.symm.trans parsed)
        obtain ⟨read, lengths, enough, rfl, place, -⟩ := (lengthList_eq_ok_iff one).mp outcome
        rw [List.append_nil] at place
        exact ⟨read, lengths, enough, place, values_eq.trans (numbers read)⟩
      · rw [parse_of_leftover one outcome left] at parsed
        cases parsed
  · rintro ⟨read, lengths, enough, rfl, values_eq⟩
    have outcome : lengthList dimensions (written read) = .ok (read.map fieldValue, []) :=
      (lengthList_eq_ok_iff one).mpr ⟨read, lengths, enough, rfl, (List.append_nil _).symm, rfl⟩
    obtain ⟨same, parsed, again⟩ := exists_parse_of_whole one outcome
    rw [parsed, lengths_injective ((again.trans (numbers read)).trans values_eq.symm)]

/-- Every text that is not read is refused in one of the ways. -/
theorem refused_of_parse (one : 1 ≤ dimensions) {failure : TextFailure}
    (failed : Box.parse dimensions text = .error failure) :
    ∃ error, failure = .parse error ∧ Refused dimensions text (refusal error) := by
  rcases outcome : lengthList dimensions text with error | ⟨values, rest⟩
  · rw [parse_of_error one outcome] at failed
    exact ⟨error, (Except.error.inj failed).symm, refused_of_lengthList outcome⟩
  · by_cases left : rest = []
    · subst left
      obtain ⟨box, parsed, -⟩ := exists_parse_of_whole one outcome
      rw [parsed] at failed
      cases failed
    · rw [parse_of_leftover one outcome left] at failed
      obtain ⟨read, lengths, enough, -, place, ends⟩ := (lengthList_eq_ok_iff one).mp outcome
      exact ⟨_, (Except.error.inj failed).symm, .leftover lengths enough place ends left⟩

theorem positiveNumeral_of_missing {here : List Char} (missing : run here = []) :
    Parser.positiveNumeral here = .error { defect := .noDigit, remaining := here } := by
  rw [positiveNumeral_eq, if_pos missing]

/-- With too few lengths the text is refused right after the last one. -/
theorem lengthList_of_few {read : List (List Char)} {rest : List Char} (some_read : read ≠ [])
    (lengths : ∀ digits ∈ read, IsLength digits) (few : read.length < dimensions)
    (ends : run rest = []) (stops : ∀ later, rest = 'x' :: later → run later = []) :
    lengthList dimensions (written read ++ rest) =
      .error { defect := .tooFew, remaining := rest } := by
  obtain ⟨digits, others, rfl⟩ := List.exists_cons_of_ne_nil some_read
  have due := isFull_map_iff.mpr few
  have below : (((digits :: others).map fieldValue).length : Int) < dimensions := by
    rw [List.length_map]
    exact_mod_cast few
  have chain := chain_iff.mpr ⟨_, lengths, rfl, rfl, fun _ => ends⟩
  obtain ⟨error, soft, failed⟩ : ∃ error : ParseError, error.isFinal = false ∧
      further rest = .error error := by
    by_cases mark : ∃ later, rest = 'x' :: later
    · obtain ⟨later, rfl⟩ := mark
      rw [further_cons_x]
      exact ⟨_, rfl, positiveNumeral_of_missing (stops later rfl)⟩
    · exact ⟨_, rfl, further_of_not_x (not_exists.mp mark)⟩
  exact lengthList_eq_iff.mpr ⟨_, rest, chain, .few due failed soft below⟩

/-- A text that is to be refused is refused in that way. -/
theorem exists_parse_of_refused (one : 1 ≤ dimensions) {reported : Ratio.Refusal}
    (refused : Refused dimensions text reported) :
    ∃ error, refusal error = reported ∧ Box.parse dimensions text = .error (.parse error) := by
  cases refused with
  | noLength missing =>
      have due : (Bounds.exactly dimensions).isFull (List.map fieldValue []).length = false :=
        isFull_map_iff.mpr one
      have outcome : lengthList dimensions text =
          .error { defect := .noDigit, remaining := text } :=
        lengthList_eq_iff.mpr ⟨[], text, .done,
          .few due (positiveNumeral_of_missing missing) rfl (Int.ofNat_lt.mpr one)⟩
      exact ⟨_, rfl, parse_of_error one outcome⟩
  | @tooLarge read here lengths few place large =>
      have digits : run here ≠ [] := by
        intro missing
        rw [missing] at large
        exact absurd large (by decide)
      have failed : Parser.positiveNumeral here =
          .error { defect := .tooLarge, remaining := here } := by
        rw [positiveNumeral_eq, if_neg digits, if_pos large]
      subst place
      exact ⟨_, rfl, parse_of_error one (lengthList_of_final lengths few failed rfl)⟩
  | @zero read here lengths few place digits zero =>
      have failed : Parser.positiveNumeral here =
          .error { defect := .zeroLength, remaining := here } := by
        rw [positiveNumeral_eq, if_neg digits, zero, if_neg (Nat.not_lt_zero _), if_pos rfl]
      subst place
      exact ⟨_, rfl, parse_of_error one (lengthList_of_final lengths few failed rfl)⟩
  | tooFew some_read lengths few place ends stops =>
      subst place
      exact ⟨_, rfl, parse_of_error one (lengthList_of_few some_read lengths few ends stops)⟩
  | leftover lengths enough place ends left =>
      have outcome := (lengthList_eq_ok_iff one).mpr ⟨_, lengths, enough, rfl, place, ends⟩
      exact ⟨_, rfl, parse_of_leftover one outcome left⟩

end

/-!
### Boxes read back
-/

/-- Every length can be read. -/
def InRange (box : Box) : Prop := ∀ length ∈ box.lengths, 1 ≤ length ∧ length ≤ largestNumeral

instance (box : Box) : Decidable box.InRange :=
  inferInstanceAs (Decidable (∀ length ∈ box.lengths, 1 ≤ length ∧ length ≤ largestNumeral))

theorem fieldValue_toDigits (number : Nat) : fieldValue (Nat.toDigits 10 number) = number :=
  Nat.ofDigitChars_ten_toDigits

theorem fieldValue_toString {length : Int} (nonneg : 0 ≤ length) :
    (fieldValue (toString length).toList : Int) = length := by
  rw [toList_toString_int, if_pos nonneg, fieldValue_toDigits, Int.toNat_of_nonneg nonneg]

/-- The text of a number is a length just if the number is in range. -/
theorem isLength_toString_iff {length : Int} :
    IsLength (toString length).toList ↔ 1 ≤ length ∧ length ≤ largestNumeral := by
  rw [toList_toString_int]
  split_ifs with nonneg
  · obtain ⟨number, rfl⟩ := Int.eq_ofNat_of_zero_le nonneg
    rw [Int.toNat_natCast]
    constructor
    · rintro ⟨-, positive, small⟩
      rw [fieldValue_toDigits] at positive small
      omega
    · rintro ⟨positive, small⟩
      refine ⟨fun c member => Text.isPlainDigit_of_mem_toDigits member, ?_, ?_⟩
      · rw [fieldValue_toDigits]
        omega
      · rw [fieldValue_toDigits]
        omega
  · refine iff_of_false (fun isLength => ?_) fun bounds => nonneg (by omega)
    exact absurd (isLength.plain '-' List.mem_cons_self) (by decide)

/-- A written number holds no separator. -/
theorem noMark_toString (length : Int) : 'x' ∉ (toString length).toList := by
  intro member
  rw [toList_toString_int] at member
  split_ifs at member
  · exact absurd (Text.isPlainDigit_of_mem_toDigits member) (by decide)
  · rcases List.mem_cons.mp member with sign | digit
    · exact absurd sign (by decide)
    · exact absurd (Text.isPlainDigit_of_mem_toDigits digit) (by decide)

/-- Texts without separators can be told from how they are written. -/
theorem written_inj {read others : List (List Char)} (read_ne : read ≠ []) (others_ne : others ≠ [])
    (noMark : ∀ text ∈ read, 'x' ∉ text) (others_noMark : ∀ text ∈ others, 'x' ∉ text)
    (same : written read = written others) : read = others := by
  rw [← List.splitOn_intercalate 'x' noMark read_ne, ← written, same, written,
    List.splitOn_intercalate 'x' others_noMark others_ne]

/-- The lengths of a box as they are written. -/
def lengthTexts (box : Box) : List (List Char) :=
  box.lengths.map fun length => (toString length).toList

/-- A box whose lengths are in range is read back from its text. -/
theorem parse_render_of_inRange {box : Box} (inRange : box.InRange) :
    Box.parse box.dimensions box.render = .ok box := by
  have one : 1 ≤ box.dimensions := List.length_pos_iff.mpr box.nonempty
  refine (parse_eq_ok_iff one).mpr ⟨box.lengthTexts, ?_, List.length_map _, rfl, ?_⟩
  · rw [lengthTexts, List.forall_mem_map]
    exact fun length member => isLength_toString_iff.mpr (inRange length member)
  · have values : ∀ length ∈ box.lengths, (fieldValue (toString length).toList : Int) = length :=
      fun length member => fieldValue_toString (zero_le_one.trans (inRange length member).1)
    rw [lengthTexts, List.map_map]
    exact ((List.map_congr_left values).trans (List.map_id' _)).symm

/-- A box whose text is read, as whatever box, has all its lengths in range. -/
theorem inRange_of_parse_render {box read : Box}
    (parsed : Box.parse box.dimensions box.render = .ok read) : box.InRange := by
  have one : 1 ≤ box.dimensions := List.length_pos_iff.mpr box.nonempty
  obtain ⟨texts, lengths, enough, same, -⟩ := (parse_eq_ok_iff one).mp parsed
  have noMark : ∀ text ∈ texts, 'x' ∉ text := fun text member mark =>
    absurd ((lengths text member).plain 'x' mark) (by decide)
  have written_noMark : ∀ text ∈ box.lengthTexts, 'x' ∉ text := by
    rw [lengthTexts, List.forall_mem_map]
    exact fun length _ => noMark_toString length
  have texts_ne : texts ≠ [] := List.ne_nil_of_length_pos (enough ▸ one)
  have box_ne : box.lengthTexts ≠ [] := by simpa [lengthTexts] using box.nonempty
  obtain rfl : box.lengthTexts = texts := written_inj box_ne texts_ne written_noMark noMark same
  rw [lengthTexts, List.forall_mem_map] at lengths
  exact fun length member => isLength_toString_iff.mp (lengths length member)

/-!
### Reading boxes
-/

/-- Texts are read as the boxes of so many axes that they are written as, or refused at their
first defect. -/
structure Reads (dimensions : Nat) : Prop where
  /-- The texts of boxes are the lengths, digit by digit, with an `x` between them. -/
  ok_iff : ∀ text box, Box.parse dimensions text = .ok box ↔
    ∃ read, (∀ digits ∈ read, IsLength digits) ∧ read.length = dimensions ∧ text = written read ∧
      box.lengths = read.map fun digits => (fieldValue digits : Int)
  /-- Of every other text the first defect is told. -/
  error_iff : ∀ text failure, Box.parse dimensions text = .error failure ↔
    ∃ reported, Ratio.refusal? failure = some reported ∧ Refused dimensions text reported
  /-- A box is read back from what it is written as. -/
  back : ∀ box : Box, box.dimensions = dimensions → box.InRange →
    ∃ text, box.write = .ok text ∧ Box.parse dimensions text = .ok box
  /-- No box is read from what a box with a length out of range is written as. -/
  refuses : ∀ box : Box, box.dimensions = dimensions → ¬ box.InRange → box.Short →
    ∃ text error, box.write = .ok text ∧ Box.parse dimensions text = .error (.parse error)
  /-- A box with a length that is too long is not written. -/
  unwritten : ∀ box : Box, box.dimensions = dimensions → ¬ box.Short → box.write = .error .toWrite

/-- A failure that tells this defect is the error with its code and place. -/
theorem refusal?_eq_some_iff {failure : TextFailure} {reported : Ratio.Refusal} :
    Ratio.refusal? failure = some reported ↔
      ∃ error, failure = .parse error ∧ refusal error = reported := by
  cases failure with
  | shape cause => simp [Ratio.refusal?]
  | parse error =>
      have told : Ratio.refusal? (.parse error) = some (refusal error) := rfl
      simp [told]

/-- A text is refused in one way, the one that the language gives. -/
theorem parse_eq_error_iff {dimensions : Nat} (one : 1 ≤ dimensions) {text : List Char}
    {failure : TextFailure} :
    Box.parse dimensions text = .error failure ↔
      ∃ reported, Ratio.refusal? failure = some reported ∧ Refused dimensions text reported := by
  constructor
  · intro failed
    obtain ⟨error, rfl, refused⟩ := refused_of_parse one failed
    exact ⟨refusal error, rfl, refused⟩
  · rintro ⟨reported, told, refused⟩
    obtain ⟨error, rfl, rfl⟩ := refusal?_eq_some_iff.mp told
    obtain ⟨same, codes, failed⟩ := exists_parse_of_refused one refused
    rw [failed, refusal_injective codes]

theorem InRange.short {box : Box} (inRange : box.InRange) : box.Short := fun length member =>
  Ratio.writable_of_inRange (zero_le_one.trans (inRange length member).1) (inRange length member).2

/-- The boxes of each number of axes are read from their texts and from no others. -/
theorem reads_texts {dimensions : Nat} (one : 1 ≤ dimensions) : Reads dimensions where
  ok_iff _ _ := parse_eq_ok_iff one
  error_iff _ _ := parse_eq_error_iff one
  back := by
    rintro box rfl inRange
    exact ⟨_, inRange.short.write_eq, parse_render_of_inRange inRange⟩
  refuses := by
    rintro box rfl outOfRange short
    rcases parsed : Box.parse box.dimensions box.render with failure | read
    · obtain ⟨error, rfl, -⟩ := refused_of_parse one parsed
      exact ⟨_, error, short.write_eq, parsed⟩
    · exact absurd (inRange_of_parse_render parsed) outOfRange
  unwritten _ _ := write_eq_error

/-- A box with a side of one digit too many. -/
def longSide : Box := plane (longest + 1) 1

theorem longSide_long : ¬ longSide.Short := fun short =>
  not_writable_of_longest_lt (Int.lt_succ longest) (short _ List.mem_cons_self)

/-- A rectangle may have zeros before its lengths, but none of them may be zero. -/
theorem reads_planes :
    1 ≤ 2 ∧ Reads 2 ∧ Box.parse 2 "007x12".toList = .ok (plane 7 12) ∧
      Box.parse 2 "7x0x".toList =
        .error (.parse { defect := .zeroLength, remaining := "0x".toList }) ∧
      longSide.write = .error .toWrite := by
  have planes : Reads 2 := reads_texts (by decide)
  refine ⟨by decide, planes, (planes.ok_iff _ _).mpr ?_, (planes.error_iff _ _).mpr ?_,
    planes.unwritten longSide rfl longSide_long⟩
  · exact ⟨[['0', '0', '7'], ['1', '2']], by decide +kernel, rfl, rfl, rfl⟩
  · have lengths : ∀ digits ∈ [['7']], IsLength digits := by decide +kernel
    exact ⟨_, rfl, .zero lengths (by decide) rfl (by decide) (by decide)⟩

/-- So not every box with a length out of range has a text to be refused. -/
theorem longSide_not_refused :
    longSide.dimensions = 2 ∧ ¬ longSide.InRange ∧
      ¬ ∃ text error, longSide.write = .ok text ∧ Box.parse 2 text = .error (.parse error) := by
  refine ⟨rfl, fun inRange => longSide_long inRange.short, ?_⟩
  rintro ⟨text, _, told, -⟩
  rw [write_eq_error longSide_long] at told
  cases told

end Box

end MonitorSplit
