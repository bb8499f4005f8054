/-
Module: MonitorSplit.Proofs.Ratio.Scan
Purpose: The texts of ratios read by one scan from left to right, without backtracking.
Main exports:
  Ratio.Field, Ratio.scanSum, Ratio.scan, Ratio.judge, Ratio.parse_eq_judge_scan
-/
import MonitorSplit.Proofs.Parser.List
import MonitorSplit.Proofs.Parser.Numeral
import MonitorSplit.Ratio.Written

namespace MonitorSplit

namespace Ratio

/-!
### The scan

A field is as many plain digits as stand at its place, possibly none.  Fields with plus
signs between them make a sum, and sums with colons between them a ratio.  The scan goes
on as long as the separators do and stops after as many sums as are due.  Only then is
what it has seen judged.
-/

/-- A field of a sum: its digits, none for an unknown, and the text from the field on. -/
structure Field where
  digits : List Char
  here : List Char
deriving DecidableEq, Repr

namespace Field

/-- The field at the start of a text. -/
def first (text : List Char) : Field := { digits := text.takeWhile Text.isPlainDigit, here := text }

@[simp] theorem here_first (text : List Char) : (first text).here = text := rfl

/-- The addend that a field stands for. -/
def addend (field : Field) : Option Nat :=
  if field.digits = [] then none else some (fieldValue field.digits)

/-- The number of a field is past the greatest one. -/
def TooLarge (field : Field) : Prop := largestNumeral < fieldValue field.digits

instance (field : Field) : Decidable field.TooLarge := inferInstanceAs (Decidable (_ < _))

end Field

/-- The fields of the sum at the start of a text, and the rest. -/
def scanSum (text : List Char) : List Field × List Char :=
  match _rest : text.dropWhile Text.isPlainDigit with
  | '+' :: later =>
      let (fields, stop) := scanSum later
      (Field.first text :: fields, stop)
  | stop => ([Field.first text], stop)
termination_by text.length
decreasing_by
  have bound := (List.dropWhile_sublist Text.isPlainDigit (l := text)).length_le
  rw [_rest, List.length_cons] at bound
  exact bound

theorem scanSum_of_plus {text later : List Char}
    (plus : text.dropWhile Text.isPlainDigit = '+' :: later) :
    scanSum text = (Field.first text :: (scanSum later).1, (scanSum later).2) := by
  rw [scanSum]
  split
  · rename_i other rest
    rw [plus] at rest
    cases rest
    rfl
  · rename_i noPlus
    exact absurd plus (noPlus later)

theorem scanSum_of_not_plus {text : List Char}
    (noPlus : ∀ later, text.dropWhile Text.isPlainDigit ≠ '+' :: later) :
    scanSum text = ([Field.first text], text.dropWhile Text.isPlainDigit) := by
  rw [scanSum]
  split
  · rename_i later plus
    exact absurd plus (noPlus later)
  · rfl

/-- At most so many sums at the start of a text, and the rest. -/
def scan : Nat → List Char → List (List Field) × List Char
  | 0, text => ([], text)
  | due + 1, text =>
      let (fields, rest) := scanSum text
      match due, rest with
      | _ + 1, ':' :: later =>
          let (sums, stop) := scan due later
          (fields :: sums, stop)
      | _, stop => ([fields], stop)

/-- The first field of a number that is too large. -/
def firstTooLarge (fields : List Field) : Option Field := fields.find? fun field => field.TooLarge

/-- A refusal of a text: whether it is final, its code, and the text from its place on. -/
structure Refusal where
  isFinal : Bool
  code : String
  remaining : List Char
deriving DecidableEq, Repr

/-- What a scan comes to where so many sums are due: the addends of all fields, unless one of
them is too large, sums are missing, or text is left. -/
def judge (due : Nat) (sums : List (List Field)) (rest : List Char) :
    Except Refusal (List (List (Option Int))) :=
  match firstTooLarge sums.flatten with
  | some field => .error { isFinal := true, code := "TooLarge", remaining := field.here }
  | none =>
      if sums.length < due then .error { isFinal := false, code := "ManyMN", remaining := rest }
      else if rest ≠ [] then .error { isFinal := false, code := "Eof", remaining := rest }
      else .ok (sums.map (·.map fun field => field.addend.map Int.ofNat))

/-!
### One sum
-/

/-- Reads the addends of a sum as the scan sees them. -/
def readSum : Parser (List (Option Nat)) := fun text =>
  match firstTooLarge (scanSum text).1 with
  | some field => .error { defect := .tooLarge, remaining := field.here }
  | none => .ok ((scanSum text).1.map Field.addend, (scanSum text).2)

/-- The parser of one field either refuses its number or reads the maximal run of digits. -/
theorem optional_numeral_eq (text : List Char) :
    Parser.optional Parser.numeral text =
      if (Field.first text).TooLarge then .error { defect := .tooLarge, remaining := text }
      else .ok ((Field.first text).addend, text.dropWhile Text.isPlainDigit) := by
  have recovers : ({ defect := .noDigit, remaining := text } : ParseError).isFinal = false := rfl
  have refuses : ({ defect := .tooLarge, remaining := text } : ParseError).isFinal = true := rfl
  simp only [Parser.optional, Parser.numeral_eq, Field.TooLarge, Field.addend, Field.first]
  by_cases empty : text.takeWhile Text.isPlainDigit = []
  · have small : ¬ largestNumeral < fieldValue [] := by decide
    have same : text.dropWhile Text.isPlainDigit = text := by
      have whole := List.takeWhile_append_dropWhile (p := Text.isPlainDigit) (l := text)
      rwa [empty, List.nil_append] at whole
    simp [empty, small, same, recovers]
  · by_cases tooLarge : largestNumeral < fieldValue (text.takeWhile Text.isPlainDigit)
    · simp [empty, tooLarge, refuses]
    · simp [empty, tooLarge]

theorem eager_field : Parser.Eager (Parser.optional Parser.numeral) where
  final failed := by
    rw [optional_numeral_eq] at failed
    split at failed <;> cases failed
    rfl
  length_le read := by
    rw [optional_numeral_eq] at read
    split at read <;> cases read
    exact (List.dropWhile_sublist _).length_le

theorem firstTooLarge_cons (field : Field) (fields : List Field) :
    firstTooLarge (field :: fields) = if field.TooLarge then some field else firstTooLarge fields := by
  by_cases tooLarge : field.TooLarge <;> simp [firstTooLarge, tooLarge]

/-- A separated list of fields, the first of them of any number, is one scanned sum. -/
theorem elementsFrom_field {count : Nat} (some_read : 1 ≤ count) (text : List Char) :
    Parser.elementsFrom .atLeastOne (Parser.char ['+']) (Parser.optional Parser.numeral) count text =
      readSum text := by
  have endless : ∀ count, Bounds.atLeastOne.isFull count = false := fun _ => rfl
  induction text using scanSum.induct generalizing count with
  | case1 text later plus fields stop scanned inductionHypothesis =>
      have others := inductionHypothesis (show 1 ≤ count + 1 by omega)
      rw [Parser.elementsFrom, optional_numeral_eq, readSum, scanSum_of_plus plus,
        firstTooLarge_cons]
      by_cases tooLarge : (Field.first text).TooLarge
      · simp only [tooLarge, if_true, Field.here_first]
      · simp only [tooLarge, if_false, plus, Parser.moreElements_of_eager eager_field (endless count),
          if_true, others, readSum]
        cases firstTooLarge (scanSum later).1 <;> rfl
  | case2 text noPlus =>
      rw [Parser.elementsFrom, optional_numeral_eq, readSum, scanSum_of_not_plus noPlus,
        firstTooLarge_cons]
      by_cases tooLarge : (Field.first text).TooLarge
      · simp only [tooLarge, if_true, Field.here_first]
      · have ends : Parser.moreElements .atLeastOne (Parser.char ['+'])
            (Parser.optional Parser.numeral) count (text.dropWhile Text.isPlainDigit) =
              .ok ([], text.dropWhile Text.isPlainDigit) := by
          have enough : ¬ (count : Int) < Bounds.atLeastOne.least := by
            simp only [Bounds.atLeastOne]
            omega
          rw [Parser.moreElements_of_eager eager_field (endless count)]
          cases rest : text.dropWhile Text.isPlainDigit with
          | nil => rw [Parser.endOfList, if_neg enough]
          | cons c later =>
              have other : c ≠ '+' := fun plus => noPlus later (plus ▸ rest)
              simp only [other, if_false, Parser.endOfList, enough]
        simp only [tooLarge, if_false, ends]
        rfl

theorem length_scanSum_le (text : List Char) : (scanSum text).2.length ≤ text.length := by
  induction text using scanSum.induct with
  | case1 text later plus fields stop scanned inductionHypothesis =>
      have bound := (List.dropWhile_sublist Text.isPlainDigit (l := text)).length_le
      rw [plus, List.length_cons] at bound
      rw [scanSum_of_plus plus]
      exact inductionHypothesis.trans (Nat.le_of_succ_le bound)
  | case2 text noPlus =>
      rw [scanSum_of_not_plus noPlus]
      exact (List.dropWhile_sublist _).length_le

theorem eager_readSum : Parser.Eager readSum where
  final failed := by
    unfold readSum at failed
    split at failed <;> cases failed
    rfl
  length_le {text _ _} read := by
    unfold readSum at read
    split at read <;> cases read
    exact length_scanSum_le text

/-- The addends of the sum that the parser reads. -/
theorem map_addends_axisSum :
    Parser.map AxisSum.addends AxisSum.parser =
      Parser.map (List.map (Option.map Int.ofNat)) readSum := by
  have fields : Parser.listBetween .atLeastOne (Parser.char ['+']) (Parser.optional Parser.numeral) =
      readSum := by
    funext text
    rw [Parser.listBetween_eq_elementsFrom Bounds.excludesEmpty_atLeastOne,
      elementsFrom_field le_rfl]
  rw [← fields, ← Parser.map_val_nonemptyList .atLeastOne Bounds.excludesEmpty_atLeastOne,
    AxisSum.parser, Parser.map_map, Parser.map_map]
  rfl

/-!
### All sums
-/

/-- Reads the addends of so many sums as the scan sees them. -/
def readSums (due : Nat) : Parser (List (List (Option Nat))) := fun text =>
  match firstTooLarge (scan due text).1.flatten with
  | some field => .error { defect := .tooLarge, remaining := field.here }
  | none =>
      if (scan due text).1.length < due then
        .error { defect := .tooFew, remaining := (scan due text).2 }
      else .ok ((scan due text).1.map (·.map Field.addend), (scan due text).2)

theorem scan_one (text : List Char) : scan 1 text = ([(scanSum text).1], (scanSum text).2) := rfl

theorem scan_of_colon {due : Nat} {text later : List Char} (colon : (scanSum text).2 = ':' :: later) :
    scan (due + 2) text = ((scanSum text).1 :: (scan (due + 1) later).1, (scan (due + 1) later).2) := by
  rw [scan]
  simp only [colon]

theorem scan_of_not_colon {due : Nat} {text : List Char}
    (noColon : ∀ later, (scanSum text).2 ≠ ':' :: later) :
    scan (due + 1) text = ([(scanSum text).1], (scanSum text).2) := by
  cases due with
  | zero => rfl
  | succ due =>
      rw [scan]
      split
      rename_i fields stop scanned
      rw [scanned] at noColon ⊢
      split
      · exact absurd rfl (noColon _)
      · rfl

theorem firstTooLarge_append (fields others : List Field) :
    firstTooLarge (fields ++ others) = (firstTooLarge fields).or (firstTooLarge others) :=
  List.find?_append

section

variable {dimensions count : Nat}

theorem isFull_exactly_eq_false (due : count < dimensions) :
    (Bounds.exactly dimensions).isFull count = false := by
  simpa [Bounds.isFull, Bounds.exactly] using due

/-- With sums still due, another one follows a colon. -/
theorem moreElements_of_colon (due : count < dimensions) (later : List Char) :
    Parser.moreElements (.exactly dimensions) (Parser.char [':']) readSum count (':' :: later) =
      Parser.elementsFrom (.exactly dimensions) (Parser.char [':']) readSum (count + 1) later := by
  rw [Parser.moreElements_of_eager eager_readSum (isFull_exactly_eq_false due)]
  rfl

/-- Without a colon they are missing. -/
theorem moreElements_of_not_colon (due : count < dimensions) {text : List Char}
    (noColon : ∀ later, text ≠ ':' :: later) :
    Parser.moreElements (.exactly dimensions) (Parser.char [':']) readSum count text =
      .error { defect := .tooFew, remaining := text } := by
  have few : (count : Int) < (Bounds.exactly dimensions).least := Int.ofNat_lt.mpr due
  rw [Parser.moreElements_of_eager eager_readSum (isFull_exactly_eq_false due)]
  cases text with
  | nil => exact if_pos few
  | cons c later =>
      have other : c ≠ ':' := fun colon => noColon later (colon ▸ rfl)
      simp [other, Parser.endOfList, few]

end

/-- A separated list of sums, the first of them with so many due after it, is a scan. -/
theorem elementsFrom_readSum {dimensions count due : Nat} (total : count + due = dimensions)
    (text : List Char) :
    Parser.elementsFrom (.exactly dimensions) (Parser.char [':']) readSum count text =
      readSums (due + 1) text := by
  induction due generalizing count text with
  | zero =>
      have full : (Bounds.exactly dimensions).isFull count = true := by
        simp [Bounds.isFull, Bounds.exactly, ← total]
      rw [Parser.elementsFrom, readSums, scan_one, readSum]
      simp only [List.flatten_cons, List.flatten_nil, List.append_nil]
      cases firstTooLarge (scanSum text).1 with
      | some field => rfl
      | none => simp [Parser.moreElements, full]
  | succ due inductionHypothesis =>
      have others := inductionHypothesis (show count + 1 + due = dimensions by omega)
      have few : count < dimensions := by omega
      rw [Parser.elementsFrom, readSums, readSum]
      by_cases colon : ∃ later, (scanSum text).2 = ':' :: later
      · obtain ⟨later, colon⟩ := colon
        rw [scan_of_colon colon, List.flatten_cons, firstTooLarge_append]
        cases firstTooLarge (scanSum text).1 with
        | some field => rfl
        | none =>
            simp only [colon, moreElements_of_colon few, others, readSums, Option.none_or,
              List.length_cons, Nat.add_lt_add_iff_right]
            cases firstTooLarge (scan (due + 1) later).1.flatten with
            | some field => rfl
            | none => by_cases missing : (scan (due + 1) later).1.length < due + 1 <;> simp [missing]
      · rw [not_exists] at colon
        rw [scan_of_not_colon colon, List.flatten_cons, firstTooLarge_append]
        cases firstTooLarge (scanSum text).1 with
        | some field => rfl
        | none => simp [moreElements_of_not_colon few colon, firstTooLarge]

/-!
### The outcome
-/

/-- The addends of all sums of a ratio. -/
def addends (ratio : Ratio) : List (List (Option Int)) := ratio.sums.map AxisSum.addends

/-- The refusal of a text, unless no text at all could be read. -/
def refusal? : TextFailure → Option Refusal
  | .shape _ => none
  | .parse error => some {
      isFinal := error.isFinal
      code := error.defect.code
      remaining := error.remaining }

theorem map_addends_ratio {dimensions : Nat} (one : 1 ≤ dimensions) :
    ∃ parser, Ratio.parser dimensions = .ok parser ∧
      Parser.map addends parser =
        Parser.map (List.map (List.map (Option.map Int.ofNat))) (readSums dimensions) := by
  have none_due : ¬ (dimensions : Int) < 1 := by omega
  obtain ⟨due, rfl⟩ := Nat.exists_eq_add_of_le' one
  have sums : Parser.listBetween (.exactly ↑(due + 1)) (Parser.char [':']) readSum =
      readSums (due + 1) := by
    funext text
    rw [Parser.listBetween_eq_elementsFrom (Bounds.excludesEmpty_exactly none_due),
      elementsFrom_readSum (Nat.add_comm 1 due)]
  refine ⟨_, dif_neg none_due, ?_⟩
  rw [← sums, Parser.map_listBetween, ← map_addends_axisSum, ← Parser.map_listBetween,
    ← Parser.map_val_nonemptyList _ (Bounds.excludesEmpty_exactly none_due), Parser.map_map,
    Parser.map_map]
  rfl

/-- Reading a whole text comes to what its scan does. -/
theorem mapError_parse_eq_judge {dimensions : Nat} (one : 1 ≤ dimensions) (text : List Char) :
    ((Ratio.parse dimensions text).mapError refusal?).map addends =
      (judge dimensions (scan dimensions text).1 (scan dimensions text).2).mapError some := by
  obtain ⟨parser, built, reads⟩ := map_addends_ratio one
  have whole : (Parser.parseAll parser text).map addends =
      Parser.parseAll (Parser.map (List.map (List.map (Option.map Int.ofNat)))
        (readSums dimensions)) text := by
    rw [← reads, Parser.parseAll_map]
  have view : ((Ratio.parse dimensions text).mapError refusal?).map addends =
      ((Parser.parseAll parser text).map addends).mapError (refusal? ∘ .parse) := by
    simp only [parse, built, readWith]
    cases Parser.parseAll parser text <;> rfl
  rw [view, whole, Parser.parseAll_map, Parser.parseAll, Parser.wholeText, readSums, judge]
  cases firstTooLarge (scan dimensions text).1.flatten with
  | some field => rfl
  | none =>
      by_cases missing : (scan dimensions text).1.length < dimensions
      · simp only [missing, if_true]
        rfl
      · cases (scan dimensions text).2 with
        | nil =>
            simp only [missing, if_false, ne_eq, not_true_eq_false]
            simp only [Except.map, Except.mapError, List.map_map, Function.comp_def]
        | cons c rest =>
            simp only [missing, if_false, ne_eq, reduceCtorEq, not_false_eq_true, if_true]
            rfl

/-- Ratios with the same addends are the same. -/
theorem addends_injective : Function.Injective addends := by
  intro ratio other same
  have axis : ∀ sum other : AxisSum, sum.addends = other.addends → sum = other := by
    rintro ⟨_, _⟩ ⟨_, _⟩ rfl
    rfl
  have sums : ratio.sums = other.sums :=
    List.map_inj_right axis |>.mp same
  cases ratio
  cases other
  cases sums
  rfl

/-- A text whose scan gives the addends of a ratio is read as that ratio. -/
theorem parse_of_judge {dimensions : Nat} (one : 1 ≤ dimensions) {text : List Char} {ratio : Ratio}
    (judged : judge dimensions (scan dimensions text).1 (scan dimensions text).2 =
      .ok ratio.addends) : Ratio.parse dimensions text = .ok ratio := by
  have read := mapError_parse_eq_judge one text
  rw [judged] at read
  cases parsed : Ratio.parse dimensions text with
  | error cause =>
      rw [parsed] at read
      cases read
  | ok value =>
      rw [parsed] at read
      rw [addends_injective (Except.ok.inj read)]

/-!
### Written ratios

A text is accepted exactly if it is made of fields with their separators, and then it is made
of the fields that the scan finds.
-/

/-- The addend that digits stand for; an unknown if there are none. -/
def addendOf (digits : List Char) : Option Int :=
  if digits = [] then none else some (fieldValue digits)

/-- Sums in their written form: so many of them, each of one field or more, and every field a
number that is not too large, or nothing. -/
structure IsWritten (dimensions : Nat) (sums : List (List (List Char))) : Prop where
  size : sums.length = dimensions
  nonempty : ∀ fields ∈ sums, fields ≠ []
  plain : ∀ fields ∈ sums, ∀ digits ∈ fields, ∀ c ∈ digits, Text.isPlainDigit c = true
  small : ∀ fields ∈ sums, ∀ digits ∈ fields, fieldValue digits ≤ largestNumeral

/-- The text of a sum. -/
def writtenSum (fields : List (List Char)) : List Char := List.intercalate ['+'] fields

/-- The text of a ratio. -/
def written (sums : List (List (List Char))) : List Char :=
  List.intercalate [':'] (sums.map writtenSum)

/-- The digits of the fields of a sum. -/
def digitsOf (fields : List Field) : List (List Char) := fields.map Field.digits

theorem digitsOf_scanSum_ne_nil (text : List Char) : digitsOf (scanSum text).1 ≠ [] := by
  by_cases plus : ∃ later, text.dropWhile Text.isPlainDigit = '+' :: later
  · obtain ⟨later, plus⟩ := plus
    simp [scanSum_of_plus plus, digitsOf]
  · rw [not_exists] at plus
    simp [scanSum_of_not_plus plus, digitsOf]

/-- The scan of a sum loses nothing. -/
theorem writtenSum_scanSum (text : List Char) :
    writtenSum (digitsOf (scanSum text).1) ++ (scanSum text).2 = text := by
  induction text using scanSum.induct with
  | case1 text later plus fields stop scanned inductionHypothesis =>
      have split := List.takeWhile_append_dropWhile (p := Text.isPlainDigit) (l := text)
      have joined : writtenSum (digitsOf (scanSum text).1) =
          text.takeWhile Text.isPlainDigit ++ ['+'] ++ writtenSum (digitsOf (scanSum later).1) := by
        rw [scanSum_of_plus plus]
        exact List.intercalate_cons_of_ne_nil (digitsOf_scanSum_ne_nil later)
      rw [joined, scanSum_of_plus plus, List.append_assoc, List.append_assoc, inductionHypothesis]
      rwa [plus] at split
  | case2 text noPlus =>
      rw [scanSum_of_not_plus noPlus]
      simp [writtenSum, digitsOf, Field.first]

/-- A scan ends with its first sum, or a colon follows and the other sums are scanned. -/
theorem scan_succ_cases (due : Nat) (text : List Char) :
    scan (due + 1) text = ([(scanSum text).1], (scanSum text).2) ∨
      ∃ more later, due = more + 1 ∧ (scanSum text).2 = ':' :: later ∧
        scan (due + 1) text = ((scanSum text).1 :: (scan due later).1, (scan due later).2) := by
  by_cases colon : ∃ later, (scanSum text).2 = ':' :: later
  · obtain ⟨later, colon⟩ := colon
    cases due with
    | zero => exact Or.inl (scan_one text)
    | succ more => exact Or.inr ⟨more, later, rfl, colon, scan_of_colon colon⟩
  · exact Or.inl (scan_of_not_colon (not_exists.mp colon))

/-- The scan of a ratio loses nothing. -/
theorem written_scan (due : Nat) (text : List Char) :
    written ((scan (due + 1) text).1.map digitsOf) ++ (scan (due + 1) text).2 = text := by
  have first := writtenSum_scanSum text
  induction due generalizing text with
  | zero => simpa [scan_one, written] using first
  | succ due inductionHypothesis =>
      rcases scan_succ_cases (due + 1) text with ends | ⟨more, later, same, colon, goes_on⟩
      · simpa [ends, written] using first
      · have others := inductionHypothesis later (writtenSum_scanSum later)
        have some_later : ((scan (due + 1) later).1.map digitsOf).map writtenSum ≠ [] := by
          rcases scan_succ_cases due later with ends | ⟨_, _, -, -, goes_on⟩
          · simp [ends]
          · simp [goes_on]
        have joined : written ((scan (due + 2) text).1.map digitsOf) =
            writtenSum (digitsOf (scanSum text).1) ++ [':'] ++
              written ((scan (due + 1) later).1.map digitsOf) := by
          rw [goes_on]
          exact List.intercalate_cons_of_ne_nil some_later
        rw [joined, goes_on, List.append_assoc, List.append_assoc, others]
        rwa [colon] at first

/-- A text that neither continues a field nor adds another one. -/
def EndsSum (text : List Char) : Prop := ∀ c ∈ text.head?, Text.isPlainDigit c = false ∧ c ≠ '+'

theorem takeWhile_digits_append {digits rest : List Char}
    (plain : ∀ c ∈ digits, Text.isPlainDigit c = true)
    (ends : ∀ c ∈ rest.head?, Text.isPlainDigit c = false) :
    (digits ++ rest).takeWhile Text.isPlainDigit = digits ∧
      (digits ++ rest).dropWhile Text.isPlainDigit = rest := by
  rw [List.takeWhile_append_of_pos plain, List.dropWhile_append_of_pos plain]
  cases rest with
  | nil => simp
  | cons c rest => simp [ends c rfl]

/-- A written sum is scanned as it was written. -/
theorem scanSum_writtenSum {fields : List (List Char)} (nonempty : fields ≠ [])
    (plain : ∀ digits ∈ fields, ∀ c ∈ digits, Text.isPlainDigit c = true) {stop : List Char}
    (ends : EndsSum stop) :
    digitsOf (scanSum (writtenSum fields ++ stop)).1 = fields ∧
      (scanSum (writtenSum fields ++ stop)).2 = stop := by
  induction fields with
  | nil => exact absurd rfl nonempty
  | cons digits others inductionHypothesis =>
      obtain ⟨digits_plain, others_plain⟩ := List.forall_mem_cons.mp plain
      cases others with
      | nil =>
          obtain ⟨run, rest⟩ := takeWhile_digits_append digits_plain fun c head => (ends c head).1
          have noPlus : ∀ later, (digits ++ stop).dropWhile Text.isPlainDigit ≠ '+' :: later := by
            intro later plus
            rw [rest] at plus
            exact (ends '+' (by simp [plus])).2 rfl
          simp only [writtenSum, List.intercalate_singleton, scanSum_of_not_plus noPlus]
          exact ⟨by simp [digitsOf, Field.first, run], rest⟩
      | cons next others =>
          have joined : writtenSum (digits :: next :: others) ++ stop =
              digits ++ '+' :: (writtenSum (next :: others) ++ stop) := by
            simp [writtenSum]
          have ends : ∀ c, ('+' :: (writtenSum (next :: others) ++ stop)).head? = some c →
              Text.isPlainDigit c = false := by simp; decide
          obtain ⟨run, rest⟩ := takeWhile_digits_append digits_plain ends
          obtain ⟨fields, stops⟩ := inductionHypothesis (by simp) others_plain
          rw [joined, scanSum_of_plus rest]
          exact ⟨by simpa [digitsOf, Field.first, run] using fields, stops⟩

/-- A written ratio is scanned as it was written, to its end, even if its numbers are too large. -/
theorem scan_written {dimensions : Nat} {sums : List (List (List Char))}
    (size : sums.length = dimensions) (nonempty : ∀ fields ∈ sums, fields ≠ [])
    (plain : ∀ fields ∈ sums, ∀ digits ∈ fields, ∀ c ∈ digits, Text.isPlainDigit c = true)
    (one : 1 ≤ dimensions) :
    (scan dimensions (written sums)).1.map digitsOf = sums ∧
      (scan dimensions (written sums)).2 = [] := by
  induction sums generalizing dimensions with
  | nil => simp at size; omega
  | cons fields others inductionHypothesis =>
      obtain ⟨fields_nonempty, others_nonempty⟩ := List.forall_mem_cons.mp nonempty
      obtain ⟨fields_plain, others_plain⟩ := List.forall_mem_cons.mp plain
      cases others with
      | nil =>
          obtain ⟨digits, stops⟩ := scanSum_writtenSum fields_nonempty fields_plain
            (show EndsSum [] by simp [EndsSum])
          rw [List.append_nil] at digits stops
          subst size
          simp [written, scan_one, digits, stops]
      | cons next others =>
          obtain ⟨due, rfl⟩ : ∃ due, dimensions = due + 2 := ⟨others.length, by simp [← size]⟩
          have joined : written (fields :: next :: others) =
              writtenSum fields ++ ':' :: written (next :: others) := by
            simp [written]
          have ends : EndsSum (':' :: written (next :: others)) := by simp [EndsSum]; decide
          obtain ⟨digits, stops⟩ := scanSum_writtenSum fields_nonempty fields_plain ends
          have others_size : (next :: others).length = due + 1 := by simpa using size
          obtain ⟨rest, ends⟩ := inductionHypothesis others_size others_nonempty others_plain (by omega)
          rw [joined, scan_of_colon stops]
          exact ⟨by simpa [digits] using rest, ends⟩

/-!
What the scan finds is in written form, but for numbers that are too large and sums that are
missing.
-/

theorem exists_first_of_mem_scanSum {text : List Char} {field : Field}
    (member : field ∈ (scanSum text).1) : ∃ here, field = Field.first here := by
  induction text using scanSum.induct with
  | case1 text later plus fields stop scanned inductionHypothesis =>
      rw [scanSum_of_plus plus] at member
      rcases List.mem_cons.mp member with rfl | others
      · exact ⟨text, rfl⟩
      · exact inductionHypothesis others
  | case2 text noPlus =>
      rw [scanSum_of_not_plus noPlus] at member
      exact ⟨text, List.mem_singleton.mp member⟩

theorem exists_scanSum_of_mem_scan {due : Nat} {text : List Char} {fields : List Field}
    (member : fields ∈ (scan due text).1) : ∃ here, fields = (scanSum here).1 := by
  induction due generalizing text with
  | zero => simp [scan] at member
  | succ due inductionHypothesis =>
      rcases scan_succ_cases due text with ends | ⟨_, later, -, -, goes_on⟩
      · rw [ends] at member
        exact ⟨text, List.mem_singleton.mp member⟩
      · rw [goes_on] at member
        rcases List.mem_cons.mp member with rfl | others
        · exact ⟨text, rfl⟩
        · exact inductionHypothesis others

theorem length_scan_le (due : Nat) (text : List Char) : (scan due text).1.length ≤ due := by
  induction due generalizing text with
  | zero => simp [scan]
  | succ due inductionHypothesis =>
      rcases scan_succ_cases due text with ends | ⟨_, later, -, -, goes_on⟩
      · simp [ends]
      · simpa [goes_on] using inductionHypothesis later

theorem judge_eq_ok_iff {due : Nat} {sums : List (List Field)} {rest : List Char}
    {read : List (List (Option Int))} :
    judge due sums rest = .ok read ↔
      (∀ fields ∈ sums, ∀ field ∈ fields, ¬ field.TooLarge) ∧ due ≤ sums.length ∧ rest = [] ∧
        sums.map (·.map fun field => field.addend.map Int.ofNat) = read := by
  have small_iff : firstTooLarge sums.flatten = none ↔
      ∀ fields ∈ sums, ∀ field ∈ fields, ¬ field.TooLarge := by
    simp only [firstTooLarge, List.find?_eq_none, List.mem_flatten, decide_eq_true_eq]
    exact ⟨fun small fields member field inside => small field ⟨fields, member, inside⟩,
      fun small field ⟨fields, member, inside⟩ => small fields member field inside⟩
  rw [← small_iff, judge]
  cases firstTooLarge sums.flatten with
  | some field => simp
  | none =>
      by_cases missing : sums.length < due
      · simp [missing, not_le.mpr missing]
      · by_cases left : rest = [] <;> simp [missing, left, not_lt.mp missing]

theorem map_addend_eq (fields : List Field) :
    fields.map (fun field => field.addend.map Int.ofNat) = (digitsOf fields).map addendOf := by
  rw [digitsOf, List.map_map]
  refine List.map_congr_left fun field member => ?_
  by_cases empty : field.digits = [] <;> simp [Field.addend, addendOf, empty]

theorem isWritten_scan {dimensions : Nat} {text : List Char}
    (small : ∀ fields ∈ (scan dimensions text).1, ∀ field ∈ fields, ¬ field.TooLarge)
    (all_read : (scan dimensions text).1.length = dimensions) :
    IsWritten dimensions ((scan dimensions text).1.map digitsOf) where
  size := by rw [List.length_map, all_read]
  nonempty digits member := by
    obtain ⟨fields, scanned, rfl⟩ := List.mem_map.mp member
    obtain ⟨here, rfl⟩ := exists_scanSum_of_mem_scan scanned
    exact digitsOf_scanSum_ne_nil here
  plain digits member run inside c place := by
    obtain ⟨fields, scanned, rfl⟩ := List.mem_map.mp member
    obtain ⟨here, rfl⟩ := exists_scanSum_of_mem_scan scanned
    obtain ⟨field, found, rfl⟩ := List.mem_map.mp inside
    obtain ⟨start, rfl⟩ := exists_first_of_mem_scanSum found
    exact List.mem_takeWhile_imp place
  small digits member run inside := by
    obtain ⟨fields, scanned, rfl⟩ := List.mem_map.mp member
    obtain ⟨field, found, rfl⟩ := List.mem_map.mp inside
    exact not_lt.mp (small fields scanned field found)

/-- The scan ends in an acceptance exactly on a text in written form. -/
theorem judge_scan_eq_ok_iff {dimensions : Nat} (one : 1 ≤ dimensions) {text : List Char}
    {read : List (List (Option Int))} :
    judge dimensions (scan dimensions text).1 (scan dimensions text).2 = .ok read ↔
      ∃ sums, IsWritten dimensions sums ∧ text = written sums ∧
        sums.map (·.map addendOf) = read := by
  rw [judge_eq_ok_iff]
  simp only [map_addend_eq]
  constructor
  · intro accepted
    obtain ⟨small, all_read, whole, rfl⟩ := accepted
    obtain ⟨due, rfl⟩ := Nat.exists_eq_add_of_le' one
    refine ⟨(scan (due + 1) text).1.map digitsOf, ?_, ?_, by simp⟩
    · exact isWritten_scan small (le_antisymm (length_scan_le _ _) all_read)
    · have joined := written_scan due text
      rw [whole, List.append_nil] at joined
      exact joined.symm
  · intro inForm
    obtain ⟨sums, isWritten, rfl, rfl⟩ := inForm
    obtain ⟨digits, ends⟩ := scan_written isWritten.size isWritten.nonempty isWritten.plain one
    refine ⟨?_, ?_, ends, ?_⟩
    · intro fields member field inside
      have written_fields : digitsOf fields ∈ sums := digits ▸ List.mem_map_of_mem member
      exact not_lt.mpr
        (isWritten.small _ written_fields field.digits (List.mem_map_of_mem inside))
    · have size := congrArg List.length digits
      rw [List.length_map, isWritten.size] at size
      exact size.ge
    · conv_rhs => rw [← digits]
      simp

/-- Parsing is scanning.  A text is refused at the first field that is too large, else where
the scan stops with sums missing or with text left; otherwise the fields are the addends.  So
the texts of ratios are those in written form. -/
theorem parse_eq_judge_scan {dimensions : Nat} (one : 1 ≤ dimensions) (text : List Char) :
    ((Ratio.parse dimensions text).mapError refusal?).map addends =
        (judge dimensions (scan dimensions text).1 (scan dimensions text).2).mapError some ∧
      ∀ read, (∃ ratio, Ratio.parse dimensions text = .ok ratio ∧ ratio.addends = read) ↔
        ∃ sums, IsWritten dimensions sums ∧ text = written sums ∧
          sums.map (·.map addendOf) = read := by
  have judged := mapError_parse_eq_judge one text
  refine ⟨judged, fun read => ?_⟩
  rw [← judge_scan_eq_ok_iff one]
  cases parsed : Ratio.parse dimensions text <;>
    cases scanned : judge dimensions (scan dimensions text).1 (scan dimensions text).2 <;>
    simp_all [Except.map, Except.mapError]

/-- Two sums of two fields, and a third that is not due. -/
theorem overlong_eq_judge_scan :
    1 ≤ 2 ∧ scan 2 "1+07:+:9".toList =
        ([[⟨['1'], "1+07:+:9".toList⟩, ⟨['0', '7'], "07:+:9".toList⟩],
          [⟨[], "+:9".toList⟩, ⟨[], ":9".toList⟩]], ":9".toList) ∧
      ((Ratio.parse 2 "1+07:+:9".toList).mapError refusal?).map addends =
        (judge 2 (scan 2 "1+07:+:9".toList).1 (scan 2 "1+07:+:9".toList).2).mapError some ∧
      ∀ read, (∃ ratio, Ratio.parse 2 "1+07:+:9".toList = .ok ratio ∧ ratio.addends = read) ↔
        ∃ sums, IsWritten 2 sums ∧ "1+07:+:9".toList = written sums ∧
          sums.map (·.map addendOf) = read :=
  ⟨by decide, by cbv, parse_eq_judge_scan (by decide) _⟩

end Ratio

end MonitorSplit
