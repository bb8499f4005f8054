/-
Module: MonitorSplit.Proofs.Ratio.Rendering
Purpose: Ratios written and read back, and their texts without superfluous zeros.
Main exports:
  Text.shortenNumerals, Ratio.InRange, Ratio.parse_eq_ok_iff, Ratio.parse_render_of_inRange,
  Ratio.render_of_parse, Ratio.write_inverts_parse, Ratio.longNumber_not_refused
-/
import MonitorSplit.Proofs.Ratio.Base
import MonitorSplit.Proofs.Ratio.Scan
import MonitorSplit.Proofs.Ratio.Writing
import MonitorSplit.Proofs.Text.Lines

namespace MonitorSplit

namespace Text

/-!
### Superfluous zeros

A zero is superfluous where a numeral begins with it and another digit follows.  Between two
texts with the same numerals these zeros are the only difference that reading does not see.
-/

/-- The rest of a text without superfluous zeros.  `inside` tells that the numeral under way
has begun with another digit. -/
def shortenFrom (inside : Bool) : List Char → List Char
  | [] => []
  | c :: rest =>
      if !inside && c = '0' && rest.head?.any isPlainDigit then shortenFrom false rest
      else c :: shortenFrom (isPlainDigit c) rest

/-- The text without the superfluous zeros of its numerals. -/
def shortenNumerals (text : List Char) : List Char := shortenFrom false text

/-- A text that begins with no plain digit. -/
def EndsDigits (text : List Char) : Prop := ∀ c ∈ text.head?, isPlainDigit c = false

theorem shortenFrom_cons_of_not_digit {c : Char} (noDigit : isPlainDigit c = false) (inside : Bool)
    (rest : List Char) : shortenFrom inside (c :: rest) = c :: shortenFrom false rest := by
  have nonzero : c ≠ '0' := fun zero => absurd (zero ▸ noDigit) (by decide)
  simp [shortenFrom, nonzero, noDigit]

/-- Where no digit follows, it makes no difference what came before. -/
theorem shortenFrom_of_endsDigits {rest : List Char} (ends : EndsDigits rest) (inside : Bool) :
    shortenFrom inside rest = shortenFrom false rest := by
  cases rest with
  | nil => rfl
  | cons c rest => simp only [shortenFrom_cons_of_not_digit (ends c rfl)]

/-- After its first digit a numeral stays as it is. -/
theorem shortenFrom_inside {digits : List Char} (plain : ∀ c ∈ digits, isPlainDigit c = true)
    (rest : List Char) : shortenFrom true (digits ++ rest) = digits ++ shortenFrom true rest := by
  induction digits with
  | nil => rfl
  | cons c digits inductionHypothesis =>
      obtain ⟨head, tail⟩ := List.forall_mem_cons.mp plain
      simp [shortenFrom, head, inductionHypothesis tail]

/-- A numeral is shortened to the digits that its number is written with. -/
theorem shortenFrom_numeral {c : Char} {digits : List Char}
    (plain : ∀ d ∈ c :: digits, isPlainDigit d = true) {rest : List Char} (ends : EndsDigits rest) :
    shortenFrom false (c :: digits ++ rest) =
      Nat.toDigits 10 (fieldValue (c :: digits)) ++ shortenFrom false rest := by
  induction digits generalizing c with
  | nil =>
      by_cases zero : c = '0'
      · subst zero
        have noDigit : rest.head?.any isPlainDigit = false := by
          cases rest with
          | nil => rfl
          | cons next rest => exact ends next rfl
        have value : Nat.toDigits 10 (fieldValue ['0']) = ['0'] := by decide
        simp only [List.cons_append, List.nil_append, shortenFrom, noDigit, Bool.and_false,
          Bool.false_eq_true, if_false, shortenFrom_of_endsDigits ends, value]
      · rw [toDigits_fieldValue plain zero]
        simp [shortenFrom, zero, shortenFrom_of_endsDigits ends]
  | cons next digits inductionHypothesis =>
      obtain ⟨head, tail⟩ := List.forall_mem_cons.mp plain
      by_cases zero : c = '0'
      · subst zero
        have value : fieldValue ('0' :: next :: digits) = fieldValue (next :: digits) := by
          rw [fieldValue_cons, Nat.sub_self, Nat.mul_zero, Nat.zero_add]
        have dropped : shortenFrom false ('0' :: next :: digits ++ rest) =
            shortenFrom false (next :: digits ++ rest) := by
          simp [shortenFrom, tail next List.mem_cons_self]
        rw [dropped, inductionHypothesis tail, value]
      · have kept : shortenFrom false (c :: (next :: digits ++ rest)) =
            c :: shortenFrom true (next :: digits ++ rest) := by simp [shortenFrom, zero, head]
        rw [toDigits_fieldValue plain zero, List.cons_append, kept, shortenFrom_inside tail,
          shortenFrom_of_endsDigits ends]
        simp only [List.cons_append]

/-- Between pieces that are shortened one by one, a separator that is no digit stays. -/
theorem shortenFrom_intercalate {β : Type} {separator : Char}
    (noDigit : isPlainDigit separator = false) {pieces : List β} {text shorten : β → List Char}
    (each : ∀ piece ∈ pieces, ∀ rest, EndsDigits rest →
      shortenFrom false (text piece ++ rest) = shorten piece ++ shortenFrom false rest)
    {rest : List Char} (ends : EndsDigits rest) :
    shortenFrom false (List.intercalate [separator] (pieces.map text) ++ rest) =
      List.intercalate [separator] (pieces.map shorten) ++ shortenFrom false rest := by
  induction pieces with
  | nil => rfl
  | cons piece others inductionHypothesis =>
      obtain ⟨head, tail⟩ := List.forall_mem_cons.mp each
      cases others with
      | nil => simpa using head rest ends
      | cons next others =>
          have later := inductionHypothesis tail
          have stops (after : List Char) : EndsDigits (separator :: after) := by
            simpa [EndsDigits] using noDigit
          simp only [List.map_cons, List.intercalate_cons_cons, List.append_assoc, List.cons_append,
            List.nil_append] at later ⊢
          rw [head _ (stops _), shortenFrom_cons_of_not_digit noDigit, later]

end Text

namespace Ratio

/-!
### Written in the shortest form

The shortest text of a field has the digits that its number is written with.
-/

/-- The shortest text of a field. -/
def shortField (digits : List Char) : List Char := AxisSum.renderAddend (addendOf digits)

theorem shortField_nil : shortField [] = [] := rfl

theorem shortField_cons (c : Char) (rest : List Char) :
    shortField (c :: rest) = Nat.toDigits 10 (fieldValue (c :: rest)) := by
  rw [shortField, addendOf, if_neg (List.cons_ne_nil c rest), AxisSum.renderAddend,
    toList_toString_int, if_pos (Int.natCast_nonneg _), Int.toNat_natCast]

/-- Shortening a written ratio shortens its fields. -/
theorem shortenNumerals_written {sums : List (List (List Char))}
    (plain : ∀ fields ∈ sums, ∀ digits ∈ fields, ∀ c ∈ digits, Text.isPlainDigit c = true) :
    Text.shortenNumerals (written sums) = written (sums.map (·.map shortField)) := by
  have plus : Text.isPlainDigit '+' = false := by decide
  have colon : Text.isPlainDigit ':' = false := by decide
  have field : ∀ fields ∈ sums, ∀ digits ∈ fields, ∀ rest, Text.EndsDigits rest →
      Text.shortenFrom false (digits ++ rest) = shortField digits ++ Text.shortenFrom false rest := by
    intro fields member digits inside rest ends
    cases digits with
    | nil => rw [shortField_nil, List.nil_append, List.nil_append]
    | cons c digits =>
        rw [shortField_cons]
        exact Text.shortenFrom_numeral (plain fields member _ inside) ends
  have sum : ∀ fields ∈ sums, ∀ rest, Text.EndsDigits rest →
      Text.shortenFrom false (writtenSum fields ++ rest) =
        writtenSum (fields.map shortField) ++ Text.shortenFrom false rest := by
    intro fields member rest ends
    simpa [writtenSum] using Text.shortenFrom_intercalate plus (field fields member) ends
  have nothing : Text.EndsDigits [] := by simp [Text.EndsDigits]
  have all := Text.shortenFrom_intercalate colon sum nothing
  simpa [Text.shortenNumerals, written, Text.shortenFrom, Function.comp_def] using all

/-!
### Texts of ratios
-/

/-- The addends of a ratio as the fields of its text. -/
def fieldTexts (ratio : Ratio) : List (List (List Char)) :=
  ratio.sums.map (·.addends.map AxisSum.renderAddend)

theorem render_eq_written (ratio : Ratio) : ratio.render = written ratio.fieldTexts := by
  rw [written, fieldTexts, List.map_map]
  rfl

/-- Every known addend is a number that a text of a ratio may hold. -/
def InRange (ratio : Ratio) : Prop :=
  ∀ sum ∈ ratio.sums, ∀ addend ∈ sum.addends, ∀ known ∈ addend, 0 ≤ known ∧ known ≤ largestNumeral

instance (ratio : Ratio) : Decidable ratio.InRange :=
  inferInstanceAs (Decidable (∀ sum ∈ ratio.sums, ∀ addend ∈ sum.addends, ∀ known ∈ addend, _))

/-- What a text is read as: the ratio that it is the written form of. -/
theorem parse_eq_ok_iff {dimensions : Nat} (one : 1 ≤ dimensions) {text : List Char} {ratio : Ratio} :
    Ratio.parse dimensions text = .ok ratio ↔
      ∃ sums, IsWritten dimensions sums ∧ text = written sums ∧
        sums.map (·.map addendOf) = ratio.addends := by
  rw [← judge_scan_eq_ok_iff one]
  refine ⟨fun parsed => ?_, parse_of_judge one⟩
  have judged := mapError_parse_eq_judge one text
  rw [parsed] at judged
  cases outcome : judge dimensions (scan dimensions text).1 (scan dimensions text).2 with
  | error refusal => simp [outcome, Except.map, Except.mapError] at judged
  | ok read => simp_all [Except.map, Except.mapError]

/-- With an axis or more to read, a text is refused for what is written in it. -/
theorem exists_parse_eq_error {dimensions : Nat} (one : 1 ≤ dimensions) {text : List Char}
    (refused : ∀ ratio, Ratio.parse dimensions text ≠ .ok ratio) :
    ∃ error, Ratio.parse dimensions text = .error (.parse error) := by
  obtain ⟨parser, built, -⟩ := map_addends_ratio one
  unfold Ratio.parse readWith at refused ⊢
  rw [built] at refused ⊢
  dsimp only at refused ⊢
  cases outcome : Parser.parseAll parser text with
  | error error => exact ⟨error, rfl⟩
  | ok ratio => exact absurd (by rw [outcome]) (refused ratio)

/-!
### Read back

The fields of a ratio without negative addends are runs of digits, so its text is scanned into
just these fields, and it is read if none of them is too large.  A minus sign belongs to no text
that is read.
-/

section

variable {ratio : Ratio}

theorem mem_fieldTexts {fields : List (List Char)} :
    fields ∈ ratio.fieldTexts ↔
      ∃ sum ∈ ratio.sums, sum.addends.map AxisSum.renderAddend = fields :=
  List.mem_map

theorem length_fieldTexts : ratio.fieldTexts.length = ratio.dimensions := List.length_map _

theorem ne_nil_of_mem_fieldTexts {fields : List (List Char)} (member : fields ∈ ratio.fieldTexts) :
    fields ≠ [] := by
  obtain ⟨sum, -, rfl⟩ := mem_fieldTexts.mp member
  simpa using sum.nonempty

theorem one_le_dimensions (ratio : Ratio) : 1 ≤ ratio.dimensions :=
  List.length_pos_iff.mpr ratio.nonempty

theorem renderAddend_some {known : Int} (nonneg : 0 ≤ known) :
    AxisSum.renderAddend (some known) = Nat.toDigits 10 known.toNat := by
  rw [AxisSum.renderAddend, toList_toString_int, if_pos nonneg]

/-- The field of an addend that is not negative stands for that addend. -/
theorem addendOf_renderAddend {addend : Option Int} (nonneg : ∀ known ∈ addend, 0 ≤ known) :
    addendOf (AxisSum.renderAddend addend) = addend := by
  cases addend with
  | none => rfl
  | some known =>
      have natural := nonneg known rfl
      rw [renderAddend_some natural, addendOf, if_neg Nat.toDigits_ne_nil, fieldValue,
        Nat.ofDigitChars_ten_toDigits, Int.toNat_of_nonneg natural]

theorem InRange.knownNonneg (inRange : ratio.InRange) : ratio.KnownNonneg :=
  fun sum member addend inside known isKnown => (inRange sum member addend inside known isKnown).1

theorem plain_fieldTexts (nonneg : ratio.KnownNonneg) :
    ∀ fields ∈ ratio.fieldTexts, ∀ digits ∈ fields, ∀ c ∈ digits, Text.isPlainDigit c = true := by
  intro fields member digits inside c place
  obtain ⟨sum, among, rfl⟩ := mem_fieldTexts.mp member
  obtain ⟨addend, addendAmong, rfl⟩ := List.mem_map.mp inside
  cases addend with
  | none => cases place
  | some known =>
      rw [renderAddend_some (nonneg sum among _ addendAmong known rfl)] at place
      exact Text.isPlainDigit_of_mem_toDigits place

theorem map_addendOf_fieldTexts (nonneg : ratio.KnownNonneg) :
    ratio.fieldTexts.map (·.map addendOf) = ratio.addends := by
  rw [fieldTexts, List.map_map, addends]
  refine List.map_congr_left fun sum member => ?_
  rw [Function.comp_apply, List.map_map]
  refine (List.map_congr_left fun addend inside => ?_).trans (List.map_id _)
  exact addendOf_renderAddend (nonneg sum member addend inside)

/-- The numbers of the fields are those of the addends. -/
theorem small_fieldTexts_iff (nonneg : ratio.KnownNonneg) :
    (∀ fields ∈ ratio.fieldTexts, ∀ digits ∈ fields, fieldValue digits ≤ largestNumeral) ↔
      ratio.InRange := by
  constructor
  · intro small sum member addend inside known isKnown
    have natural := nonneg sum member addend inside known isKnown
    have bound := small _ (mem_fieldTexts.mpr ⟨sum, member, rfl⟩) _ (List.mem_map_of_mem inside)
    rw [Option.mem_def.mp isKnown, renderAddend_some natural, fieldValue,
      Nat.ofDigitChars_ten_toDigits] at bound
    exact ⟨natural, by omega⟩
  · intro inRange fields member digits inside
    obtain ⟨sum, among, rfl⟩ := mem_fieldTexts.mp member
    obtain ⟨addend, addendAmong, rfl⟩ := List.mem_map.mp inside
    cases addend with
    | none => exact Nat.zero_le _
    | some known =>
        obtain ⟨natural, bound⟩ := inRange sum among _ addendAmong known rfl
        rw [renderAddend_some natural, fieldValue, Nat.ofDigitChars_ten_toDigits]
        omega

/-- A ratio whose addends are in range is read back from its text. -/
theorem parse_render_of_inRange (inRange : ratio.InRange) :
    Ratio.parse ratio.dimensions ratio.render = .ok ratio := by
  have nonneg := inRange.knownNonneg
  refine (parse_eq_ok_iff ratio.one_le_dimensions).mpr
    ⟨ratio.fieldTexts, ?_, ratio.render_eq_written, map_addendOf_fieldTexts nonneg⟩
  exact {
    size := length_fieldTexts
    nonempty := fun _ member => ne_nil_of_mem_fieldTexts member
    plain := plain_fieldTexts nonneg
    small := (small_fieldTexts_iff nonneg).mpr inRange }

/-- The characters of a text that is read. -/
theorem mem_written {dimensions : Nat} {sums : List (List (List Char))}
    (isWritten : IsWritten dimensions sums) {c : Char} (member : c ∈ written sums) :
    Text.isPlainDigit c = true ∨ c = '+' ∨ c = ':' := by
  by_contra other
  obtain ⟨noDigit, noPlus, noColon⟩ := by simpa only [not_or] using other
  refine Text.not_mem_intercalate (by simpa using noColon) (fun text inside => ?_) member
  obtain ⟨fields, among, rfl⟩ := List.mem_map.mp inside
  refine Text.not_mem_intercalate (by simpa using noPlus) (fun digits digitsAmong place => ?_)
  exact noDigit (isWritten.plain fields among digits digitsAmong c place)

theorem exists_dimensions_of_parse {dimensions : Int} {text : List Char} {ratio : Ratio}
    (parsed : Ratio.parse dimensions text = .ok ratio) :
    ∃ count : Nat, dimensions = count ∧ 1 ≤ count := by
  unfold Ratio.parse Ratio.parser at parsed
  split at parsed
  · cases parsed
  · exact ⟨dimensions.toNat, by omega, by omega⟩

theorem mem_of_parse {dimensions : Int} {text : List Char} {ratio : Ratio}
    (parsed : Ratio.parse dimensions text = .ok ratio) {c : Char} (member : c ∈ text) :
    Text.isPlainDigit c = true ∨ c = '+' ∨ c = ':' := by
  obtain ⟨count, rfl, one⟩ := exists_dimensions_of_parse parsed
  obtain ⟨sums, isWritten, rfl, -⟩ := (parse_eq_ok_iff one).mp parsed
  exact mem_written isWritten member

/-- A text that is read holds no minus sign, so its ratio has no negative addend. -/
theorem knownNonneg_of_render_eq {dimensions : Nat} {sums : List (List (List Char))}
    (isWritten : IsWritten dimensions sums) (same : ratio.render = written sums) :
    ratio.KnownNonneg := by
  intro sum member addend inside known isKnown
  by_contra negative
  have shown : '-' ∈ AxisSum.renderAddend addend := by
    rw [Option.mem_def.mp isKnown, AxisSum.renderAddend, toList_toString_int, if_neg negative]
    exact List.mem_cons_self
  have place : '-' ∈ ratio.render :=
    Text.mem_intercalate_of_mem (List.mem_map_of_mem member)
      (Text.mem_intercalate_of_mem (List.mem_map_of_mem inside) shown)
  rw [same] at place
  rcases mem_written isWritten place with digit | plus | colon
  · exact absurd digit (by decide)
  · exact absurd plus (by decide)
  · exact absurd colon (by decide)

/-- A ratio whose text is read, as whatever ratio, has all its addends in range. -/
theorem inRange_of_parse_render {read : Ratio}
    (parsed : Ratio.parse ratio.dimensions ratio.render = .ok read) : ratio.InRange := by
  obtain ⟨sums, isWritten, same, -⟩ := (parse_eq_ok_iff ratio.one_le_dimensions).mp parsed
  have nonneg := knownNonneg_of_render_eq isWritten same
  -- the text is scanned into the fields of the ratio and into those of the written form
  have own := (scan_written length_fieldTexts (fun _ member => ne_nil_of_mem_fieldTexts member)
    (plain_fieldTexts nonneg) ratio.one_le_dimensions).1
  have found := (scan_written isWritten.size isWritten.nonempty isWritten.plain
    ratio.one_le_dimensions).1
  rw [← render_eq_written, same, found] at own
  exact (small_fieldTexts_iff nonneg).mp (own ▸ isWritten.small)

theorem dimensions_of_parse {dimensions : Nat} (one : 1 ≤ dimensions) {text : List Char}
    (parsed : Ratio.parse dimensions text = .ok ratio) : ratio.dimensions = dimensions := by
  obtain ⟨sums, isWritten, -, read⟩ := (parse_eq_ok_iff one).mp parsed
  have size := congrArg List.length read
  rw [List.length_map, isWritten.size, addends, List.length_map] at size
  exact size.symm

/-- What was read is written without superfluous zeros. -/
theorem render_of_parse {dimensions : Nat} (one : 1 ≤ dimensions) {text : List Char}
    (parsed : Ratio.parse dimensions text = .ok ratio) :
    ratio.render = Text.shortenNumerals text := by
  obtain ⟨sums, isWritten, rfl, read⟩ := (parse_eq_ok_iff one).mp parsed
  have fields : ratio.fieldTexts = ratio.addends.map (·.map AxisSum.renderAddend) := by
    rw [addends, List.map_map]
    rfl
  rw [render_eq_written, fields, ← read, shortenNumerals_written isWritten.plain, List.map_map]
  simp only [Function.comp_def, List.map_map]
  rfl

theorem inRange_of_parse {dimensions : Nat} (one : 1 ≤ dimensions) {text : List Char}
    (parsed : Ratio.parse dimensions text = .ok ratio) : ratio.InRange := by
  obtain ⟨sums, isWritten, -, read⟩ := (parse_eq_ok_iff one).mp parsed
  intro sum member addend inside known isKnown
  have listed : sum.addends ∈ ratio.addends := List.mem_map_of_mem member
  rw [← read] at listed
  obtain ⟨fields, among, same⟩ := List.mem_map.mp listed
  rw [← same] at inside
  obtain ⟨digits, digitsAmong, rfl⟩ := List.mem_map.mp inside
  obtain ⟨-, rfl⟩ : digits ≠ [] ∧ (fieldValue digits : Int) = known := by
    simpa [addendOf] using isKnown
  have small := isWritten.small fields among digits digitsAmong
  omega

/-- Texts are read alike exactly if they differ in superfluous zeros alone. -/
theorem eq_iff_shortenNumerals_eq {dimensions : Nat} (one : 1 ≤ dimensions) {text other : List Char}
    {another : Ratio} (parsed : Ratio.parse dimensions text = .ok ratio)
    (parsedOther : Ratio.parse dimensions other = .ok another) :
    ratio = another ↔ Text.shortenNumerals text = Text.shortenNumerals other := by
  rw [← render_of_parse one parsed, ← render_of_parse one parsedOther]
  refine ⟨congrArg render, fun same => ?_⟩
  have back := parse_render_of_inRange (inRange_of_parse one parsed)
  have backOther := parse_render_of_inRange (inRange_of_parse one parsedOther)
  rw [dimensions_of_parse one parsed, same] at back
  rw [dimensions_of_parse one parsedOther, back] at backOther
  exact Except.ok.inj backOther

end

/-- Numbers in range are short. -/
theorem writable_of_inRange {number : Int} (nonneg : 0 ≤ number) (small : number ≤ largestNumeral) :
    Writable number := by
  have lower : Writable 0 := by decide
  have upper : Writable largestNumeral := by decide
  exact .of_bounds lower upper nonneg small

theorem InRange.short {ratio : Ratio} (inRange : ratio.InRange) : ratio.Short :=
  fun sum member addend inside known isKnown =>
    writable_of_inRange (inRange sum member addend inside known isKnown).1
      (inRange sum member addend inside known isKnown).2

/-- Writing and reading ratios are inverse to each other.  A ratio is read back from its text
if its addends are in range.  Otherwise the text is refused, or an addend is so long that there is
no text at all.  And a text that is read is written again without superfluous zeros, which alone
tell it from other texts read alike. -/
theorem write_inverts_parse {dimensions : Nat} (one : 1 ≤ dimensions) :
    (∀ ratio : Ratio, ratio.dimensions = dimensions →
      (ratio.InRange → ∃ text, ratio.write = .ok text ∧ Ratio.parse dimensions text = .ok ratio) ∧
        (¬ ratio.InRange → ratio.Short → ∃ text error, ratio.write = .ok text ∧
          Ratio.parse dimensions text = .error (.parse error)) ∧
        (¬ ratio.Short → ratio.write = .error .toWrite)) ∧
      (∀ text ratio, Ratio.parse dimensions text = .ok ratio →
        ratio.write = .ok (Text.shortenNumerals text)) ∧
      ∀ text other ratio another, Ratio.parse dimensions text = .ok ratio →
        Ratio.parse dimensions other = .ok another →
        (ratio = another ↔ Text.shortenNumerals text = Text.shortenNumerals other) := by
  refine ⟨?_, fun text ratio parsed => ?_, fun _ _ _ _ => eq_iff_shortenNumerals_eq one⟩
  · rintro ratio rfl
    refine ⟨fun inRange => ?_, fun outOfRange short => ?_, write_eq_error⟩
    · exact ⟨_, inRange.short.write_eq, parse_render_of_inRange inRange⟩
    · obtain ⟨error, refused⟩ :=
        exists_parse_eq_error one fun read parsed => outOfRange (inRange_of_parse_render parsed)
      exact ⟨_, error, short.write_eq, refused⟩
  · rw [(inRange_of_parse one parsed).short.write_eq, render_of_parse one parsed]

/-- The ratio of several texts, which differ in superfluous zeros. -/
def padded : Ratio := { sums := [{ addends := [some 1, none] }, { addends := [some 7, some 0] }] }

/-- A ratio that no text gives. -/
def belowZero : Ratio := { sums := [{ addends := [some (-1)] }, { addends := [some 7] }] }

/-- A ratio with an addend of one digit too many. -/
def longNumber : Ratio :=
  { sums := [{ addends := [some (longest + 1)] }, { addends := [some 7] }] }

theorem longNumber_long : ¬ longNumber.Short := fun short =>
  not_writable_of_longest_lt (Int.lt_succ longest)
    (short _ List.mem_cons_self _ List.mem_cons_self (longest + 1) rfl)

theorem padded_inverts :
    1 ≤ 2 ∧
      (padded.dimensions = 2 ∧ padded.InRange ∧
        ∃ text, padded.write = .ok text ∧ Ratio.parse 2 text = .ok padded) ∧
      (belowZero.dimensions = 2 ∧ ¬ belowZero.InRange ∧ belowZero.Short ∧
        ∃ text error, belowZero.write = .ok text ∧ Ratio.parse 2 text = .error (.parse error)) ∧
      (longNumber.dimensions = 2 ∧ ¬ longNumber.Short ∧ longNumber.write = .error .toWrite) ∧
      (Ratio.parse 2 "01+:007+00".toList = .ok padded ∧
        padded.write = .ok (Text.shortenNumerals "01+:007+00".toList)) ∧
      (Ratio.parse 2 "1+:7+000".toList = .ok padded ∧
        (padded = padded ↔
          Text.shortenNumerals "01+:007+00".toList = Text.shortenNumerals "1+:7+000".toList)) := by
  have one : 1 ≤ 2 := by decide
  have inRange : padded.InRange := by decide
  have outOfRange : ¬ belowZero.InRange := by decide
  have short : belowZero.Short := by decide
  have parsed : Ratio.parse 2 "01+:007+00".toList = .ok padded := parse_of_judge one (by cbv)
  have parsedOther : Ratio.parse 2 "1+:7+000".toList = .ok padded := parse_of_judge one (by cbv)
  obtain ⟨back, shortest, alike⟩ := write_inverts_parse one
  exact ⟨one, ⟨rfl, inRange, (back padded rfl).1 inRange⟩,
    ⟨rfl, outOfRange, short, (back belowZero rfl).2.1 outOfRange short⟩,
    ⟨rfl, longNumber_long, (back longNumber rfl).2.2 longNumber_long⟩,
    ⟨parsed, shortest _ padded parsed⟩,
    ⟨parsedOther, alike _ _ padded padded parsed parsedOther⟩⟩

/-- So not every ratio with an addend out of range has a text to be refused. -/
theorem longNumber_not_refused :
    longNumber.dimensions = 2 ∧ ¬ longNumber.InRange ∧
      ¬ ∃ text error, longNumber.write = .ok text ∧ Ratio.parse 2 text = .error (.parse error) := by
  refine ⟨rfl, fun inRange => longNumber_long inRange.short, ?_⟩
  rintro ⟨text, _, told, -⟩
  rw [write_eq_error longNumber_long] at told
  cases told

end Ratio

end MonitorSplit
