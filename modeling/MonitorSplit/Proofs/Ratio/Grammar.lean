/-
Module: MonitorSplit.Proofs.Ratio.Grammar
Purpose: Every described parser ends on every text and points into it.
Main exports:
  Grammar.endings, Grammar.Ordered, Parsed.count, Grammar.exists_build_iff,
  Grammar.build_ends_inside
-/
import MonitorSplit.Proofs.Parser.Endings
import MonitorSplit.Ratio.Grammar

namespace MonitorSplit

open MonitorSplit.Parser (Endings)

/-!
### Parses of sums, boxes and ratios

Their parsers are made of lists, so their parses run the loop of a list.
-/

/-- How a parse of a sum can end. -/
def AxisSum.endings : Endings AxisSum :=
  .through (Parser.map ofFields) (.nonempty (.Between .atLeastOne (.of (Parser.char ['+']))
    (.through Parser.optional (.of Parser.numeral))))

/-- How a parse of so many lengths can end. -/
def Box.endings (dimensions : Int) : Endings Box :=
  .through (Parser.map ofNumerals) (.nonempty (.Between (.exactly dimensions)
    (.of (Parser.char ['x'])) (.of Parser.positiveNumeral)))

/-- How a parse of so many sums can end. -/
def Ratio.endings (dimensions : Int) : Endings Ratio :=
  .through (Parser.map ofParsed) (.nonempty (.Between (.exactly dimensions)
    (.of (Parser.char [':'])) AxisSum.endings))

theorem AxisSum.reads_parser : AxisSum.endings.Reads AxisSum.parser := by
  have plus := Endings.reads_of (Parser.inside_char ['+'])
  have field := (Endings.reads_of Parser.inside_numeral).optional
  exact (plus.nonemptyList Bounds.excludesEmpty_atLeastOne field).map ofFields

theorem AxisSum.bounded_parser : AxisSum.parser.Bounded AxisSum.size := by
  refine Parser.Bounded.map ?_
  simpa [ofFields, AxisSum.size] using
    Parser.bounded_nonemptyList Bounds.excludesEmpty_atLeastOne Parser.inside_numeral.optional

theorem Box.exists_reads {dimensions : Int} (one : 1 ≤ dimensions) :
    ∃ parser, Box.parser dimensions = .ok parser ∧ (Box.endings dimensions).Reads parser ∧
      parser.Bounded Box.dimensions := by
  have none_due : ¬ dimensions < 1 := not_lt.mpr one
  have some_due := Bounds.excludesEmpty_exactly none_due
  have cross := Endings.reads_of (Parser.inside_char ['x'])
  have length := Endings.reads_of Parser.inside_positiveNumeral
  refine ⟨_, dif_neg none_due, (cross.nonemptyList some_due length).map ofNumerals, ?_⟩
  refine Parser.Bounded.map ?_
  simpa [ofNumerals, Box.dimensions] using
    Parser.bounded_nonemptyList some_due Parser.inside_positiveNumeral

theorem Ratio.exists_reads {dimensions : Int} (one : 1 ≤ dimensions) :
    ∃ parser, Ratio.parser dimensions = .ok parser ∧ (Ratio.endings dimensions).Reads parser ∧
      parser.Bounded Ratio.dimensions := by
  have none_due : ¬ dimensions < 1 := not_lt.mpr one
  have some_due := Bounds.excludesEmpty_exactly none_due
  have colon := Endings.reads_of (Parser.inside_char [':'])
  have sum := AxisSum.reads_parser
  refine ⟨_, dif_neg none_due, (colon.nonemptyList some_due sum).map ofParsed, ?_⟩
  refine Parser.Bounded.map ?_
  simpa [ofParsed, Ratio.dimensions] using Parser.bounded_nonemptyList some_due sum.inside

/-!
### Described parsers
-/

/-- The number of elements of a list that was read, whatever it was read as. -/
def Parsed.count : Parsed → Nat
  | .text _ | .number _ | .absent => 0
  | .axisSum value => value.size
  | .box value => value.dimensions
  | .ratio value => value.dimensions
  | .list values => values.length

namespace Grammar

/-- All bounds in the description are ordered, and boxes and ratios have an axis. -/
def Ordered : Grammar → Prop
  | .char _ | .numeral | .positiveNumeral | .axisSum => True
  | .box dimensions | .ratio dimensions => 1 ≤ dimensions
  | .optional inner | .wholeText inner => inner.Ordered
  | .list bounds separator element => bounds.Ordered ∧ separator.Ordered ∧ element.Ordered

instance decidableOrdered : (grammar : Grammar) → Decidable grammar.Ordered
  | .char _ | .numeral | .positiveNumeral | .axisSum => inferInstanceAs (Decidable True)
  | .box dimensions | .ratio dimensions => inferInstanceAs (Decidable (1 ≤ dimensions))
  | .optional inner | .wholeText inner => inner.decidableOrdered
  | .list bounds separator element =>
      have := separator.decidableOrdered
      have := element.decidableOrdered
      inferInstanceAs (Decidable (bounds.Ordered ∧ separator.Ordered ∧ element.Ordered))

/-- How the parse that is described can end. -/
def endings : Grammar → Endings Parsed
  | .char expected => .through (Parser.map .text) (.of (Parser.char expected))
  | .numeral => .through (Parser.map .number) (.of Parser.numeral)
  | .positiveNumeral => .through (Parser.map .number) (.of Parser.positiveNumeral)
  | .axisSum => .through (Parser.map .axisSum) AxisSum.endings
  | .box dimensions => .through (Parser.map .box) (Box.endings dimensions)
  | .ratio dimensions => .through (Parser.map .ratio) (Ratio.endings dimensions)
  | .optional inner =>
      .through (Parser.map (·.getD .absent)) (.through Parser.optional inner.endings)
  | .wholeText inner => .through Parser.wholeText inner.endings
  | .list bounds separator element =>
      .through (Parser.map .list) (.Between bounds separator.endings element.endings)

/-- The described parse ends with just what the parser returns, and no list that is read has
more than one element beyond the characters of its text. -/
structure Describes (grammar : Grammar) (parser : Parser Parsed) : Prop where
  reads : grammar.endings.Reads parser
  bounded : parser.Bounded Parsed.count

theorem exists_describes {grammar : Grammar} (ordered : grammar.Ordered) :
    ∃ parser, grammar.build = .ok parser ∧ grammar.Describes parser := by
  induction grammar with
  | char expected =>
      have text := Endings.reads_of (Parser.inside_char expected)
      exact ⟨_, rfl, text.map Parsed.text, .map fun _ _ _ _ => Nat.zero_le _⟩
  | numeral =>
      have number := Endings.reads_of Parser.inside_numeral
      exact ⟨_, rfl, number.map Parsed.number, .map fun _ _ _ _ => Nat.zero_le _⟩
  | positiveNumeral =>
      have number := Endings.reads_of Parser.inside_positiveNumeral
      exact ⟨_, rfl, number.map Parsed.number, .map fun _ _ _ _ => Nat.zero_le _⟩
  | axisSum => exact ⟨_, rfl, AxisSum.reads_parser.map Parsed.axisSum, .map AxisSum.bounded_parser⟩
  | box dimensions =>
      obtain ⟨parser, built, reads, bounded⟩ := Box.exists_reads ordered
      exact ⟨_, by rw [build, built, lift], reads.map Parsed.box, .map bounded⟩
  | ratio dimensions =>
      obtain ⟨parser, built, reads, bounded⟩ := Ratio.exists_reads ordered
      exact ⟨_, by rw [build, built, lift], reads.map Parsed.ratio, .map bounded⟩
  | optional inner inductionHypothesis =>
      obtain ⟨parser, built, described⟩ := inductionHypothesis ordered
      refine ⟨_, by rw [build, built]; rfl, described.reads.optional.map _, .map ?_⟩
      intro text value rest read
      have bound := described.bounded.optional read
      cases value with
      | none => exact Nat.zero_le _
      | some value => exact bound
  | wholeText inner inductionHypothesis =>
      obtain ⟨parser, built, described⟩ := inductionHypothesis ordered
      exact ⟨_, by rw [build, built]; rfl, described.reads.wholeText, described.bounded.wholeText⟩
  | list bounds separator element separatorHypothesis elementHypothesis =>
      obtain ⟨fits, separates, follows⟩ := ordered
      obtain ⟨readSeparator, builtSeparator, marks⟩ := separatorHypothesis separates
      obtain ⟨readElement, builtElement, described⟩ := elementHypothesis follows
      refine ⟨_, ?_, (marks.reads.listBetween described.reads).map Parsed.list,
        .map (Parser.bounded_listBetween described.reads.inside)⟩
      rw [build, builtSeparator, builtElement]
      simp only [Bounds.check_eq_ok_iff.mpr fits, bind, Except.bind]
      rfl

theorem ordered_of_build {grammar : Grammar} {parser : Parser Parsed}
    (built : grammar.build = .ok parser) : grammar.Ordered := by
  induction grammar generalizing parser with
  | char | numeral | positiveNumeral | axisSum => trivial
  | box dimensions =>
      by_contra none_due
      simp [build, Box.parser, lift, show dimensions < 1 from not_le.mp none_due] at built
  | ratio dimensions =>
      by_contra none_due
      simp [build, Ratio.parser, lift, show dimensions < 1 from not_le.mp none_due] at built
  | optional inner inductionHypothesis | wholeText inner inductionHypothesis =>
      cases within : inner.build with
      | error cause =>
          rw [build, within] at built
          cases built
      | ok read => exact inductionHypothesis within
  | list bounds separator element separatorHypothesis elementHypothesis =>
      rw [build] at built
      cases separates : separator.build with
      | error cause =>
          rw [separates] at built
          cases built
      | ok readSeparator =>
          cases follows : element.build with
          | error cause =>
              rw [separates, follows] at built
              cases built
          | ok readElement =>
              refine ⟨?_, separatorHypothesis separates, elementHypothesis follows⟩
              rw [separates, follows] at built
              rw [← Bounds.check_eq_ok_iff]
              cases checked : bounds.check with
              | error cause => simp [bind, Except.bind, checked] at built
              | ok => rfl

/-- Just the ordered descriptions describe a parser. -/
theorem exists_build_iff {grammar : Grammar} :
    (∃ parser, grammar.build = .ok parser) ↔ grammar.Ordered := by
  constructor
  · rintro ⟨parser, built⟩
    exact ordered_of_build built
  · intro ordered
    obtain ⟨parser, built, -⟩ := exists_describes ordered
    exact ⟨parser, built⟩

/-- Every parser of the language ends on every text, whether its separators and elements
consume anything or not, and it points to an end of that text.  A list that it reads has at most
one element more than the text has characters. -/
theorem build_ends_inside {grammar : Grammar} (ordered : grammar.Ordered) :
    ∃ parser, grammar.build = .ok parser ∧ ∀ text,
      (∀ outcome, grammar.endings text outcome ↔ outcome = parser text) ∧
        match parser text with
        | .ok (value, rest) => rest <:+ text ∧ value.count ≤ text.length + 1
        | .error error => error.remaining <:+ text := by
  obtain ⟨parser, built, described⟩ := exists_describes ordered
  refine ⟨parser, built, fun text => ⟨described.reads.iff text, ?_⟩⟩
  cases read : parser text with
  | error error => exact described.reads.inside.place read
  | ok pair => exact ⟨described.reads.inside.rest read, described.bounded read⟩

/-- Lists in a list.  Neither the separators nor the elements have to consume anything. -/
def idleLists : Grammar :=
  .list { least := 0, most := none } (.optional (.char [';']))
    (.list { least := 0, most := none } (.char []) .axisSum)

theorem idleLists_ends_inside :
    idleLists.Ordered ∧ ∃ parser, idleLists.build = .ok parser ∧ ∀ text,
      (∀ outcome, idleLists.endings text outcome ↔ outcome = parser text) ∧
        match parser text with
        | .ok (value, rest) => rest <:+ text ∧ value.count ≤ text.length + 1
        | .error error => error.remaining <:+ text := by
  have ordered : idleLists.Ordered := by decide
  exact ⟨ordered, build_ends_inside ordered⟩

end Grammar

end MonitorSplit
