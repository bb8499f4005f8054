/-
Module: MonitorSplit.Proofs.Parser.Inside
Purpose: Parsers point into their texts, and their lists are bounded by these.
Main exports:
  Parser.Outcome, Parser.remaining, Parser.Inside, Parser.Inside.listBetween,
  Parser.Bounded, Parser.bounded_listBetween
-/
import MonitorSplit.Proofs.Parser.List
import MonitorSplit.Parser.Numeral

namespace MonitorSplit.Parser

variable {α β σ : Type}

/-- What a parse ends with: a value and the rest of the text, or an error. -/
abbrev Outcome (α : Type) := Except ParseError (α × List Char)

/-- The text that an outcome points to: the rest after a value, or the place of an error. -/
def remaining : Outcome α → List Char
  | .ok (_, rest) => rest
  | .error error => error.remaining

/-- Whatever text the parser is given, it points to an end of that text. -/
def Inside (parser : Parser α) : Prop := ∀ text, remaining (parser text) <:+ text

/-- What is left after a value is an end of the text. -/
theorem Inside.rest {parser : Parser α} (inside : parser.Inside) {text rest : List Char} {value : α}
    (read : parser text = .ok (value, rest)) : rest <:+ text := by
  simpa [read, remaining] using inside text

/-- The place of an error is an end of the text. -/
theorem Inside.place {parser : Parser α} (inside : parser.Inside) {text : List Char}
    {error : ParseError} (failed : parser text = .error error) : error.remaining <:+ text := by
  simpa [failed, remaining] using inside text

/-!
### Single values
-/

/-- A character that is not found is missed at the whole text. -/
theorem inside_char (expected : List Char) : (char expected).Inside := by
  intro text
  by_cases found : text.take 1 = expected
  · simpa [char, found, remaining] using List.drop_suffix 1 text
  · simp [char, found, remaining]

/-- A numeral that is missing or too large is told of at the whole text. -/
theorem inside_numeral : numeral.Inside := by
  intro text
  simp only [numeral]
  split
  · exact List.suffix_rfl
  · split
    · exact List.suffix_rfl
    · exact List.dropWhile_suffix _

theorem inside_positiveNumeral : positiveNumeral.Inside := by
  intro text
  unfold positiveNumeral
  split
  · exact List.suffix_rfl
  · exact inside_numeral text

/-- A function of the value does not change what is pointed to. -/
theorem remaining_map (function : α → β) (parser : Parser α) (text : List Char) :
    remaining (map function parser text) = remaining (parser text) := by
  cases read : parser text <;> simp [map, remaining, read]

/-- So a function of the value makes no difference to whether a parser stays inside. -/
theorem inside_map_iff {function : α → β} {parser : Parser α} :
    (map function parser).Inside ↔ parser.Inside := by
  simp only [Inside, remaining_map]

/-- Where an optional parser reads nothing, it leaves the whole text. -/
theorem Inside.optional {parser : Parser α} (inside : parser.Inside) :
    (Parser.optional parser).Inside := by
  intro text
  unfold Parser.optional
  split
  · rename_i value rest read
    exact inside.rest read
  · rename_i error failed
    split
    · exact inside.place failed
    · exact List.suffix_rfl

/-- What is left over after the value is an end of the text, and so the place of an error. -/
theorem Inside.wholeText {parser : Parser α} (inside : parser.Inside) :
    (Parser.wholeText parser).Inside := by
  intro text
  unfold Parser.wholeText
  split
  · exact List.nil_suffix
  · rename_i value rest _ read
    exact inside.rest read
  · rename_i error failed
    exact inside.place failed

/-!
### Lists

A step points into the rest of its separator, which is inside the text before it, and so does
every later step.
-/

section

variable {bounds : Bounds} {separator : Parser σ} {element : Parser α}

/-- The element of a step is read from what the separator leaves. -/
theorem Inside.step (separates : separator.Inside) (inside : element.Inside) :
    (Parser.step separator element).Inside := by
  intro text
  unfold Parser.step
  split
  · rename_i mark rest read
    exact (inside rest).trans (separates.rest read)
  · rename_i error failed
    exact separates.place failed

/-- However many steps are made, the last of them points into the text before the first. -/
theorem remaining_moreElements (inside : (Parser.step separator element).Inside) (count : Nat)
    (text : List Char) : remaining (moreElements bounds separator element count text) <:+ text := by
  fun_induction moreElements bounds separator element count text with
  | case1 | case3 | case4 | case7 => exact List.suffix_rfl
  | case2 count text _ error failed => exact inside.place failed
  | case5 count text _ value rest read shorter values stop more inductionHypothesis =>
      rw [more] at inductionHypothesis
      exact inductionHypothesis.trans (inside.rest read)
  | case6 count text _ value rest read shorter error failed inductionHypothesis =>
      rw [failed] at inductionHypothesis
      exact inductionHypothesis.trans (inside.rest read)

/-- A list points to where its first element does, or a later step. -/
theorem Inside.listBetween (separates : separator.Inside) (inside : element.Inside) :
    (Parser.listBetween bounds separator element).Inside := by
  intro text
  unfold Parser.listBetween
  split
  · exact List.suffix_rfl
  · split
    · rename_i error failed
      split
      · exact List.suffix_rfl
      · exact inside.place failed
    · rename_i head rest read
      have later : remaining (moreElements bounds separator element 1 rest) <:+ rest :=
        remaining_moreElements (separates.step inside) 1 rest
      split
      · rename_i values stop more
        rw [more] at later
        exact later.trans (inside.rest read)
      · rename_i error failed
        rw [failed] at later
        exact later.trans (inside.rest read)

theorem Inside.nonemptyList (some_due : bounds.excludesEmpty) (separates : separator.Inside)
    (inside : element.Inside) :
    (Parser.nonemptyList bounds some_due separator element).Inside := by
  have list : (map Subtype.val (Parser.nonemptyList bounds some_due separator element)).Inside := by
    rw [map_val_nonemptyList]
    exact separates.listBetween inside
  exact inside_map_iff.mp list

end

/-!
### Sizes

Every step of a list shortens the text, so a list has at most one element more than its text has
characters.
-/

/-- Nothing that the parser reads is larger than its text by more than one. -/
def Bounded (size : α → Nat) (parser : Parser α) : Prop :=
  ∀ ⦃text value rest⦄, parser text = .ok (value, rest) → size value ≤ text.length + 1

/-- A value is as large as what it is made of. -/
theorem Bounded.map {size : β → Nat} {function : α → β} {parser : Parser α}
    (bounded : parser.Bounded fun value => size (function value)) :
    (Parser.map function parser).Bounded size := by
  intro text value rest read
  unfold Parser.map at read
  split at read
  · rename_i before stop outcome
    cases read
    exact bounded outcome
  · cases read

theorem Bounded.optional {size : α → Nat} {parser : Parser α} (bounded : parser.Bounded size) :
    (Parser.optional parser).Bounded fun value => value.elim 0 size := by
  intro text value rest read
  unfold Parser.optional at read
  split at read
  · rename_i found stop outcome
    cases read
    exact bounded outcome
  · split at read
    · cases read
    · cases read
      exact Nat.zero_le _

/-- That nothing may be left over adds nothing to a value. -/
theorem Bounded.wholeText {size : α → Nat} {parser : Parser α} (bounded : parser.Bounded size) :
    (Parser.wholeText parser).Bounded size := by
  intro text value rest read
  unfold Parser.wholeText at read
  split at read
  · rename_i found outcome
    cases read
    exact bounded outcome
  · cases read
  · cases read

section

variable {bounds : Bounds} {separator : Parser σ} {element : Parser α}

/-- The elements of further steps and what they leave of the text are no more than the text. -/
theorem length_add_of_moreElements {count : Nat} {text stop : List Char} {values : List α}
    (read : moreElements bounds separator element count text = .ok (values, stop)) :
    values.length + stop.length ≤ text.length := by
  fun_induction moreElements bounds separator element count text generalizing values with
  | case1 | case4 =>
      cases read
      simp
  | case2 | case3 | case6 | case7 => cases read
  | case5 count text _ value rest _ shorter later _ more inductionHypothesis =>
      cases read
      have bound := inductionHypothesis more
      rw [List.length_cons]
      omega

/-- The first element need not shorten the text; every other one does, by its separator at least. -/
theorem bounded_listBetween (inside : element.Inside) :
    (listBetween bounds separator element).Bounded List.length := by
  intro text values rest read
  unfold listBetween at read
  split at read
  · cases read
    exact Nat.zero_le _
  · split at read
    · split at read
      · cases read
        exact Nat.zero_le _
      · cases read
    · rename_i head afterHead first
      split at read
      · rename_i values stop more
        cases read
        have bound := length_add_of_moreElements more
        have shorter := (inside.rest first).length_le
        rw [List.length_cons]
        omega
      · cases read

/-- A list that cannot be empty is no longer than any other. -/
theorem bounded_nonemptyList (some_due : bounds.excludesEmpty) (inside : element.Inside) :
    (nonemptyList bounds some_due separator element).Bounded fun values => values.val.length := by
  intro text values rest read
  have list : listBetween bounds separator element text = .ok (values.val, rest) := by
    rw [← map_val_nonemptyList bounds some_due, map, read]
  exact bounded_listBetween inside list

end

end MonitorSplit.Parser
