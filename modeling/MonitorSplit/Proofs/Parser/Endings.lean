/-
Module: MonitorSplit.Proofs.Parser.Endings
Purpose: How a parse can end, told by relations that do not say whether it ends.
Main exports:
  Parser.Endings, Parser.Endings.Loop, Parser.Endings.Between, Parser.Endings.Reads,
  Parser.Endings.Reads.listBetween
-/
import MonitorSplit.Proofs.Parser.Inside

namespace MonitorSplit.Parser

/-- Which outcomes a parse of a text can end with.  A parse that goes on for ever has none. -/
abbrev Endings (α : Type) := List Char → Outcome α → Prop

namespace Endings

variable {α β σ : Type}

/-!
### Parses as they are run

The loop of a list reads one step after the other, and compares only whether a step has left as
much text as there was before it.  That the text gets shorter is no part of the loop: between
steps that change its length, longer and shorter by turns, it would have no end.
-/

/-- A parse that looks at its text once. -/
def of (parser : Parser α) : Endings α := fun text outcome => outcome = parser text

/-- A parse that hands its text to another one, and makes its outcome from that one's. -/
def through (combinator : Parser α → Parser β) (inner : Endings α) : Endings β :=
  fun text outcome => ∃ result, inner text result ∧ outcome = combinator (fun _ => result) text

/-- A separator, and an element after it. -/
inductive Step (separator : Endings σ) (element : Endings α) (text : List Char) :
    Outcome α → Prop where
  | separated {mark : σ} {rest : List Char} {outcome : Outcome α}
      (separates : separator text (.ok (mark, rest))) (follows : element rest outcome) :
      Step separator element text outcome
  | unseparated {error : ParseError} (failed : separator text (.error error)) :
      Step separator element text (.error error)

/-- The steps after the first `count` elements. -/
inductive Loop (bounds : Bounds) (step : Endings α) :
    Nat → List Char → Outcome (List α) → Prop where
  | full {count : Nat} {text : List Char} (full : bounds.isFull count = true) :
      Loop bounds step count text (.ok ([], text))
  | failed {count : Nat} {text : List Char} {error : ParseError}
      (due : ¬ bounds.isFull count = true) (failed : step text (.error error))
      (final : error.isFinal = true) : Loop bounds step count text (.error error)
  | few {count : Nat} {text : List Char} {error : ParseError}
      (due : ¬ bounds.isFull count = true) (failed : step text (.error error))
      (soft : ¬ error.isFinal = true) (few : (count : Int) < bounds.least) :
      Loop bounds step count text (.error { defect := .tooFew, remaining := text })
  | enough {count : Nat} {text : List Char} {error : ParseError}
      (due : ¬ bounds.isFull count = true) (failed : step text (.error error))
      (soft : ¬ error.isFinal = true) (enough : ¬ (count : Int) < bounds.least) :
      Loop bounds step count text (.ok ([], text))
  | stuck {count : Nat} {text rest : List Char} {value : α}
      (due : ¬ bounds.isFull count = true) (read : step text (.ok (value, rest)))
      (same : rest.length = text.length) :
      Loop bounds step count text (.error { defect := .noProgress, remaining := text })
  | further {count : Nat} {text rest stop : List Char} {value : α} {values : List α}
      (due : ¬ bounds.isFull count = true) (read : step text (.ok (value, rest)))
      (differ : rest.length ≠ text.length)
      (later : Loop bounds step (count + 1) rest (.ok (values, stop))) :
      Loop bounds step count text (.ok (value :: values, stop))
  | broken {count : Nat} {text rest : List Char} {value : α} {error : ParseError}
      (due : ¬ bounds.isFull count = true) (read : step text (.ok (value, rest)))
      (differ : rest.length ≠ text.length)
      (later : Loop bounds step (count + 1) rest (.error error)) :
      Loop bounds step count text (.error error)

/-- A list with separators between its elements: the first element, and the loop after it. -/
inductive Between (bounds : Bounds) (separator : Endings σ) (element : Endings α)
    (text : List Char) : Outcome (List α) → Prop where
  | closed (closed : bounds.most = some 0) : Between bounds separator element text (.ok ([], text))
  | absent {error : ParseError} (opened : bounds.most ≠ some 0)
      (failed : element text (.error error)) (soft : error.isFinal = false)
      (none_due : bounds.least = 0) : Between bounds separator element text (.ok ([], text))
  | failed {error : ParseError} (opened : bounds.most ≠ some 0)
      (failed : element text (.error error))
      (hard : ¬ (error.isFinal = false ∧ bounds.least = 0)) :
      Between bounds separator element text (.error error)
  | read {head : α} {rest stop : List Char} {values : List α} (opened : bounds.most ≠ some 0)
      (first : element text (.ok (head, rest)))
      (later : Loop bounds (Step separator element) 1 rest (.ok (values, stop))) :
      Between bounds separator element text (.ok (head :: values, stop))
  | broken {head : α} {rest : List Char} {error : ParseError} (opened : bounds.most ≠ some 0)
      (first : element text (.ok (head, rest)))
      (later : Loop bounds (Step separator element) 1 rest (.error error)) :
      Between bounds separator element text (.error error)

/-- With steps that leave more text than there was before them, the loop of an unbounded list has
no end. -/
theorem not_loop_of_longer {bounds : Bounds} (unbounded : bounds.most = none) {step : Endings α}
    (longer : ∀ text outcome, step text outcome →
      ∃ value rest, outcome = .ok (value, rest) ∧ text.length < rest.length)
    (count : Nat) (text : List Char) (outcome : Outcome (List α)) :
    ¬ Loop bounds step count text outcome := by
  intro ended
  induction ended with
  | full full => simp [Bounds.isFull, unbounded] at full
  | failed _ failed | few _ failed | enough _ failed =>
      obtain ⟨value, rest, read, -⟩ := longer _ _ failed
      cases read
  | stuck _ read same =>
      obtain ⟨value, rest, again, grown⟩ := longer _ _ read
      cases again
      omega
  | further _ _ _ _ inductionHypothesis | broken _ _ _ _ inductionHypothesis =>
      exact inductionHypothesis

/-- A parse of a list that is known not to be empty. -/
def nonempty (list : Endings (List α)) : Endings { values : List α // values ≠ [] } :=
  fun text outcome => list text (map Subtype.val (fun _ => outcome) text)

/-!
### Parses that end

A parse ends with what a parser returns, and with nothing else, if all parses that it runs do
and point into their texts.  Then a step that changes the length of the text shortens it.
-/

/-- A function that tells values apart tells outcomes apart. -/
theorem map_eq_map_iff {function : α → β} (injective : Function.Injective function)
    {parser : Parser α} {text : List Char} {outcome : Outcome α} :
    map function (fun _ => outcome) text = map function parser text ↔ outcome = parser text := by
  constructor
  · intro same
    cases read : parser text <;> cases outcome <;> simp_all [map, injective.eq_iff, Prod.ext_iff]
  · rintro rfl
    rfl

/-- On every text the parse ends, with just the outcome of the parser, and that points to an end
of the text. -/
structure Reads (endings : Endings α) (parser : Parser α) : Prop where
  iff : ∀ text outcome, endings text outcome ↔ outcome = parser text
  inside : parser.Inside

theorem Reads.eq {endings : Endings α} {parser : Parser α} (reads : endings.Reads parser)
    {text : List Char} {outcome : Outcome α} (ends : endings text outcome) :
    parser text = outcome :=
  ((reads.iff text outcome).mp ends).symm

theorem Reads.ends {endings : Endings α} {parser : Parser α} (reads : endings.Reads parser)
    {text : List Char} {outcome : Outcome α} (read : parser text = outcome) :
    endings text outcome :=
  (reads.iff text outcome).mpr read.symm

theorem reads_of {parser : Parser α} (inside : parser.Inside) : (of parser).Reads parser where
  iff _ _ := Iff.rfl
  inside := inside

/-- A combinator that asks its parser about no other text keeps what the parser reads. -/
theorem Reads.through {inner : Endings α} {parser : Parser α} (reads : inner.Reads parser)
    {combinator : Parser α → Parser β}
    (asks_once : ∀ text, combinator (fun _ => parser text) text = combinator parser text)
    (inside : (combinator parser).Inside) :
    (inner.through combinator).Reads (combinator parser) where
  iff text outcome := by
    rw [← asks_once text]
    constructor
    · rintro ⟨result, ends, rfl⟩
      rw [reads.eq ends]
    · rintro rfl
      exact ⟨parser text, reads.ends rfl, rfl⟩
  inside := inside

theorem Reads.optional {inner : Endings α} {parser : Parser α} (reads : inner.Reads parser) :
    (inner.through Parser.optional).Reads (Parser.optional parser) :=
  reads.through (fun _ => rfl) reads.inside.optional

theorem Reads.wholeText {inner : Endings α} {parser : Parser α} (reads : inner.Reads parser) :
    (inner.through Parser.wholeText).Reads (Parser.wholeText parser) :=
  reads.through (fun _ => rfl) reads.inside.wholeText

theorem Reads.map {inner : Endings α} {parser : Parser α} (reads : inner.Reads parser)
    (function : α → β) :
    (inner.through (Parser.map function)).Reads (Parser.map function parser) :=
  reads.through (fun _ => rfl) (inside_map_iff.mpr reads.inside)

section

variable {bounds : Bounds} {separates : Endings σ} {ends : Endings α} {separator : Parser σ}
  {element : Parser α}

theorem Reads.step (marks : separates.Reads separator) (reads : ends.Reads element) :
    Reads (Step separates ends) (Parser.step separator element) where
  iff text outcome := by
    constructor
    · intro ended
      cases ended with
      | separated mark_read follows =>
          rw [Parser.step, marks.eq mark_read]
          exact (reads.eq follows).symm
      | unseparated failed => rw [Parser.step, marks.eq failed]
    · rintro rfl
      cases read : separator text with
      | error error =>
          rw [Parser.step, read]
          exact .unseparated (marks.ends read)
      | ok pair =>
          obtain ⟨mark, rest⟩ := pair
          rw [Parser.step, read]
          exact .separated (marks.ends read) (reads.ends rfl)
  inside := marks.inside.step reads.inside

/-- The loop ends like the elements that a parser reads, which it finds by looking for a step
that shortens the text. -/
theorem Reads.loop {step : Endings α} (reads : step.Reads (Parser.step separator element))
    {count : Nat} {text : List Char} {outcome : Outcome (List α)} :
    Loop bounds step count text outcome ↔
      outcome = moreElements bounds separator element count text := by
  constructor
  · intro ended
    induction ended with
    | full full => simp [moreElements, full]
    | failed due failed final => simp [moreElements, due, reads.eq failed, final]
    | few due failed soft few => simp [moreElements, due, reads.eq failed, soft, few]
    | enough due failed soft enough => simp [moreElements, due, reads.eq failed, soft, enough]
    | stuck due read same => simp [moreElements, due, reads.eq read, same]
    | further due read differ _ inductionHypothesis =>
        have shorter := lt_of_le_of_ne (reads.inside.rest (reads.eq read)).length_le differ
        rw [moreElements]
        simp [due, reads.eq read, shorter, ← inductionHypothesis]
    | broken due read differ _ inductionHypothesis =>
        have shorter := lt_of_le_of_ne (reads.inside.rest (reads.eq read)).length_le differ
        rw [moreElements]
        simp [due, reads.eq read, shorter, ← inductionHypothesis]
  · rintro rfl
    fun_induction moreElements bounds separator element count text with
    | case1 count text full => exact .full full
    | case2 count text notFull error failed final =>
        exact .failed notFull (reads.ends failed) final
    | case3 count text notFull error failed soft few =>
        exact .few notFull (reads.ends failed) soft few
    | case4 count text notFull error failed soft enough =>
        exact .enough notFull (reads.ends failed) soft enough
    | case5 count text notFull value rest read shorter values stop more inductionHypothesis =>
        rw [more] at inductionHypothesis
        exact .further notFull (reads.ends read) shorter.ne inductionHypothesis
    | case6 count text notFull value rest read shorter error failed inductionHypothesis =>
        rw [failed] at inductionHypothesis
        exact .broken notFull (reads.ends read) shorter.ne inductionHypothesis
    | case7 count text notFull value rest read noShorter =>
        have same := (reads.inside.rest read).length_le.eq_of_not_lt noShorter
        exact .stuck notFull (reads.ends read) same

theorem Reads.listBetween (marks : separates.Reads separator) (reads : ends.Reads element) :
    Reads (Between bounds separates ends) (Parser.listBetween bounds separator element) where
  iff text outcome := by
    have loop {rest : List Char} {outcome : Outcome (List α)} :
        Loop bounds (Step separates ends) 1 rest outcome ↔
          outcome = moreElements bounds separator element 1 rest :=
      (marks.step reads).loop
    constructor
    · intro ended
      cases ended with
      | closed closed => simp [Parser.listBetween, closed]
      | absent opened failed soft none_due =>
          simp [Parser.listBetween, opened, reads.eq failed, soft, none_due]
      | failed opened failed hard => simp [Parser.listBetween, opened, reads.eq failed, hard]
      | read opened first later =>
          simp [Parser.listBetween, opened, reads.eq first, ← loop.mp later]
      | broken opened first later =>
          simp [Parser.listBetween, opened, reads.eq first, ← loop.mp later]
    · rintro rfl
      by_cases closed : bounds.most = some 0
      · simpa [Parser.listBetween, closed] using Between.closed closed
      cases first : element text with
      | error error =>
          by_cases soft : error.isFinal = false ∧ bounds.least = 0
          · simpa [Parser.listBetween, closed, first, soft] using
              Between.absent closed (reads.ends first) soft.1 soft.2
          · simpa [Parser.listBetween, closed, first, soft] using
              Between.failed closed (reads.ends first) soft
      | ok pair =>
          obtain ⟨head, rest⟩ := pair
          cases more : moreElements bounds separator element 1 rest with
          | error error =>
              simpa [Parser.listBetween, closed, first, more] using
                Between.broken closed (reads.ends first) (loop.mpr more.symm)
          | ok found =>
              obtain ⟨values, stop⟩ := found
              simpa [Parser.listBetween, closed, first, more] using
                Between.read closed (reads.ends first) (loop.mpr more.symm)
  inside := marks.inside.listBetween reads.inside

theorem Reads.nonemptyList (some_due : bounds.excludesEmpty) (marks : separates.Reads separator)
    (reads : ends.Reads element) :
    (nonempty (Between bounds separates ends)).Reads
      (Parser.nonemptyList bounds some_due separator element) where
  iff text outcome := by
    rw [nonempty, (marks.listBetween reads).iff, ← map_val_nonemptyList bounds some_due]
    exact map_eq_map_iff Subtype.val_injective
  inside := marks.inside.nonemptyList some_due reads.inside

end

end Endings

end MonitorSplit.Parser
