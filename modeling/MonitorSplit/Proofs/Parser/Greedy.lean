/-
Module: MonitorSplit.Proofs.Parser.Greedy
Purpose: What a list reads, told by its chain of elements and the place where that stops.
Main exports:
  Parser.RestInside, Parser.next, Parser.Chain, Parser.Halts, Parser.listBetween_eq_iff,
  Parser.IsGreedyList, Parser.isGreedyList_listBetween
-/
import MonitorSplit.Proofs.Parser.Inside

namespace MonitorSplit.Parser

variable {α σ : Type}

/-- What the parser leaves of a text is an end of the text. -/
def RestInside (parser : Parser α) : Prop :=
  ∀ ⦃text value rest⦄, parser text = .ok (value, rest) → rest <:+ text

/-!
### Chains of elements

The first element stands alone, and every further one follows a separator.  A chain says nothing
about bounds or about what comes after it.
-/

/-- What is read next after so many elements: the first one, or a separator and a further one. -/
def next (separator : Parser σ) (element : Parser α) : Nat → Parser α
  | 0 => element
  | _ + 1 => step separator element

/-- Elements read one after the other from the text, after so many before them, and the place
where they end.  The first of all may be empty, every step to a further one consumes something. -/
inductive Chain (separator : Parser σ) (element : Parser α) :
    Nat → List Char → List α → List Char → Prop where
  | done {count : Nat} {text : List Char} : Chain separator element count text [] text
  | more {count : Nat} {text rest stop : List Char} {value : α} {values : List α}
      (read : next separator element count text = .ok (value, rest))
      (consumed : count ≠ 0 → rest.length < text.length)
      (later : Chain separator element (count + 1) rest values stop) :
      Chain separator element count text (value :: values) stop

/-- The error of a list that ends with too few elements.  Without any it is that of the first. -/
def shortfall (cause : ParseError) (stop : List Char) : Nat → ParseError
  | 0 => cause
  | _ + 1 => { defect := .tooFew, remaining := stop }

/-- What a list comes to whose elements end at a place where no more of them are read. -/
inductive Halts (bounds : Bounds) (separator : Parser σ) (element : Parser α) (values : List α)
    (stop : List Char) : Outcome (List α) → Prop where
  | full (full : bounds.most = some (values.length : Int)) :
      Halts bounds separator element values stop (.ok (values, stop))
  | enough {error : ParseError} (due : bounds.isFull values.length = false)
      (failed : next separator element values.length stop = .error error)
      (soft : error.isFinal = false) (enough : bounds.least ≤ values.length) :
      Halts bounds separator element values stop (.ok (values, stop))
  | few {cause : ParseError} (due : bounds.isFull values.length = false)
      (failed : next separator element values.length stop = .error cause)
      (soft : cause.isFinal = false) (few : values.length < bounds.least) :
      Halts bounds separator element values stop (.error (shortfall cause stop values.length))
  | failed {error : ParseError} (due : bounds.isFull values.length = false)
      (failed : next separator element values.length stop = .error error)
      (final : error.isFinal = true) :
      Halts bounds separator element values stop (.error error)
  | stuck {value : α} (due : bounds.isFull values.length = false) (some_read : values.length ≠ 0)
      (read : next separator element values.length stop = .ok (value, stop)) :
      Halts bounds separator element values stop
        (.error { defect := .noProgress, remaining := stop })

/-!
### Lists along a chain

After so many elements the list goes on from where they end, whichever loop of it that is.
-/

/-- The outcome of a list whose first elements are read already. -/
def prepend (values : List α) : Outcome (List α) → Outcome (List α)
  | .ok (later, rest) => .ok (values ++ later, rest)
  | .error error => .error error

theorem prepend_nil (outcome : Outcome (List α)) : prepend [] outcome = outcome := by
  cases outcome <;> rfl

theorem prepend_prepend (value : α) (values : List α) (outcome : Outcome (List α)) :
    prepend [value] (prepend values outcome) = prepend (value :: values) outcome := by
  cases outcome <;> rfl

/-- The list after so many elements. -/
def onward (bounds : Bounds) (separator : Parser σ) (element : Parser α) : Nat → Parser (List α)
  | 0 => listBetween bounds separator element
  | count + 1 => moreElements bounds separator element (count + 1)

section

variable {bounds : Bounds} {separator : Parser σ} {element : Parser α}

/-- A list is not full just if another element would not be too many. -/
theorem isFull_eq_false_iff {count : Nat} :
    bounds.isFull count = false ↔ ∀ most ∈ bounds.most, (count : Int) < most := by
  cases bound : bounds.most <;> simp [Bounds.isFull, bound]

/-- Within the bounds a list is full just if it has the most elements. -/
theorem isFull_eq_false_iff_ne {count : Nat} (room : ∀ most ∈ bounds.most, (count : Int) ≤ most) :
    bounds.isFull count = false ↔ bounds.most ≠ some (count : Int) := by
  cases bound : bounds.most with
  | none => simp [Bounds.isFull, bound]
  | some most =>
      have := room most bound
      simp only [Bounds.isFull, bound, decide_eq_false_iff_not, not_le, ne_eq, Option.some.injEq]
      omega

theorem most_ne_of_due {count : Nat} (due : bounds.isFull count = false) :
    bounds.most ≠ some (count : Int) := by
  intro full
  have below := isFull_eq_false_iff.mp due _ full
  exact lt_irrefl _ below

/-- A full list ends where it is. -/
theorem onward_of_full {count : Nat} (full : bounds.most = some (count : Int)) (text : List Char) :
    onward bounds separator element count text = .ok ([], text) := by
  cases count with
  | zero => simp [onward, listBetween, full]
  | succ count => simp [onward, moreElements, Bounds.isFull, full]

/-- An element that is read comes first, and the list goes on behind it. -/
theorem onward_of_read {count : Nat} {text rest : List Char} {value : α}
    (due : bounds.isFull count = false)
    (read : next separator element count text = .ok (value, rest))
    (consumed : count ≠ 0 → rest.length < text.length) :
    onward bounds separator element count text =
      prepend [value] (onward bounds separator element (count + 1) rest) := by
  cases count with
  | zero =>
      have opened : bounds.most ≠ some 0 := most_ne_of_due due
      have first : element text = .ok (value, rest) := read
      simp only [onward, listBetween, opened, first, if_false]
      cases moreElements bounds separator element 1 rest <;> rfl
  | succ count =>
      have shorter := consumed count.succ_ne_zero
      have further : step separator element text = .ok (value, rest) := read
      rw [onward, onward, moreElements]
      simp only [due, further, shorter, if_true, Bool.false_eq_true, if_false]
      cases moreElements bounds separator element (count + 2) rest <;> rfl

/-- A step that reads nothing is an error, unless it is the first one. -/
theorem onward_of_stuck {count : Nat} {text : List Char} {value : α}
    (due : bounds.isFull count = false) (some_read : count ≠ 0)
    (read : next separator element count text = .ok (value, text)) :
    onward bounds separator element count text =
      .error { defect := .noProgress, remaining := text } := by
  obtain ⟨count, rfl⟩ := Nat.exists_eq_succ_of_ne_zero some_read
  have further : step separator element text = .ok (value, text) := read
  rw [onward, moreElements]
  simp [due, further]

/-- A failure for good is the failure of the list. -/
theorem onward_of_final {count : Nat} {text : List Char} {error : ParseError}
    (due : bounds.isFull count = false)
    (failed : next separator element count text = .error error) (final : error.isFinal = true) :
    onward bounds separator element count text = .error error := by
  cases count with
  | zero =>
      have opened : bounds.most ≠ some 0 := most_ne_of_due due
      have first : element text = .error error := failed
      simp [onward, listBetween, opened, first, final]
  | succ count =>
      have further : step separator element text = .error error := failed
      rw [onward, moreElements]
      simp [due, further, final]

/-- With too few elements a soft failure is one of the list. -/
theorem onward_of_few {count : Nat} {text : List Char} {cause : ParseError}
    (due : bounds.isFull count = false)
    (failed : next separator element count text = .error cause) (soft : cause.isFinal = false)
    (few : count < bounds.least) :
    onward bounds separator element count text = .error (shortfall cause text count) := by
  cases count with
  | zero =>
      have opened : bounds.most ≠ some 0 := most_ne_of_due due
      have first : element text = .error cause := failed
      have some_due : bounds.least ≠ 0 := few.ne'
      simp [onward, listBetween, opened, first, some_due, shortfall]
  | succ count =>
      have further : step separator element text = .error cause := failed
      rw [onward, moreElements]
      simp only [due, further, soft, few, Bool.false_eq_true, if_false, if_true, shortfall]

/-- With enough elements a soft failure ends the list. -/
theorem onward_of_enough (nonneg : 0 ≤ bounds.least) {count : Nat} {text : List Char}
    {cause : ParseError} (due : bounds.isFull count = false)
    (failed : next separator element count text = .error cause) (soft : cause.isFinal = false)
    (enough : bounds.least ≤ count) :
    onward bounds separator element count text = .ok ([], text) := by
  cases count with
  | zero =>
      have opened : bounds.most ≠ some 0 := most_ne_of_due due
      have none_due : bounds.least = 0 := le_antisymm enough nonneg
      have first : element text = .error cause := failed
      simp [onward, listBetween, opened, first, soft, none_due]
  | succ count =>
      have further : step separator element text = .error cause := failed
      rw [onward, moreElements]
      simp only [due, further, soft, not_lt.mpr enough, Bool.false_eq_true, if_false]

theorem Halts.room {values : List α} {stop : List Char} {outcome : Outcome (List α)}
    (halts : Halts bounds separator element values stop outcome) :
    ∀ most ∈ bounds.most, ((0 + values.length : Nat) : Int) ≤ most := by
  rw [Nat.zero_add]
  cases halts with
  | full full =>
      intro most bound
      rw [full] at bound
      exact (Option.some.inj bound).le
  | enough due | few due | failed due | stuck due =>
      exact fun most bound => (isFull_eq_false_iff.mp due most bound).le

/-- Along a chain the list reads what the chain does, and comes to what it does after it. -/
theorem onward_of_chain {count : Nat} {text stop : List Char} {values : List α}
    (chain : Chain separator element count text values stop)
    (room : ∀ most ∈ bounds.most, ((count + values.length : Nat) : Int) ≤ most) :
    onward bounds separator element count text =
      prepend values (onward bounds separator element (count + values.length) stop) := by
  induction chain with
  | done => exact (prepend_nil _).symm
  | @more count text rest stop value values read consumed later inductionHypothesis =>
      have sizes : count + (value :: values).length = count + 1 + values.length := by
        rw [List.length_cons]
        omega
      rw [sizes] at room ⊢
      have due : bounds.isFull count = false := by
        refine isFull_eq_false_iff.mpr fun most bound => ?_
        have := room most bound
        omega
      rw [onward_of_read due read consumed, inductionHypothesis room, prepend_prepend]

/-- Where a chain halts, the list comes to the outcome stated for it. -/
theorem onward_of_halts (nonneg : 0 ≤ bounds.least) {values : List α} {stop : List Char}
    {outcome : Outcome (List α)} (halts : Halts bounds separator element values stop outcome) :
    prepend values (onward bounds separator element values.length stop) = outcome := by
  cases halts with
  | full full => simp [onward_of_full full, prepend]
  | enough due failed soft enough =>
      simp [onward_of_enough nonneg due failed soft enough, prepend]
  | few due failed soft few => rw [onward_of_few due failed soft few, prepend]
  | failed due failed final => rw [onward_of_final due failed final, prepend]
  | stuck due some_read read => rw [onward_of_stuck due some_read read, prepend]

/-!
### Greed

A chain that does not halt can be made longer.  Every element after the first shortens what is
left of the text, so at last it halts.
-/

/-- A chain grows at its end by a step that consumes something. -/
theorem Chain.concat {count : Nat} {text stop rest : List Char} {values : List α} {value : α}
    (chain : Chain separator element count text values stop)
    (read : next separator element (count + values.length) stop = .ok (value, rest))
    (consumed : count + values.length ≠ 0 → rest.length < stop.length) :
    Chain separator element count text (values ++ [value]) rest := by
  induction chain with
  | done => exact .more read consumed .done
  | @more count text before stop head values first shorter later inductionHypothesis =>
      have sizes : count + (head :: values).length = count + 1 + values.length := by
        rw [List.length_cons]
        omega
      rw [sizes] at read consumed
      exact .more first shorter (inductionHypothesis read consumed)

theorem RestInside.next (separates : separator.RestInside) (inside : element.RestInside)
    (count : Nat) : (Parser.next separator element count).RestInside := by
  cases count with
  | zero => exact inside
  | succ count =>
      intro text value rest read
      cases mark : separator text with
      | error error =>
          simp only [Parser.next, step, mark] at read
          cases read
      | ok pair =>
          simp only [Parser.next, step, mark] at read
          exact (inside read).trans (separates mark)

variable (separates : separator.RestInside) (inside : element.RestInside)

include separates inside

/-- Within the bounds, some continuation of a chain halts. -/
theorem exists_halts {text stop : List Char} {values : List α}
    (chain : Chain separator element 0 text values stop)
    (room : ∀ most ∈ bounds.most, (values.length : Int) ≤ most) :
    ∃ values stop outcome, Chain separator element 0 text values stop ∧
      Halts bounds separator element values stop outcome := by
  by_cases full : bounds.most = some (values.length : Int)
  · exact ⟨values, stop, _, chain, .full full⟩
  have due := (isFull_eq_false_iff_ne room).mpr full
  cases read : Parser.next separator element values.length stop with
  | error error =>
      cases final : error.isFinal with
      | true => exact ⟨values, stop, _, chain, .failed due read final⟩
      | false =>
          rcases lt_or_ge (values.length : Int) bounds.least with few | enough
          · exact ⟨values, stop, _, chain, .few due read final few⟩
          · exact ⟨values, stop, _, chain, .enough due read final enough⟩
  | ok pair =>
      obtain ⟨value, rest⟩ := pair
      have suffix : rest <:+ stop := separates.next inside _ read
      by_cases consumed : values.length ≠ 0 → rest.length < stop.length
      · rw [← Nat.zero_add values.length] at read consumed
        refine exists_halts (chain.concat read consumed) fun most bound => ?_
        have below := isFull_eq_false_iff.mp due most bound
        rw [List.length_append, List.length_singleton]
        omega
      · obtain ⟨some_read, longer⟩ := Classical.not_imp.mp consumed
        have same : rest = stop := suffix.eq_of_length_le (not_lt.mp longer)
        rw [same] at read
        exact ⟨values, stop, _, chain, .stuck due some_read read⟩
termination_by stop.length + (1 - values.length)
decreasing_by
  have := suffix.length_le
  rw [List.length_append, List.length_singleton]
  omega

/-- A list comes to just what its chain of elements comes to where it halts. -/
theorem listBetween_eq_iff (nonneg : 0 ≤ bounds.least) (ordered : bounds.Ordered)
    {text : List Char} {outcome : Outcome (List α)} :
    listBetween bounds separator element text = outcome ↔
      ∃ values stop, Chain separator element 0 text values stop ∧
        Halts bounds separator element values stop outcome := by
  have along {values : List α} {stop : List Char} {outcome : Outcome (List α)}
      (chain : Chain separator element 0 text values stop)
      (halts : Halts bounds separator element values stop outcome) :
      listBetween bounds separator element text = outcome := by
    have read := onward_of_chain chain halts.room
    rw [Nat.zero_add, onward_of_halts nonneg halts] at read
    exact read
  constructor
  · rintro rfl
    obtain ⟨values, stop, outcome, chain, halts⟩ :=
      exists_halts separates inside .done fun most bound => nonneg.trans (ordered most bound)
    exact ⟨values, stop, chain, by rwa [along chain halts]⟩
  · rintro ⟨values, stop, chain, halts⟩
    exact along chain halts

end

/-!
### Greedy lists
-/

/-- The parser reads the greedy list of separated elements within the bounds. -/
structure IsGreedyList (bounds : Bounds) (separator : Parser σ) (element : Parser α)
    (parser : Parser (List α)) : Prop where
  /-- It reads a chain whose length is within the bounds, and which has the most elements or no
  element after it.  A separator without an element stays in the rest. -/
  ok_iff : ∀ text values rest, parser text = .ok (values, rest) ↔
    Chain separator element 0 text values rest ∧ bounds.least ≤ values.length ∧
      (∀ most ∈ bounds.most, (values.length : Int) ≤ most) ∧
      (bounds.most = some (values.length : Int) ∨
        ∃ cause, next separator element values.length rest = .error cause ∧ cause.isFinal = false)
  /-- It fails recoverably where a chain of too few elements does. -/
  soft_iff : ∀ text error, parser text = .error error ∧ error.isFinal = false ↔
    ∃ values stop cause, Chain separator element 0 text values stop ∧
      values.length < bounds.least ∧
      next separator element values.length stop = .error cause ∧ cause.isFinal = false ∧
      error = shortfall cause stop values.length
  /-- It fails for good with what it meets on the way, and where a step gets no further. -/
  final_iff : ∀ text error, parser text = .error error ∧ error.isFinal = true ↔
    ∃ values stop, Chain separator element 0 text values stop ∧
      (∀ most ∈ bounds.most, (values.length : Int) < most) ∧
      (next separator element values.length stop = .error error ∧ error.isFinal = true ∨
        values.length ≠ 0 ∧ (∃ value, next separator element values.length stop = .ok (value, stop)) ∧
          error = { defect := .noProgress, remaining := stop })

section

variable {bounds : Bounds} {separator : Parser σ} {element : Parser α}

/-- A list that falls short fails softly. -/
theorem isFinal_shortfall {cause : ParseError} (soft : cause.isFinal = false) (stop : List Char)
    (count : Nat) : (shortfall cause stop count).isFinal = false := by
  cases count with
  | zero => exact soft
  | succ count => rfl

/-- A list is read greedily, whatever its separators and elements are, if they leave ends of their
texts. -/
theorem isGreedyList_listBetween (separates : separator.RestInside) (inside : element.RestInside)
    (nonneg : 0 ≤ bounds.least) (ordered : bounds.Ordered) :
    IsGreedyList bounds separator element (listBetween bounds separator element) where
  ok_iff text values rest := by
    rw [listBetween_eq_iff separates inside nonneg ordered]
    constructor
    · rintro ⟨values, stop, chain, halts⟩
      cases halts with
      | full full =>
          have reached := ordered _ full
          refine ⟨chain, reached, fun most bound => ?_, .inl full⟩
          rw [full] at bound
          exact (Option.some.inj bound).le
      | enough due failed soft enough =>
          exact ⟨chain, enough, fun most bound => (isFull_eq_false_iff.mp due most bound).le,
            .inr ⟨_, failed, soft⟩⟩
    · rintro ⟨chain, enough, room, full | ⟨cause, failed, soft⟩⟩
      · exact ⟨values, rest, chain, .full full⟩
      · by_cases full : bounds.most = some (values.length : Int)
        · exact ⟨values, rest, chain, .full full⟩
        · have due := (isFull_eq_false_iff_ne room).mpr full
          exact ⟨values, rest, chain, .enough due failed soft enough⟩
  soft_iff text error := by
    rw [listBetween_eq_iff separates inside nonneg ordered]
    constructor
    · rintro ⟨⟨values, stop, chain, halts⟩, recoverable⟩
      cases halts with
      | few due failed soft few => exact ⟨values, stop, _, chain, few, failed, soft, rfl⟩
      | failed due failed final => simp [final] at recoverable
      | stuck => cases recoverable
    · rintro ⟨values, stop, cause, chain, few, failed, soft, rfl⟩
      have due : bounds.isFull values.length = false :=
        isFull_eq_false_iff.mpr fun most bound => few.trans_le (ordered most bound)
      exact ⟨⟨values, stop, chain, .few due failed soft few⟩, isFinal_shortfall soft _ _⟩
  final_iff text error := by
    rw [listBetween_eq_iff separates inside nonneg ordered]
    constructor
    · rintro ⟨⟨values, stop, chain, halts⟩, final⟩
      cases halts with
      | few due failed soft few => simp [isFinal_shortfall soft] at final
      | failed due failed =>
          exact ⟨values, stop, chain, isFull_eq_false_iff.mp due, .inl ⟨failed, final⟩⟩
      | stuck due some_read read =>
          exact ⟨values, stop, chain, isFull_eq_false_iff.mp due, .inr ⟨some_read, ⟨_, read⟩, rfl⟩⟩
    · rintro ⟨values, stop, chain, below, ⟨failed, final⟩ | ⟨some_read, ⟨value, read⟩, rfl⟩⟩
      · exact ⟨⟨values, stop, chain, .failed (isFull_eq_false_iff.mpr below) failed final⟩, final⟩
      · exact ⟨⟨values, stop, chain, .stuck (isFull_eq_false_iff.mpr below) some_read read⟩, rfl⟩

theorem Inside.restInside {parser : Parser α} (inside : parser.Inside) : parser.RestInside :=
  fun _ _ _ read => inside.rest read

/-- Between one and three numbers, with plus signs between them.  Here no number follows the last
sign, which is left over. -/
theorem numbers_isGreedyList :
    (char ['+']).RestInside ∧ numeral.RestInside ∧ (0 : Int) ≤ 1 ∧
      Bounds.Ordered { least := 1, most := some 3 } ∧
      listBetween { least := 1, most := some 3 } (char ['+']) numeral ['1', '+', '2', '+'] =
        .ok ([1, 2], ['+']) ∧
      IsGreedyList { least := 1, most := some 3 } (char ['+']) numeral
        (listBetween { least := 1, most := some 3 } (char ['+']) numeral) := by
  have separates := (inside_char ['+']).restInside
  have inside := inside_numeral.restInside
  have ordered : Bounds.Ordered { least := 1, most := some 3 } := by decide
  exact ⟨separates, inside, by decide, ordered, by cbv,
    isGreedyList_listBetween separates inside (by decide) ordered⟩

end

end MonitorSplit.Parser
