/-
Module: MonitorSplit.Proofs.Parser.List
Purpose: Ordered bounds, lists of changed values, and lists whose elements never fail recoverably.
Main exports:
  Bounds.Ordered, Parser.map_listBetween, Parser.map_val_nonemptyList, Parser.Eager, Parser.moreElements_of_eager
-/
import Mathlib
import MonitorSplit.Parser.List

namespace MonitorSplit

/-!
### Bounds
-/

/-- The upper bound, if there is one, is not below the lower one. -/
def Bounds.Ordered (bounds : Bounds) : Prop := ∀ most ∈ bounds.most, bounds.least ≤ most

instance (bounds : Bounds) : Decidable bounds.Ordered :=
  inferInstanceAs (Decidable (∀ most ∈ bounds.most, bounds.least ≤ most))

theorem Bounds.check_eq_ok_iff {bounds : Bounds} : bounds.check = .ok () ↔ bounds.Ordered := by
  obtain ⟨least, most⟩ := bounds
  cases most <;> simp [check, Ordered]

namespace Parser

variable {α β γ σ : Type}

/-!
### Single characters
-/

theorem char_singleton_nil (expected : Char) :
    char [expected] [] = .error { defect := .otherCharacter, remaining := [] } := rfl

/-- A separator of one character is that character at the start of the text. -/
theorem char_singleton_cons (expected c : Char) (rest : List Char) :
    char [expected] (c :: rest) =
      if c = expected then .ok ([expected], rest)
      else .error { defect := .otherCharacter, remaining := c :: rest } := by
  simp [char]

/-!
### Values changed by a function

A parser may be followed by a function without any effect on what it reads.  So a list of
changed values is the changed list, and a parser that knows more about its value than
another reads what that one reads.
-/

theorem map_map (first : α → β) (second : β → γ) (parser : Parser α) :
    map second (map first parser) = map (second ∘ first) parser := by
  funext text
  cases read : parser text <;> simp [map, read]

theorem step_map (function : α → β) (separator : Parser σ) (element : Parser α)
    (text : List Char) :
    step separator (map function element) text = map function (step separator element) text := by
  cases read : separator text <;> simp [step, map, read]

theorem moreElements_map (function : α → β) (bounds : Bounds) (separator : Parser σ)
    (element : Parser α) (count : Nat) (text : List Char) :
    moreElements bounds separator (map function element) count text =
      map (List.map function) (moreElements bounds separator element count) text := by
  fun_induction moreElements bounds separator element count text with
  | case1 count text full => simp [moreElements, map, full]
  | case2 count text notFull error failed final =>
      simp [moreElements, map, notFull, step_map, failed, final]
  | case3 count text notFull error failed soft few =>
      simp [moreElements, map, notFull, step_map, failed, soft, few]
  | case4 count text notFull error failed soft enough =>
      simp [moreElements, map, notFull, step_map, failed, soft, enough]
  | case5 count text notFull value rest read shorter values stop more inductionHypothesis =>
      rw [map, more] at inductionHypothesis
      rw [map, moreElements, moreElements]
      simp [map, notFull, step_map, read, shorter, more, inductionHypothesis]
  | case6 count text notFull value rest read shorter error failed inductionHypothesis =>
      rw [map, failed] at inductionHypothesis
      rw [map, moreElements, moreElements]
      simp [map, notFull, step_map, read, shorter, failed, inductionHypothesis]
  | case7 count text notFull value rest read noShorter =>
      simp [moreElements, map, notFull, step_map, read, noShorter]

/-- A list of changed values is the changed list. -/
theorem map_listBetween (function : α → β) (bounds : Bounds) (separator : Parser σ)
    (element : Parser α) :
    map (List.map function) (listBetween bounds separator element) =
      listBetween bounds separator (map function element) := by
  funext text
  simp only [map, listBetween]
  by_cases empty : bounds.most = some 0
  · simp [empty]
  · cases read : element text with
    | error error =>
        by_cases soft : error.isFinal = false ∧ bounds.least = 0 <;> simp [empty, soft]
    | ok pair =>
        obtain ⟨head, rest⟩ := pair
        have others := moreElements_map function bounds separator element 1 rest
        cases more : moreElements bounds separator element 1 rest <;>
          simp_all [map]

/-- A list that is known not to be empty is the same list. -/
theorem map_val_nonemptyList (bounds : Bounds) (some_due : bounds.excludesEmpty)
    (separator : Parser σ) (element : Parser α) :
    map Subtype.val (nonemptyList bounds some_due separator element) =
      listBetween bounds separator element := by
  funext text
  unfold map nonemptyList
  split
  · rename_i value rest outcome
    split at outcome
    · rename_i values stop read
      cases outcome
      exact read.symm
    · cases outcome
  · rename_i error outcome
    split at outcome
    · cases outcome
    · rename_i failure failed
      cases outcome
      exact failed.symm

theorem parseAll_map (function : α → β) (parser : Parser α) (text : List Char) :
    parseAll (map function parser) text = (parseAll parser text).map function := by
  unfold parseAll wholeText map
  cases parser text with
  | error error => rfl
  | ok pair =>
      obtain ⟨value, rest⟩ := pair
      cases rest <;> rfl

/-!
### Elements that fail for good

An element that can be empty matches everywhere, so it never fails recoverably.  Between
such elements only the separator decides whether a list goes on.
-/

/-- Every failure of the parser is final, and its rest is never longer than its text. -/
structure Eager (element : Parser α) : Prop where
  final : ∀ {text error}, element text = .error error → error.isFinal = true
  length_le : ∀ {text value rest}, element text = .ok (value, rest) → rest.length ≤ text.length

/-- An element, which is the one of a number, and all elements after it. -/
def elementsFrom (bounds : Bounds) (separator : Parser σ) (element : Parser α) (count : Nat) :
    Parser (List α) := fun text =>
  match element text with
  | .error error => .error error
  | .ok (head, rest) =>
      match moreElements bounds separator element count rest with
      | .ok (values, stop) => .ok (head :: values, stop)
      | .error error => .error error

/-- Where a list ends without a separator: below the lower bound it fails. -/
def endOfList (bounds : Bounds) (count : Nat) : Parser (List α) := fun text =>
  if count < bounds.least then .error { defect := .tooFew, remaining := text } else .ok ([], text)

variable {bounds : Bounds} {element : Parser α}

theorem listBetween_eq_elementsFrom (some_due : bounds.excludesEmpty) (separator : Parser σ)
    (text : List Char) :
    listBetween bounds separator element text = elementsFrom bounds separator element 1 text := by
  cases read : element text with
  | error error => simp [listBetween, elementsFrom, some_due.1, some_due.2, read]
  | ok pair =>
      obtain ⟨head, rest⟩ := pair
      cases more : moreElements bounds separator element 1 rest <;>
        simp [listBetween, elementsFrom, some_due.2, read, more]

/-- After an element, either the separator and all further elements follow, or the list ends. -/
theorem moreElements_of_eager (eager : Eager element) {separator : Char} {count : Nat}
    (due : bounds.isFull count = false) (text : List Char) :
    moreElements bounds (char [separator]) element count text =
      match text with
      | [] => endOfList bounds count []
      | c :: later =>
          if c = separator then elementsFrom bounds (char [separator]) element (count + 1) later
          else endOfList bounds count (c :: later) := by
  have recovers : ∀ text, ({ defect := .otherCharacter, remaining := text } : ParseError).isFinal =
      false := fun _ => rfl
  rw [moreElements, due, if_neg Bool.false_ne_true]
  cases text with
  | nil => simp only [step, char_singleton_nil, recovers, endOfList, Bool.false_eq_true, if_false]
  | cons c later =>
      by_cases separates : c = separator
      · subst separates
        rw [step, char_singleton_cons, if_pos rfl]
        cases read : element later with
        | error error => simp [elementsFrom, read, eager.final read]
        | ok pair =>
            obtain ⟨value, rest⟩ := pair
            have shorter : rest.length ≤ later.length := eager.length_le read
            cases more : moreElements bounds (char [c]) element (count + 1) rest <;>
              simp [elementsFrom, read, Nat.lt_succ_of_le shorter, more]
      · simp only [step, char_singleton_cons, separates, if_false, recovers, endOfList,
          Bool.false_eq_true]

end Parser

end MonitorSplit
