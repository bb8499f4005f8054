/-
Module: MonitorSplit.Parser.List
Purpose: Separated lists with bounds on the number of elements.
Main exports:
  Bounds, Bounds.check, Parser.listBetween, Parser.nonemptyList
-/
import MonitorSplit.Parser.Basic

namespace MonitorSplit

/-- Bounds on the number of elements of a list; `most` is absent if there is no upper
bound. -/
structure Bounds where
  least : Int
  most : Option Int
deriving DecidableEq, Repr, Inhabited

/-- Bounds that no number satisfies. -/
structure DisorderedBounds where
  least : Int
  most : Int
deriving DecidableEq, Repr, Inhabited

/-- The wording of disordered bounds. -/
def DisorderedBounds.message (failure : DisorderedBounds) : String :=
  s!"min_count {failure.least} exceeds max_count {failure.most}"

namespace Bounds

/-- Refuses a lower bound above the upper one. -/
def check (bounds : Bounds) : Except DisorderedBounds Unit :=
  match bounds.most with
  | some most =>
      if most < bounds.least then .error { least := bounds.least, most } else .ok ()
  | none => .ok ()

/-- No further element is read after `count` of them. -/
def isFull (bounds : Bounds) (count : Nat) : Bool :=
  match bounds.most with
  | some most => most ≤ count
  | none => false

/-- Exactly so many elements. -/
def exactly (count : Int) : Bounds := { least := count, most := some count }

/-- At least one element. -/
def atLeastOne : Bounds := { least := 1, most := none }

/-- The bounds exclude the empty list. -/
def excludesEmpty (bounds : Bounds) : Prop := bounds.least ≠ 0 ∧ bounds.most ≠ some 0

/-- At least one element excludes the empty list. -/
theorem excludesEmpty_atLeastOne : atLeastOne.excludesEmpty := by
  simp [excludesEmpty, atLeastOne]

/-- So does an exact number of at least one. -/
theorem excludesEmpty_exactly {count : Int} (positive : ¬ count < 1) :
    (exactly count).excludesEmpty := by
  simp [excludesEmpty, exactly]
  omega

end Bounds

namespace Parser

variable {α σ : Type}

/-!
A list is read greedily: a first element, and then steps of one separator and one
element until the upper bound is reached or a step fails recoverably.  A failed step
consumes nothing, so a separator without an element stays in the rest.  If too few
elements were read by then, the list fails there.  A step that succeeds without
consuming anything would repeat for ever and is a final error.
-/

/-- A separator and the element after it. -/
def step (separator : Parser σ) (element : Parser α) : Parser α := fun text =>
  match separator text with
  | .ok (_, rest) => element rest
  | .error error => .error error

/-- The elements after the first `count`. -/
def moreElements (bounds : Bounds) (separator : Parser σ) (element : Parser α)
    (count : Nat) (text : List Char) : Except ParseError (List α × List Char) :=
  if bounds.isFull count then .ok ([], text)
  else
    match step separator element text with
    | .error error =>
        if error.isFinal then .error error
        else if count < bounds.least then .error { defect := .tooFew, remaining := text }
        else .ok ([], text)
    | .ok (value, rest) =>
        if rest.length < text.length then
          match moreElements bounds separator element (count + 1) rest with
          | .ok (values, stop) => .ok (value :: values, stop)
          | .error error => .error error
        else .error { defect := .noProgress, remaining := text }
termination_by text.length

/-- A list of elements with separators between them, their number within bounds. -/
def listBetween (bounds : Bounds) (separator : Parser σ) (element : Parser α) :
    Parser (List α) := fun text =>
  if bounds.most = some 0 then .ok ([], text)
  else
    match element text with
    | .error error =>
        if error.isFinal = false ∧ bounds.least = 0 then .ok ([], text) else .error error
    | .ok (head, rest) =>
        match moreElements bounds separator element 1 rest with
        | .ok (values, stop) => .ok (head :: values, stop)
        | .error error => .error error

/-- A list whose bounds exclude the empty list is not empty. -/
theorem ne_nil_of_listBetween {bounds : Bounds} (some_due : bounds.excludesEmpty)
    {separator : Parser σ} {element : Parser α} {text rest : List Char} {values : List α}
    (read : listBetween bounds separator element text = .ok (values, rest)) : values ≠ [] := by
  simp only [listBetween, some_due.1, some_due.2, if_false, and_false] at read
  split at read
  · cases read
  · split at read
    · cases read
      simp
    · cases read

/-- A list that is never empty, and known not to be. -/
def nonemptyList (bounds : Bounds) (some_due : bounds.excludesEmpty) (separator : Parser σ)
    (element : Parser α) : Parser { values : List α // values ≠ [] } := fun text =>
  match read : listBetween bounds separator element text with
  | .ok (values, rest) => .ok (⟨values, ne_nil_of_listBetween some_due read⟩, rest)
  | .error error => .error error

end Parser

end MonitorSplit
