/-
Module: MonitorSplit.Ratio.Solve
Purpose: Ratios solved on boxes.
Main exports:
  RatioFailure, RatioFailure.raise, SolveFailure, SolveFailure.raise, Solution, Ratio.inferBase,
  Ratio.solve
-/
import MonitorSplit.Ratio.Basic
import MonitorSplit.Ratio.Box

namespace MonitorSplit

/-!
An axis without unknowns implies a scale: its length divided by its sum.  All such
axes have to imply the same one, the base scale; without such an axis it is one.  The
scale of the solution is the greatest number of pixels per unit that divides both the
base scale and every length.  Known addends are multiplied up by the quotient of the
two scales, so that their proportions stay, and every axis is solved on its own.
-/

/-- Why a ratio does not fit a box.  Axes count from zero. -/
inductive RatioFailure where
  | scaleInference (axis : Nat) (cause : NotDivisible)
  | unequalScales (scales : List Int)
  | unsolvedAxis (axis : Nat) (cause : AxisFailure)
deriving DecidableEq, Repr, Inhabited

/-- The wording of a ratio that does not fit. -/
def RatioFailure.message : RatioFailure → String
  | .scaleInference axis cause => s!"division error occurred on axis {axis}: {cause.message}"
  | .unequalScales scales =>
      "inferred scales from dimensions are unequal: \x7b" ++
        ", ".intercalate (scales.map toString) ++ "\x7d"
  | .unsolvedAxis axis cause =>
      s!"unable to evaluate dimension sum on axis {axis}: {cause.message}"

/-- The numbers that the wording holds, besides that of an axis. -/
def RatioFailure.numbers : RatioFailure → List Int
  | .scaleInference _ cause => cause.numbers
  | .unequalScales scales => scales
  | .unsolvedAxis _ cause => cause.numbers

/-- A ratio that does not fit, with its message. -/
def RatioFailure.raise (failure : RatioFailure) : Raised RatioFailure :=
  .tell failure.numbers failure

@[simp] theorem NotDivisible.map_scaleInference (cause : NotDivisible) (axis : Nat) :
    cause.raise.map (.scaleInference axis) = RatioFailure.raise (.scaleInference axis cause) :=
  Raised.map_tell _ _ _

@[simp] theorem AxisFailure.map_unsolvedAxis (cause : AxisFailure) (axis : Nat) :
    cause.raise.map (.unsolvedAxis axis) = RatioFailure.raise (.unsolvedAxis axis cause) :=
  Raised.map_tell _ _ _

/-- Why a ratio cannot be solved on a box: it does not fit, or the box is none that a
ratio of this shape splits.  That it does not fit cannot always be told. -/
inductive SolveFailure where
  | unfit (cause : RatioFailure)
  | shape (cause : ShapeError)
  | zeroScale
  | overlong
deriving DecidableEq, Repr, Inhabited

/-- The wording of a scale of zero. -/
def zeroScaleMessage : String := "integer division or modulo by zero"

/-- The wording of a failure to solve. -/
def SolveFailure.message : SolveFailure → String
  | .unfit cause => cause.message
  | .shape cause => cause.message
  | .zeroScale => zeroScaleMessage
  | .overlong => DigitFault.toWrite.message

/-- A ratio that does not fit, as far as it is told. -/
def SolveFailure.ofRaised : Raised RatioFailure → SolveFailure
  | .told cause => .unfit cause
  | .overlong => .overlong

@[simp] theorem SolveFailure.ofRaised_ne_shape (raised : Raised RatioFailure) (cause : ShapeError) :
    SolveFailure.ofRaised raised ≠ .shape cause := by
  cases raised <;> nofun

@[simp] theorem SolveFailure.ofRaised_ne_zeroScale (raised : Raised RatioFailure) :
    SolveFailure.ofRaised raised ≠ .zeroScale := by
  cases raised <;> nofun

/-- What is told of a ratio that does not fit. -/
def SolveFailure.raise (cause : RatioFailure) : SolveFailure := .ofRaised cause.raise

/-- A ratio that does not fit is told just if all numbers of the message can be written. -/
theorem SolveFailure.raise_eq_unfit_iff {cause told : RatioFailure} :
    SolveFailure.raise cause = .unfit told ↔
      (∀ number ∈ cause.numbers, Writable number) ∧ cause = told := by
  rw [← Raised.tell_eq_told_iff, SolveFailure.raise, RatioFailure.raise]
  cases Raised.tell cause.numbers cause <;> simp [SolveFailure.ofRaised]

theorem SolveFailure.raise_eq_overlong_iff {cause : RatioFailure} :
    SolveFailure.raise cause = .overlong ↔ ¬ ∀ number ∈ cause.numbers, Writable number := by
  rw [← @Raised.tell_eq_overlong_iff _ _ cause, SolveFailure.raise, RatioFailure.raise]
  cases Raised.tell cause.numbers cause <;> simp [SolveFailure.ofRaised]

/-- The solved sums, and the number of pixels that one of their units stands for. -/
structure Solution where
  solved : SolvedRatio
  scale : Int
deriving DecidableEq, Repr, Inhabited

/-- The distinct members of a list in ascending order. -/
def distinctAscending (values : List Int) : List Int :=
  values.eraseDups.mergeSort (· ≤ ·)

/-- The scales that axes without unknowns imply, in the order of the axes. -/
def impliedScales (axis : Nat) : List (AxisSum × Int) → Except (Raised RatioFailure) (List Int)
  | [] => .ok []
  | (sum, length) :: rest =>
      match sum.inferScale length with
      | .error cause => .error (cause.map (.scaleInference axis))
      | .ok none => impliedScales (axis + 1) rest
      | .ok (some scale) => (impliedScales (axis + 1) rest).map (scale :: ·)

/-- The greatest scale that divides a base scale and all lengths. -/
def commonScale (base : Int) (lengths : List Int) : Int :=
  lengths.foldl (fun scale length => (Int.gcd scale length : Int)) base

/-- Solve every axis at one scale, its known addends multiplied up by a factor. -/
def solveAxes (factor scale : Int) (axis : Nat) :
    List (AxisSum × Int) → Except (Raised RatioFailure) (List SolvedSum)
  | [] => .ok []
  | (sum, length) :: rest =>
      match (sum.times factor).solve length scale with
      | .error cause => .error (cause.map (.unsolvedAxis axis))
      | .ok solved => (solveAxes factor scale (axis + 1) rest).map (solved :: ·)

namespace Ratio

/-- The sums of a ratio, each with the length of its axis. -/
def axes (ratio : Ratio) (box : Box) : List (AxisSum × Int) := ratio.sums.zip box.lengths

/-- The scales that a ratio and a box imply, distinct and in ascending order. -/
def inferredScales (ratio : Ratio) (box : Box) : Except (Raised RatioFailure) (List Int) :=
  (impliedScales 0 (ratio.axes box)).map distinctAscending

/-- The one scale among those inferred, or one if there is none. -/
def baseScale : List Int → Except (Raised RatioFailure) Int
  | [] => .ok 1
  | [scale] => .ok scale
  | scales => .error (RatioFailure.raise (.unequalScales scales))

/-- The base scale of a ratio on a box. -/
def inferBase (ratio : Ratio) (box : Box) : Except (Raised RatioFailure) Int :=
  match ratio.inferredScales box with
  | .error cause => .error cause
  | .ok scales => baseScale scales

/-- Solve a ratio on a box. -/
def solve (ratio : Ratio) (box : Box) : Except SolveFailure Solution :=
  if box.dimensions ≠ ratio.dimensions then
    .error (.shape (.axesDiffer ratio.dimensions box.dimensions))
  else
    match ratio.inferBase box with
    | .error cause => .error (.ofRaised cause)
    | .ok base =>
        let scale := commonScale base box.lengths
        if scale = 0 then .error .zeroScale
        else
          match solveAxes (base / scale) scale 0 (ratio.axes box) with
          | .error cause => .error (.ofRaised cause)
          | .ok sums => .ok { solved := { sums }, scale }

end Ratio

end MonitorSplit
