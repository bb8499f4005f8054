/-
Module: MonitorSplit.Ratio.Narration
Purpose: The steps of solving a ratio, told for a reader.
Main exports:
  SolveNote, SolveNote.message, Ratio.narrate
-/
import MonitorSplit.Ratio.Solve

namespace MonitorSplit

/-!
The narration of a solution lists the steps that were completed, in order, up to the
first one that failed.  It is computed beside the solution and decides nothing.
-/

/-- A completed step of solving a ratio on a box. -/
inductive SolveNote where
  | inferredScales (ratio : Ratio) (box : Box) (scales : List Int)
  | chosenScale (base scale factor : Int)
  | solvedAxis (sum : AxisSum) (length scale share : Int)
deriving DecidableEq, Repr, Inhabited

/-- The wording of a step. -/
def SolveNote.message : SolveNote → String
  | .inferredScales ratio box scales =>
      s!"inferred scales for {ratio} on {box}: [" ++ ", ".intercalate (scales.map toString) ++ "]"
  | .chosenScale base scale factor =>
      s!"base scale {base}, scale {scale}, scale factor {factor}"
  | .solvedAxis sum length scale share =>
      s!"solved {sum} at length {length}, scale {scale}: unknown = {share}"

/-- The value that solving gives to the unknowns of a sum, if there are any. -/
def AxisSum.share? (sum : AxisSum) (length scale : Int) : Option Int :=
  match sum.solve length scale with
  | .ok solved =>
      (sum.addends.zip solved.addends).findSome? fun (given, value) =>
        if given.isNone then some value else none
  | .error _ => none

/-- The axes that are solved before the first failure; one without unknowns is passed
over in silence. -/
def narrateAxes (factor scale : Int) : List (AxisSum × Int) → List SolveNote
  | [] => []
  | (sum, length) :: rest =>
      let scaledSum := sum.times factor
      match scaledSum.solve length scale with
      | .error _ => []
      | .ok _ =>
          let told := (scaledSum.share? length scale).map (.solvedAxis scaledSum length scale)
          told.toList ++ narrateAxes factor scale rest

/-- The completed steps of solving a ratio on a box. -/
def Ratio.narrate (ratio : Ratio) (box : Box) : List SolveNote :=
  if box.dimensions ≠ ratio.dimensions then []
  else
    match ratio.inferredScales box with
    | .error _ => []
    | .ok scales =>
        let inferred := SolveNote.inferredScales ratio box scales
        match Ratio.baseScale scales with
        | .error _ => [inferred]
        | .ok base =>
            let scale := commonScale base box.lengths
            if scale = 0 then [inferred]
            else
              inferred :: .chosenScale base scale (base / scale) ::
                narrateAxes (base / scale) scale (ratio.axes box)

end MonitorSplit
