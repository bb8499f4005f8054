/-
Module: MonitorSplit.Monitor.Partition
Purpose: The monitors that a monitor is split into.
Main exports:
  partitionName, isPartitionName, Monitor.isPartitionOf, Partition, PartitionFault, SplitFailure,
  Split, Monitor.split
-/
import MonitorSplit.Monitor.Basic
import MonitorSplit.Monitor.Millimetres
import MonitorSplit.Ratio.Cell
import MonitorSplit.Ratio.Solve

namespace MonitorSplit

/-!
A split makes a monitor for each cell of a solved ratio.  Partitions are known by
their names: the name of the parent, a mark, and the position of the cell in pixels.
The first partition takes over the output of the parent; the others have none, since
an output belongs to one monitor only.
-/

/-- What follows the parent's name in the name of a partition. -/
def partitionMark : String := "-XRPEX"

/-- The name of the partition of a parent at a position, however long its numbers are. -/
def partitionName (parent : String) (x y : Int) : String :=
  parent ++ partitionMark ++ s!"-{x}-{y}"

/-- Write the name of the partition of a parent at a position. -/
def writePartitionName (parent : String) (x y : Int) : Except DigitFault String :=
  if Writable x ∧ Writable y then .ok (partitionName parent x y) else .error .toWrite

/-- A name marks a monitor as a partition of a parent. -/
def isPartitionName (name parent : String) : Bool :=
  (parent ++ partitionMark).toList.isPrefixOf name.toList

/-- A monitor is a partition of a parent by its name. -/
def Monitor.isPartitionOf (monitor : Monitor) (parent : String) : Bool :=
  isPartitionName monitor.name parent

/-- Size in pixels and millimetres, and position, of a monitor to be defined. -/
structure Geometry where
  width : Int
  widthMm : Int
  height : Int
  heightMm : Int
  x : Int
  y : Int
deriving DecidableEq, Repr, Inhabited

/-- The form in which the display tool reads a geometry, however long its numbers are. -/
def Geometry.render (geometry : Geometry) : String :=
  s!"{geometry.width}/{geometry.widthMm}x{geometry.height}/{geometry.heightMm}" ++
    s!"+{geometry.x}+{geometry.y}"

/-- The numbers of a geometry. -/
def Geometry.numbers (geometry : Geometry) : List Int :=
  [geometry.width, geometry.widthMm, geometry.height, geometry.heightMm, geometry.x, geometry.y]

/-- A monitor to be defined as a part of another. -/
structure Partition where
  name : String
  geometry : Geometry
  output : String
deriving DecidableEq, Repr, Inhabited

/-- The arguments that define a partition. -/
def Partition.arguments (partition : Partition) : List String :=
  ["--setmonitor", partition.name, partition.geometry.render, partition.output]

/-- Why a partition cannot be defined: its millimetres have no value, or a number of it is
too long to be written. -/
inductive PartitionFault where
  | millimetres (cause : ProportionFault)
  | overlong
deriving DecidableEq, Repr, Inhabited

/-- Why a monitor cannot be split. -/
inductive SplitFailure where
  | unfit (monitor : String) (cause : RatioFailure)
  | shape (cause : ShapeError)
  | zeroScale
  | millimetres (cause : ProportionFault)
  | overlong
deriving DecidableEq, Repr, Inhabited

/-- The wording of a failure to split. -/
def SplitFailure.message : SplitFailure → String
  | .unfit monitor cause => s!"failed to evaluate ratio for monitor {monitor}: {cause.message}"
  | .shape cause => cause.message
  | .zeroScale => zeroScaleMessage
  | .millimetres cause => cause.message
  | .overlong => DigitFault.toWrite.message

/-- A failure to solve, as a failure to split a monitor. -/
def SplitFailure.ofSolve (monitor : String) : SolveFailure → SplitFailure
  | .unfit cause => .unfit monitor cause
  | .shape cause => .shape cause
  | .zeroScale => .zeroScale
  | .overlong => .overlong

/-- A failure to define a partition, as a failure to split the monitor. -/
def SplitFailure.ofPartition : PartitionFault → SplitFailure
  | .millimetres cause => .millimetres cause
  | .overlong => .overlong

@[simp] theorem SplitFailure.ofPartition_ne_unfit (fault : PartitionFault) (monitor : String)
    (cause : RatioFailure) : SplitFailure.ofPartition fault ≠ .unfit monitor cause := by
  cases fault <;> nofun

/-- The partitions of a monitor and the number of pixels per unit of the ratio. -/
structure Split where
  partitions : List Partition
  scale : Int
deriving DecidableEq, Repr, Inhabited

/-- The arguments that define all partitions of a split. -/
def Split.arguments (split : Split) : List String :=
  split.partitions.flatMap Partition.arguments

/-- The first two of some numbers; a missing one is zero. -/
def planePair : List Int → Int × Int
  | first :: second :: _ => (first, second)
  | [first] => (first, 0)
  | [] => (0, 0)

namespace Monitor

/-- The output that is not attached to anything. -/
def noOutput : String := "none"

/-- The partition of a monitor that a cell, measured in pixels, gives. -/
def partition (monitor : Monitor) (output : String) (cell : Cell) :
    Except PartitionFault Partition := do
  let (x, y) := planePair cell.position
  let (width, height) := planePair cell.size
  let widthMm ← (proportion monitor.sizeMm.1 width monitor.resolution.width).mapError .millimetres
  let heightMm ←
    (proportion monitor.sizeMm.2 height monitor.resolution.height).mapError .millimetres
  let geometry : Geometry := {
    width, widthMm, height, heightMm
    x := monitor.position.1 + x
    y := monitor.position.2 + y }
  if ∀ number ∈ x :: y :: geometry.numbers, Writable number then
    return { name := partitionName monitor.name x y, geometry, output }
  else throw .overlong

/-- The partitions of a monitor that cells, measured in pixels, give.  The first of
them takes over the output. -/
def partitions (monitor : Monitor) : List Cell → Except PartitionFault (List Partition)
  | [] => .ok []
  | first :: rest => do
      let head ← monitor.partition monitor.outputOrName first
      let others ← rest.mapM (monitor.partition noOutput)
      return head :: others

/-- Split a monitor by a ratio. -/
def split (monitor : Monitor) (ratio : Ratio) : Except SplitFailure Split :=
  match ratio.solve monitor.resolution with
  | .error cause => .error (.ofSolve monitor.name cause)
  | .ok solution =>
      let cells := solution.solved.cells.map (·.scaled solution.scale)
      match monitor.partitions cells with
      | .error cause => .error (.ofPartition cause)
      | .ok partitions => .ok { partitions, scale := solution.scale }

end Monitor

end MonitorSplit
