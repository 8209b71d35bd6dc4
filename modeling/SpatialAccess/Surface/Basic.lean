import SpatialAccess.Facility.Basic
import SpatialAccess.MeasuringGrid

/-!
# Accessibility surfaces

A surface has one value for every measuring point and every mode, and a density for every point.

* `Surface`: the values of one activity type. `Surface.blank`: without values yet.
* `Surface.insertM`, `Surface.setDensityM`: fill it in; every cell can be set once.
* `Surface.get?`, `Surface.rows`: read it.
* `SurfaceError`: why a surface cannot be computed or filled in.
-/

namespace SpatialAccess

/-- Why a surface cannot be computed or filled in. -/
inductive SurfaceError (α : Type) where
  | config (cause : ConfigError α)
  | data (cause : DataError α)
  | network (cause : NetworkError α)
  | duplicateValue (point : PointId) (mode : Mode)
  | unknownPoint (point : PointId)
  | modeNotEnabled (mode : Mode)
  deriving DecidableEq

/-- Words for a surface that cannot be computed or filled in. -/
def SurfaceError.message : SurfaceError Float → String
  | config cause => cause.message
  | data cause => cause.message
  | network cause => cause.message
  | duplicateValue point mode =>
    s!"accessibility for point {point.text} and mode {mode.name} was already set"
  | unknownPoint point => s!"measuring point {point.text} is not part of the grid"
  | modeNotEnabled mode => s!"mode {mode.name} is not enabled for this run"

/-- The values of one activity type, a row of modes after the other. -/
structure Surface (α : Type) where
  activityType : String
  modes : List Mode
  /-- The measuring points; each has its place in the list as identifier. -/
  points : Array (MeasuringPoint α)
  values : Array (Option α)
  density : Array α
  deriving Repr

/-- What a surface says about one point. -/
structure SurfaceRow (α : Type) where
  point : MeasuringPoint α
  /-- The values of the modes in order. -/
  values : List (Option α)
  density : α
  deriving Repr

namespace Surface

variable {α : Type}

/-- A surface without values, of density zero everywhere. -/
def blank [Number α] (activityType : String) (points : Array (MeasuringPoint α))
    (modes : List Mode) : Surface α where
  activityType
  modes
  points
  values := Array.replicate (points.size * modes.length) none
  density := Array.replicate points.size ((0 : Nat) : α)

/-- Number of points. -/
def size (s : Surface α) : Nat :=
  s.points.size

/-- The place of a mode in every row. -/
def slot? (s : Surface α) (mode : Mode) : Option Nat :=
  s.modes.idxOf? mode

/-- The place of a point and a slot among the values. -/
def cell (s : Surface α) (point : PointId) (slot : Nat) : Nat :=
  point.index * s.modes.length + slot

/-- The value of a point and a mode, if it was set. -/
def get? (s : Surface α) (point : PointId) (mode : Mode) : Option α := do
  let slot ← s.slot? mode
  (s.values[s.cell point slot]?).join

/-- The density at a point. -/
def density? (s : Surface α) (point : PointId) : Option α :=
  s.density[point.index]?

/-- Sets the value of a point and a mode, once. -/
def insertM (point : PointId) (mode : Mode) (value : α) :
    ExceptT (SurfaceError α) (StateM (Surface α)) Unit := do
  let some slot := (← get).slot? mode | throw (.modeNotEnabled mode)
  if (← get).points.size ≤ point.index then
    throw (.unknownPoint point)
  if ((← get).values[(← get).cell point slot]?).join.isSome then
    throw (.duplicateValue point mode)
  modify fun s => { s with values := s.values.setIfInBounds (s.cell point slot) (some value) }

/-- A surface with the value of a point and a mode set. -/
def insert (s : Surface α) (point : PointId) (mode : Mode) (value : α) :
    Except (SurfaceError α) (Surface α) :=
  (insertM point mode value).leave s

/-- Sets the density at all points. -/
def setDensityM (density : Array α) : ExceptT (SurfaceError α) (StateM (Surface α)) Unit := do
  if density.size ≠ (← get).points.size then
    throw (.data (.densityLength density.size (← get).points.size))
  modify fun s => { s with density }

/-- A surface with the density set. -/
def setDensity (s : Surface α) (density : Array α) : Except (SurfaceError α) (Surface α) :=
  (setDensityM density).leave s

/-- The row of a point. -/
def row? (s : Surface α) (i : Nat) : Option (SurfaceRow α) := do
  let width := s.modes.length
  return {
    point := ← s.points[i]?
    values := (s.values.extract (i * width) ((i + 1) * width)).toList
    density := ← s.density[i]? }

/-- All rows by point. -/
def rows (s : Surface α) : List (SurfaceRow α) :=
  (List.range s.points.size).filterMap s.row?

end Surface

end SpatialAccess
