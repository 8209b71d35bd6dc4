import SpatialAccess.Gravity.Potential
import SpatialAccess.Network.Routing
import SpatialAccess.Settings.Group

/-!
# Settings of accessibility surfaces

* `SurfaceSettings`: cell size, exponents, modes, speeds, activity types and extent.
* `SurfaceSettings.betasFor`: the exponents for a mode.
* `SurfaceSettings.ofGroup`, `SurfaceSettings.ofSettings`: read and check them.
-/

namespace SpatialAccess

/-- Values that accessibility surfaces are computed with. -/
structure SurfaceSettings (α : Type) where
  cellSize : α
  betas : Betas α
  /-- Exponents of cost that differ from that of `betas` for one mode. -/
  costOverride : Mode → Option α := fun _ => none
  /-- The modes to compute, in column order. -/
  modes : List Mode := [.freeSpeed]
  speeds : TravelSpeeds α
  /-- The activity types to compute; all that are offered if there are none. -/
  activityTypes : List String := []
  /-- The activity type of the facilities that are counted in every cell. -/
  anchorType : String := "h"
  box? : Option (Box α) := none

namespace SurfaceSettings

variable {α : Type} [Number α]

/-- The group the settings are in. -/
def groupName : String := "accessibility"

/-- Settings with one mode and the default speeds. -/
def plain (cellSize : α) (betas : Betas α) : SurfaceSettings α where
  cellSize
  betas
  speeds := .standard

/-- Settings for other modes; they are put in column order, each once. -/
def withModes (s : SurfaceSettings α) (modes : List Mode) : SurfaceSettings α :=
  { s with modes := Mode.normalize modes }

/-- Settings with another exponent of cost for one mode. -/
def withCost (s : SurfaceSettings α) (mode : Mode) (exponent : α) : SurfaceSettings α :=
  { s with costOverride := fun m => if m = mode then some exponent else s.costOverride m }

/-- The exponents for a mode. -/
def betasFor (s : SurfaceSettings α) (mode : Mode) : Betas α :=
  { s.betas with distance := (s.costOverride mode).getD s.betas.distance }

/-! ## Reading -/

/-- Refuses a number that is not above zero. -/
def checkPositive (key : String) (value : α) : Except (ConfigError α) α :=
  if ((0 : Nat) : α) < value then .ok value else .error (.notPositive key value)

/-- A speed in kilometres an hour, as metres per second. -/
def speed (g : Settings.Group) (key : String) (default : Nat) : Except (ConfigError α) α := do
  return (← checkPositive key (← g.parseD Number.read? key (default : α))) / 3.6

/-- The speeds of a group. -/
def speedsOf (g : Settings.Group) : Except (ConfigError α) (TravelSpeeds α) := do
  return {
    walk := ← speed g "walkSpeedKmh" 3
    bike := ← speed g "bikeSpeedKmh" 15
    transit := ← speed g "ptSpeedKmh" 50
    beeline := ← g.parseD Number.read? "beelineDistanceFactor" 1.3 }

/-- The exponents of cost that a group gives for single modes. -/
def overridesOf (g : Settings.Group) : Except (ConfigError α) (List (Mode × α)) := do
  let found ← Mode.all.mapM fun mode => do
    let beta ← g.parse? Number.read? ("betaCost." ++ mode.name)
    return beta.map fun b => (mode, b)
  return found.filterMap id

/-- The modes that a group lists; none means free speed. -/
def modesOf (g : Settings.Group) : Except (ConfigError α) (List Mode) := do
  match g.items "modes" with
  | [] => return [.freeSpeed]
  | listed => return Mode.normalize (← listed.mapM Settings.readMode)

/-- One of the numbers of a written box. -/
def boxNumber (raw piece : String) : Except (ConfigError α) α :=
  let piece := Text.trim piece
  match Number.read? piece with
  | some x => .ok x
  | none => .error (.boxNumber raw piece.isEmpty)

/-- A box written as its lower and its upper corner. -/
def readBox (raw : String) : Except (ConfigError α) (Box α) := do
  match ← (Text.split ',' raw).mapM (boxNumber raw) with
  | [minX, minY, maxX, maxY] =>
    if minX ≤ maxX ∧ minY ≤ maxY then return { minX, minY, maxX, maxY }
    else .error (.boxShape raw)
  | _ => .error (.boxShape raw)

/-- The settings of a group. -/
def ofGroup (g : Settings.Group) : Except (ConfigError α) (SurfaceSettings α) := do
  let cellSize ← checkPositive "cellSize" (← g.parseD Number.read? "cellSize" ((100 : Nat) : α))
  let distance ← g.parse Number.read? "betaCost"
  let capacity ← g.parse Number.read? "betaCapacity"
  let overrides ← overridesOf g
  let modes ← modesOf g
  let speeds ← speedsOf g
  let box? ← (g.get? "boundingBox").mapM readBox
  return {
    cellSize, betas := { distance, capacity }, modes, speeds, box?
    costOverride := fun mode => overrides.lookup mode
    activityTypes := g.items "activityTypes"
    anchorType := (g.get? "anchorType").getD "h" }

/-- The settings of the group of their name. -/
def ofSettings (s : Settings) : Except (ConfigError α) (SurfaceSettings α) := do
  ofGroup (← s.requireGroup groupName)

end SurfaceSettings

end SpatialAccess
