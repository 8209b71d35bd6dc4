import SpatialAccess.Surface.Compute

/-!
# Surfaces of all activity types

A run first checks the opportunities of every type, then computes every type, and only then hands
over the results; so nothing is handed over if any type fails.

* `RunEvent`: what an observer of a run is told.
* `SurfaceModel.activityTypes`: the types of a run.
* `SurfaceModel.run`: the events of a run and its outcome.
-/

namespace SpatialAccess

/-- What an observer of a run is told. -/
inductive RunEvent (α : Type) where
  /-- A type is about to be computed. -/
  | typeStart (activityType : String) (opportunities : Nat)
  /-- A type is finished, and so are all others. -/
  | result (surface : Surface α)
  /-- The run is over. -/
  | runEnd (types : Nat)

namespace SurfaceModel

variable {α : Type} [Number α]

/-- The types of a run: those of the settings, or all that are offered, anchors left out. -/
def activityTypes (m : SurfaceModel α) (facilities : Facilities α) : List String :=
  match m.settings.activityTypes with
  | [] => facilities.activityTypes.filter (· != m.settings.anchorType)
  | types => types

/-- The opportunities of every type of a run. -/
def opportunitySets (m : SurfaceModel α) (facilities : Facilities α) :
    Except (SurfaceError α) (List (OpportunitySet α)) :=
  (m.activityTypes facilities).mapM fun activityType =>
    OpportunitySet.ofType activityType facilities m.network m.settings.betas.capacity

/-- Computes one type after the other until one fails. -/
def computeAll (m : SurfaceModel α) (facilities : Facilities α) :
    List (OpportunitySet α) → List (RunEvent α) × Except (SurfaceError α) (List (Surface α))
  | [] => ([], .ok [])
  | set :: sets =>
    let start := RunEvent.typeStart set.activityType set.size
    match m.compute set facilities with
    | .error e => ([start], .error e)
    | .ok surface =>
      let (events, outcome) := m.computeAll facilities sets
      (start :: events, outcome.map (surface :: ·))

/-- The events of a run and its outcome. -/
def run (m : SurfaceModel α) (facilities : Facilities α) :
    List (RunEvent α) × Except (SurfaceError α) (List (Surface α)) :=
  match m.opportunitySets facilities with
  | .error e => ([], .error e)
  | .ok sets =>
    match m.computeAll facilities sets with
    | (events, .error e) => (events, .error e)
    | (events, .ok surfaces) =>
      (events ++ surfaces.map .result ++ [.runEnd surfaces.length], .ok surfaces)

end SurfaceModel

end SpatialAccess
