import SpatialAccess.Scoring.Settings

/-!
# Utility of time performed

* `zeroUtilityDuration`: how long an activity lasts when it is worth nothing.
* `PerformanceKind.utility`: what a total duration is worth.
-/

namespace SpatialAccess

variable {α : Type} [Number α]

/-- How long, in hours, an activity of a typical duration lasts when it is worth nothing. -/
def zeroUtilityDuration (typical priority : α) : α :=
  let typicalHours := typical / ((3600 : Nat) : α)
  typicalHours * Number.exp (-((10 : Nat) : α) / typicalHours / priority)

/-- What a positive duration is worth by its logarithm; never less than waiting, nor than nothing. -/
def logarithmicUtility (p : ScoringParams α) (typical duration : α) : α :=
  let durationHours := duration / ((3600 : Nat) : α)
  let ratio := durationHours / zeroUtilityDuration typical p.priority
  let performed := p.performing * typical * Number.log ratio
  Number.upper ((0 : Nat) : α) (Number.upper performed (p.waiting * duration))

/-- What a total duration of an activity type is worth. -/
def PerformanceKind.utility (k : PerformanceKind) (p : ScoringParams α) (typical duration : α) : α :=
  match k with
  | .charyparNagel =>
    if ((0 : Nat) : α) < duration then logarithmicUtility p typical duration
    else ((2 : Nat) : α) * p.lateArrival * Number.abs duration
  | .linear => p.performing * duration

end SpatialAccess
