import SpatialAccess.Scoring.Load
import SpatialAccess.Scoring.Opening
import SpatialAccess.Scoring.Performance

/-!
# Scoring a day

Stays are booked one after the other: time performed by activity type, time waited, time by which
stays were too short, and the parts that may be penalised. The score is computed from these.

* `ScoringPipeline`: parameters and rules.
* `Ledger`: what has been booked. `ScoringPipeline.book`: one stay more.
* `ScoringPipeline.finish`: the score of what has been booked.
* `ScoringPipeline.score`, `ScoringPipeline.scorePlan`: of stays, of a plan.
-/

namespace SpatialAccess

/-- Why there is no score. -/
inductive ScoringError where
  | missingTypicalDuration (activityType : String)
  deriving DecidableEq, Repr

/-- Words for a score that cannot be had. -/
def ScoringError.message : ScoringError → String
  | missingTypicalDuration activityType =>
    s!"no typical duration for activity type {Text.quote activityType}"

/-- Parameters and rules of scoring. -/
structure ScoringPipeline (α : Type) where
  params : ScoringParams α
  performance : PerformanceKind
  penalty : Penalty α

/-- What has been booked. -/
structure Ledger (α : Type) where
  /-- Time performed by activity type. -/
  durations : Std.TreeMap String α := {}
  /-- By how much stays were too short. -/
  tooShort : α
  waiting : α
  records : List (PenaltyRecord α) := []

/-- The parts of a score. -/
structure ScoreBreakdown (α : Type) where
  tooShort : α
  waiting : α
  performance : α
  penalties : α
  deriving DecidableEq, Repr

variable {α : Type} [Number α]

/-- The score. -/
def ScoreBreakdown.total (s : ScoreBreakdown α) : α :=
  s.tooShort + s.waiting + s.performance - s.penalties

/-- The ledger with nothing in it. -/
def Ledger.blank : Ledger α where
  tooShort := ((0 : Nat) : α)
  waiting := ((0 : Nat) : α)

/-- The time performed of an activity type. -/
def Ledger.duration (l : Ledger α) (activityType : String) : α :=
  l.durations[activityType]?.getD ((0 : Nat) : α)

namespace ScoringPipeline

/-- The rules that settings choose; loads matter only for the penalty of load. -/
def ofSettings (s : ScoringSettings α) (loads : Std.HashMap FacilityId (FacilityLoad α)) :
    ScoringPipeline α where
  params := s.params
  performance := s.performance
  penalty :=
    match s.penalty with
    | .none => .none
    | .facilityLoad => .facilityLoad loads s.restraintFactor s.restraintExponent

/-- What a total duration of an activity type is worth. -/
def utility (p : ScoringPipeline α) (activityType : String) (duration : α) :
    Except ScoringError α :=
  match p.params.typical? activityType with
  | some typical => .ok (p.performance.utility p.params typical duration)
  | none => .error (.missingTypicalDuration activityType)

/-- A step of booking: it may fail, and keeps what it has booked up to then. -/
abbrev Booking (α : Type) := ExceptT ScoringError (StateM (Ledger α))

/-- Books one part of a stay. -/
def bookSegment (p : ScoringPipeline α) (stay : Stay α) (segment : α × α) : Booking α Unit := do
  let (start, stop) := segment
  let duration := stop - start
  let before := (← get).duration stay.activityType
  modify fun l =>
    { l with durations := l.durations.insert stay.activityType (before + duration) }
  if p.penalty.appliesTo stay.activityType ∧ ((0 : Nat) : α) < duration then
    let reached ← ofExcept (p.utility stay.activityType (before + duration))
    let improvement := reached - (← ofExcept (p.utility stay.activityType before))
    let record := { facility? := stay.facility?, start, stop, improvement }
    modify fun l => { l with records := l.records ++ [record] }

/-- Books what is left of a stay: the time waited, and by how much it was too short. -/
def bookRest (p : ScoringPipeline α) (clipped : Clipped α) (l : Ledger α) : Ledger α :=
  let minimum := p.params.minimumDuration
  let isTooShort := ((0 : Nat) : α) ≤ minimum ∧ clipped.performed < minimum
  { l with
    waiting := l.waiting + clipped.waiting
    tooShort := if isTooShort then l.tooShort + (minimum - clipped.performed) else l.tooShort }

/-- Books a stay. -/
def book (p : ScoringPipeline α) (facilities : Facilities α) (stay : Stay α) : Booking α Unit := do
  let intervals := stay.openingTimes facilities p.params.day
  let clipped := clip stay.arrival stay.departure intervals
  clipped.segments.forM (p.bookSegment stay)
  modify (p.bookRest clipped)

/-- What all time performed is worth. -/
def performanceOf (p : ScoringPipeline α) (l : Ledger α) : Except ScoringError α :=
  l.durations.toList.foldlM (fun sum (activityType, duration) => do
    return sum + (← p.utility activityType duration)) ((0 : Nat) : α)

/-- The score of what has been booked. -/
def finish (p : ScoringPipeline α) (l : Ledger α) : Except ScoringError (ScoreBreakdown α) := do
  let performance ← p.performanceOf l
  return {
    tooShort := p.params.earlyDeparture * l.tooShort
    waiting := p.params.waiting * l.waiting
    performance
    penalties := Number.sum (l.records.map p.penalty.amount) }

/-- The score of stays. -/
def score (p : ScoringPipeline α) (facilities : Facilities α) (stays : List (Stay α)) :
    Except ScoringError (ScoreBreakdown α) :=
  let booking : Booking α Unit := stays.forM (p.book facilities)
  match booking.run.run Ledger.blank with
  | (.error e, _) => .error e
  | (.ok (), ledger) => p.finish ledger

/-- The score of a plan without travel times. -/
def scorePlan (p : ScoringPipeline α) (facilities : Facilities α) (plan : Plan α) :
    Except ScoringError (ScoreBreakdown α) :=
  p.score facilities (Stay.ofPlan plan)

end ScoringPipeline

end SpatialAccess
