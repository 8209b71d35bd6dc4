import SpatialAccess.Settings.Group

/-!
# Settings of plan scoring

* `ScoringParams`: what time is worth, and what is typical.
* `ScoringSettings`: these, and which rules of performance and penalty apply.
* `ScoringSettings.ofGroup`, `ScoringSettings.ofSettings`: read and check them.

Settings give the worth of an hour; parameters hold that of a second.
-/

namespace SpatialAccess

/-- How the time performed is turned into utility. -/
inductive PerformanceKind where
  /-- By its logarithm, in relation to the typical duration. -/
  | charyparNagel
  /-- In proportion. -/
  | linear
  deriving DecidableEq, Repr

namespace PerformanceKind

/-- The rule that a text names. -/
def read? (s : String) : Option PerformanceKind :=
  match Text.trim s with
  | "charyparNagel" => some charyparNagel
  | "linear" => some linear
  | _ => none

/-- Name of a rule in listings. -/
def label : PerformanceKind → String
  | charyparNagel => "CharyparNagel"
  | linear => "Linear"

end PerformanceKind

/-- What is taken off the score. -/
inductive PenaltyKind where
  | none
  /-- A share of what was gained in crowded shops and leisure facilities. -/
  | facilityLoad
  deriving DecidableEq, Repr

namespace PenaltyKind

/-- The rule that a text names. -/
def read? (s : String) : Option PenaltyKind :=
  match Text.trim s with
  | "none" => some .none
  | "facilityLoad" => some .facilityLoad
  | _ => Option.none

/-- Name of a rule in listings. -/
def label : PenaltyKind → String
  | none => "None"
  | facilityLoad => "FacilityLoad"

end PenaltyKind

/-- What a second is worth, and what is typical; times are in seconds. -/
structure ScoringParams (α : Type) where
  performing : α
  waiting : α
  lateArrival : α
  earlyDeparture : α
  priority : α
  /-- Below it an activity is too short. -/
  minimumDuration : α
  /-- The day whose opening times apply. -/
  day : DayType := .wed
  /-- Typical durations by activity type. -/
  typicalDurations : Std.TreeMap String α := {}

/-- Parameters and rules. -/
structure ScoringSettings (α : Type) where
  params : ScoringParams α
  performance : PerformanceKind := .charyparNagel
  penalty : PenaltyKind := .none
  /-- What the load of a facility is multiplied by. -/
  restraintFactor : α
  /-- What the load of a facility is raised to. -/
  restraintExponent : α

variable {α : Type} [Number α]

namespace ScoringParams

/-- The worth of a second, from that of an hour. -/
def perSecond (perHour : α) : α :=
  perHour / ((3600 : Nat) : α)

/-- The default worth of an hour of late arrival. -/
def lateHour : α := -((18 : Nat) : α)

/-- Half an hour. -/
def halfHour : α := 0.5 * ((3600 : Nat) : α)

/-- The default parameters, without typical durations. -/
def standard : ScoringParams α where
  performing := perSecond ((6 : Nat) : α)
  waiting := ((0 : Nat) : α)
  lateArrival := perSecond lateHour
  earlyDeparture := ((0 : Nat) : α)
  priority := ((1 : Nat) : α)
  minimumDuration := halfHour

/-- Parameters with another typical duration. -/
def withTypical (p : ScoringParams α) (activityType : String) (seconds : α) : ScoringParams α :=
  { p with typicalDurations := p.typicalDurations.insert activityType seconds }

/-- The typical duration of an activity type. -/
def typical? (p : ScoringParams α) (activityType : String) : Option α :=
  p.typicalDurations[activityType]?

end ScoringParams

namespace ScoringSettings

/-- The group the settings are in. -/
def groupName : String := "planCalcScore"

/-- The default settings. -/
def standard : ScoringSettings α where
  params := .standard
  restraintFactor := ((0 : Nat) : α)
  restraintExponent := ((0 : Nat) : α)

/-! ## Reading -/

/-- The time under a key. -/
def time (key raw : String) : Except (ConfigError α) α :=
  (Clock.read raw).mapError (.badTime key)

/-- The day of a text. -/
def day (raw : String) : Except (ConfigError α) DayType :=
  match DayType.read? raw with
  | some d => .ok d
  | none => .error (.badDay raw)

/-- What keys of typical durations begin with. -/
def typicalHead : String := "typicalDuration."

/-- The activity type that a key gives the typical duration of. -/
def typeOfKey? (key : String) : Option String :=
  let (cs, head) := (key.toList, typicalHead.toList)
  if head.isPrefixOf cs then some (String.ofList (cs.drop head.length)) else none

/-- The typical duration under a key, which has to be positive. -/
def typicalDuration (key raw : String) : Except (ConfigError α) α := do
  let seconds ← time key raw
  if ((0 : Nat) : α) < seconds then return seconds else .error (.typicalNotPositive key raw)

/-- All typical durations of a group. -/
def typicalDurations (g : Settings.Group) : Except (ConfigError α) (Std.TreeMap String α) :=
  g.params.toList.foldlM (fun durations (key, raw) =>
    match typeOfKey? key with
    | some activityType => do return durations.insert activityType (← typicalDuration key raw)
    | none => .ok durations) {}

/-- The worth of a second under a key that gives that of an hour. -/
def worth (g : Settings.Group) (key : String) (default : α) : Except (ConfigError α) α := do
  return ScoringParams.perSecond (← g.parseD Number.read? key default)

/-- Refuses a priority that is not positive. -/
def checkPriority (priority : α) : Except (ConfigError α) α :=
  if ((0 : Nat) : α) < priority then .ok priority else .error (.notPositive "priority" priority)

/-- The settings of a group. -/
def ofGroup (g : Settings.Group) : Except (ConfigError α) (ScoringSettings α) := do
  let zero : α := ((0 : Nat) : α)
  let priority ← checkPriority (← g.parseD Number.read? "priority" ((1 : Nat) : α))
  let minimum? ← (g.get? "minimumDuration").mapM (time "minimumDuration")
  let day? ← (g.get? "scoringDay").mapM day
  let typicalDurations ← typicalDurations g
  let performing ← worth g "performing" ((6 : Nat) : α)
  let waiting ← worth g "waiting" zero
  let lateArrival ← worth g "lateArrival" ScoringParams.lateHour
  let earlyDeparture ← worth g "earlyDeparture" zero
  let performance ← g.parseD PerformanceKind.read? "performanceFunction" .charyparNagel
  let penalty ← g.parseD PenaltyKind.read? "penaltyFunction" .none
  let restraintFactor ← g.parseD Number.read? "restraintFcnFactor" zero
  let restraintExponent ← g.parseD Number.read? "restraintFcnExp" zero
  return {
    params := {
      performing, waiting, lateArrival, earlyDeparture, priority, typicalDurations
      minimumDuration := minimum?.getD ScoringParams.halfHour
      day := day?.getD .wed }
    performance, penalty, restraintFactor, restraintExponent }

/-- The settings of the group of their name. -/
def ofSettings (s : Settings) : Except (ConfigError α) (ScoringSettings α) := do
  ofGroup (← s.requireGroup groupName)

end ScoringSettings

end SpatialAccess
