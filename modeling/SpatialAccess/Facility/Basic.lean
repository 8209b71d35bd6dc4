import SpatialAccess.Decimal.Shortest
import SpatialAccess.Facility.Day
import SpatialAccess.Geometry
import SpatialAccess.Registry
import Std.Data.TreeMap

/-!
# Facilities

A facility is a place that offers activities, each with an optional capacity and opening times.

* `OpeningTime`, `ActivityOption`, `Facility`: the parts.
* `Facilities`: all facilities, by number and by label; labels are distinct.
* `DataError`: why data cannot be computed with.
-/

namespace SpatialAccess

/-- Why data cannot be computed with. -/
inductive DataError (α : Type) where
  | unknownFacility (person label : String)
  | noOption (facility activityType : String)
  | noCapacity (facility activityType : String)
  | noFacility (facility : FacilityId)
  | nothingToPartition
  | noFacilitiesToPartition
  | undefinedCapacity
  | refusedCapacity (capacity exponent : α)
  | repeatedCandidate (facility : String)
  | layoutLength (links candidates : Nat)
  | unknownLink (link : LinkId)
  | badUtility (person : PersonId) (value : α)
  | badAccessibility (point : PointId) (mode : String) (value : α)
  | densityLength (entries points : Nat)
  deriving DecidableEq

open Text (quote) in
open Decimal (display) in
/-- Words for data that cannot be computed with. -/
def DataError.message (e : DataError Float) : String :=
  "data integrity error: " ++
    match e with
    | unknownFacility person label =>
      s!"person {quote person} references unknown facility {quote label}"
    | noOption facility activityType =>
      s!"facility {quote facility} has no activity option {quote activityType}"
    | noCapacity facility activityType =>
      s!"facility {quote facility} has no capacity for activity {quote activityType}"
    | noFacility facility => s!"unknown facility {facility.text}"
    | nothingToPartition => "no person or facility coordinates to partition"
    | noFacilitiesToPartition => "no facilities to partition"
    | undefinedCapacity => "capacity is NaN"
    | refusedCapacity capacity exponent =>
      s!"capacity {display capacity} is undefined under capacity exponent {display exponent}"
    | repeatedCandidate facility => s!"facility {quote facility} is listed twice as a candidate"
    | layoutLength links candidates => s!"solution has {links} links for {candidates} candidates"
    | unknownLink link => s!"unknown link {link.text}"
    | badUtility person value => s!"global utility of person {person.text} is {display value}"
    | badAccessibility point mode value =>
      s!"accessibility at {point.text} for {mode} is {display value}"
    | densityLength entries points =>
      s!"density column has {entries} entries for {points} measuring points"

/-- One opening interval, in seconds since midnight. -/
structure OpeningTime (α : Type) where
  day : DayType
  opens : α
  closes : α
  deriving DecidableEq, Repr

/-- What a facility offers for one activity type. -/
structure ActivityOption (α : Type) where
  activityType : String
  capacity : Option α := none
  openingTimes : List (OpeningTime α) := []
  deriving DecidableEq, Repr

/-- A place and what it offers, by activity type in the order of code points. -/
structure Facility (α : Type) where
  id : FacilityId
  label : String
  coord : Point α
  desc : Option String := none
  options : Std.TreeMap String (ActivityOption α) := {}

section Options

variable {α : Type} [Number α]

/-- An option with one more opening interval, behind the others. -/
def ActivityOption.addOpeningTime (o : ActivityOption α) (t : OpeningTime α) : ActivityOption α :=
  { o with openingTimes := o.openingTimes ++ [t] }

/-- Intervals in effect on a day, by opening; those that open together keep their order. -/
def ActivityOption.openingTimesOn (o : ActivityOption α) (day : DayType) : List (OpeningTime α) :=
  (o.openingTimes.filter fun t => t.day.covers day).mergeSort fun s t =>
    Number.totalLE s.opens t.opens

end Options

namespace Facility

variable {α : Type}

/-- The option for an activity type. -/
def option? (f : Facility α) (activityType : String) : Option (ActivityOption α) :=
  f.options[activityType]?

/-- Whether an activity type is offered. -/
def offers (f : Facility α) (activityType : String) : Bool :=
  f.options.contains activityType

/-- A facility with a whole option put in place of the one of its type. -/
def addOption (f : Facility α) (o : ActivityOption α) : Facility α :=
  { f with options := f.options.insert o.activityType o }

/-- A facility that offers the activity type, if only by an empty option. -/
def createOption (f : Facility α) (activityType : String) : Facility α :=
  if f.offers activityType then f else f.addOption { activityType }

/-- Changes the option of an activity type, if there is one. -/
def modifyOption (f : Facility α) (activityType : String)
    (change : ActivityOption α → ActivityOption α) : Facility α :=
  { f with options := f.options.modify activityType change }

/-- The option of an activity type that has to be offered. -/
def requireOption (f : Facility α) (activityType : String) :
    Except (DataError α) (ActivityOption α) :=
  match f.option? activityType with
  | some o => .ok o
  | none => .error (.noOption f.label activityType)

/-- The capacity for an activity type; both have to be there. -/
def capacity (f : Facility α) (activityType : String) : Except (DataError α) α := do
  match (← f.requireOption activityType).capacity with
  | some c => return c
  | none => .error (.noCapacity f.label activityType)

/-- The capacity for an activity type that has to be offered; an option without one counts as
`default`. -/
def capacityD (f : Facility α) (activityType : String) (default : α) : Except (DataError α) α := do
  return (← f.requireOption activityType).capacity.getD default

end Facility

/-- All facilities of a scenario. -/
structure Facilities (α : Type) extends Registry .facility (Facility α) where
  name : Option String := none

namespace Facilities

variable {α : Type}

/-- Number of facilities. -/
def size (fs : Facilities α) : Nat :=
  fs.list.size

/-- The facility of an identifier. -/
def get? (fs : Facilities α) (id : FacilityId) : Option (Facility α) :=
  fs.list[id.index]?

/-- The facility of a label. -/
def lookup? (fs : Facilities α) (label : String) : Option FacilityId :=
  fs.byLabel[label]?

/-- Creates a facility at a place. -/
def createM (label : String) (coord : Point α) :
    ExceptT CreateError (StateM (Facilities α)) FacilityId :=
  .onPart Facilities.toRegistry (fun fs r => { fs with toRegistry := r })
    (Registry.createM "facility" "facilities" label fun id => { id, label, coord })

/-- Facilities with a new one at the end, which gets the next identifier. -/
def create (fs : Facilities α) (label : String) (coord : Point α) :
    Except CreateError (FacilityId × Facilities α) :=
  (createM label coord).attempt fs

/-- Changes the facility of an identifier, if there is one. -/
def modify (fs : Facilities α) (id : FacilityId) (change : Facility α → Facility α) :
    Facilities α :=
  { fs with list := fs.list.modify id.index change }

/-- Facilities with a new one that offers options; of two of one type the later one counts. -/
def createWith (fs : Facilities α) (label : String) (coord : Point α)
    (options : List (ActivityOption α)) : Except CreateError (FacilityId × Facilities α) := do
  let (id, fs) ← fs.create label coord
  return (id, fs.modify id fun f => options.foldl Facility.addOption f)

/-- The label of a facility. -/
def label? (fs : Facilities α) (id : FacilityId) : Option String :=
  (fs.get? id).map Facility.label

/-- The facilities that offer an activity type, by identifier. -/
def offering (fs : Facilities α) (activityType : String) : List (Facility α) :=
  fs.list.toList.filter fun f => f.offers activityType

/-- The identifiers of the facilities that offer an activity type. -/
def idsOffering (fs : Facilities α) (activityType : String) : List FacilityId :=
  (fs.offering activityType).map Facility.id

/-- Every activity type offered anywhere, in order of first appearance. -/
def activityTypes (fs : Facilities α) : List String :=
  (fs.list.toList.flatMap fun f => f.options.values.map ActivityOption.activityType).eraseDups

end Facilities

end SpatialAccess
