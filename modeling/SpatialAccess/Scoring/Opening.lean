import SpatialAccess.Population.Basic

/-!
# Stays and opening times

* `Stay`: one activity as it was performed. `Stay.ofPlan`: the stays of a plan without travel times.
* `clip`: the parts of a stay within opening intervals; the rest is waiting time.
* `Stay.openingTimes`: the intervals that apply to a stay.
-/

namespace SpatialAccess

/-- An activity as it was performed. -/
structure Stay (α : Type) where
  activityType : String
  facility? : Option FacilityId := none
  arrival : α
  departure : α
  deriving DecidableEq, Repr

/-- The performed parts of a stay. -/
structure Clipped (α : Type) where
  /-- Start and end, one part for every interval. -/
  segments : List (α × α)
  /-- Sum of the lengths of the parts. -/
  performed : α
  /-- What is left of the stay. -/
  waiting : α
  deriving DecidableEq, Repr

variable {α : Type} [Number α]

/-- The end of the day that is scored. -/
def dayEnd : α := ((86400 : Nat) : α)

/-- The stays of activities, the first one from `arrival` on and each other one from the end of the
one before it. An activity without an end lasts until the end of the day. -/
def Stay.sequence (arrival : α) : Plan α → List (Stay α)
  | [] => []
  | a :: plan =>
    let departure := a.endTime?.getD (Number.upper dayEnd arrival)
    { activityType := a.activityType, facility? := a.facility?, arrival, departure } ::
      Stay.sequence departure plan

/-- The stays of a plan from midnight on, without travel times. -/
def Stay.ofPlan (plan : Plan α) : List (Stay α) :=
  Stay.sequence ((0 : Nat) : α) plan

/-- The part of a stay within one interval. A negative opening or closing time stands for none. An
interval that the stay does not meet gives the empty part at the departure. -/
def clipTo (arrival departure : α) (t : OpeningTime α) : α × α :=
  let zero : α := ((0 : Nat) : α)
  let hasOpening := zero ≤ t.opens
  let hasClosing := zero ≤ t.closes
  if (hasOpening ∧ hasClosing) ∧ (departure < t.opens ∨ t.closes < arrival) then
    (departure, departure)
  else
    (if hasOpening ∧ arrival < t.opens then t.opens else arrival,
      if hasClosing ∧ t.closes < departure then t.closes else departure)

/-- The parts of a stay within intervals; without intervals all of it. -/
def clip (arrival departure : α) (intervals : List (OpeningTime α)) : Clipped α :=
  match intervals with
  | [] =>
    { segments := [(arrival, departure)], performed := departure - arrival
      waiting := ((0 : Nat) : α) }
  | _ =>
    let segments := intervals.map (clipTo arrival departure)
    let performed := segments.foldl (fun sum s => sum + (s.2 - s.1)) ((0 : Nat) : α)
    { segments, performed, waiting := (departure - arrival) - performed }

/-- The intervals that apply to a stay on a day; none means always open. -/
def Stay.openingTimes (s : Stay α) (facilities : Facilities α) (day : DayType) :
    List (OpeningTime α) :=
  match (s.facility?.bind facilities.get?).bind fun f => f.option? s.activityType with
  | some o => o.openingTimesOn day
  | none => []

end SpatialAccess
