import SpatialAccess.Zone.Grid

/-!
# Who and what is in a zone

* `SpatialIndex`: persons by the zone of their home, opportunities by the zone that they are in.
* `SpatialIndex.build`: sorts both into bins (`sortInto`) and puts these into the zones (`fillZones`).
* `SpatialIndex.shopsWithin`: the opportunities around a point, looked for in the zones near it.

An opportunity is a facility that offers the opportunity type; an anchor is one that offers the
anchor type.
-/

namespace SpatialAccess

/-- The activity types that make a facility a destination or an origin. -/
structure IndexTypes where
  opportunity : String := "shop"
  anchor : String := "h"
  deriving DecidableEq, Repr

/-- Zones, and who and what is in them. -/
structure SpatialIndex (α : Type) where
  grid : ZoneGrid α
  types : IndexTypes
  /-- Where each person lives. -/
  homes : Array (Option (Point α))
  /-- The zone each person lives in. -/
  homeZones : Array (Option ZoneId)
  /-- The opportunities, by identifier. -/
  shops : List (Destination α)
  anchors : List FacilityId

namespace SpatialIndex

variable {α : Type} [Number α]

/-- Bins with one item more, which is in the bin of its zone if it has one. -/
def put {β : Type} (bins : Array (Array β)) (item : Option ZoneId × β) : Array (Array β) :=
  match item.1 with
  | some zone => bins.modify zone.index fun bin => bin.push item.2
  | none => bins

/-- Items in as many bins as there are zones, each in the bin of its zone. -/
def sortInto {β : Type} (zones : Nat) (items : List (Option ZoneId × β)) : Array (Array β) :=
  items.foldl put (Array.replicate zones #[])

theorem size_put {β : Type} (bins : Array (Array β)) (item : Option ZoneId × β) :
    (put bins item).size = bins.size := by
  unfold put
  split
  · exact Array.size_modify
  · rfl

theorem size_sortInto {β : Type} (zones : Nat) (items : List (Option ZoneId × β)) :
    (sortInto zones items).size = zones := by
  have hfold (bins : Array (Array β)) : (items.foldl put bins).size = bins.size := by
    induction items generalizing bins with
    | nil => rfl
    | cons item items ih => rw [List.foldl_cons, ih, size_put]
  rw [sortInto, hfold, Array.size_replicate]

/-- A grid with what the zones have in place of what they had. -/
def fillZones (grid : ZoneGrid α) (persons : List (Option ZoneId × PersonId))
    (shops : List (Option ZoneId × Destination α)) : ZoneGrid α :=
  let bins := (sortInto grid.size persons).zip (sortInto grid.size shops)
  { grid with
    zones := (grid.zones.zip bins).map fun (zone, persons, shops) => { zone with persons, shops }
    size_zones := by
      simp [bins, size_sortInto, ZoneGrid.size, grid.size_zones] }

/-- The index of a scenario. -/
def build (grid : ZoneGrid α) (population : Population α) (facilities : Facilities α)
    (types : IndexTypes) : SpatialIndex α :=
  let homes := population.list.map fun person => person.home? facilities
  let homeZones := homes.map fun home => home.bind grid.zoneOf?
  let persons := population.list.toList.map Person.id
  let shops := (facilities.offering types.opportunity).map fun f =>
    ({ facility := f.id, coord := f.coord } : Destination α)
  { types, homes, homeZones, shops
    grid := fillZones grid (homeZones.toList.zip persons)
      (shops.map fun d => (grid.zoneOf? d.coord, d))
    anchors := facilities.idsOffering types.anchor }

/-- The facilities that offer the opportunity type, by identifier. -/
def opportunities (s : SpatialIndex α) : List FacilityId :=
  s.shops.map Destination.facility

/-- Where a person lives. -/
def home? (s : SpatialIndex α) (person : PersonId) : Option (Point α) :=
  s.homes[person.index]?.join

/-- The zone a person lives in. -/
def homeZone? (s : SpatialIndex α) (person : PersonId) : Option ZoneId :=
  s.homeZones[person.index]?.join

/-- The persons who live in a zone. -/
def personsIn (s : SpatialIndex α) (zone : ZoneId) : List PersonId :=
  ((s.grid.zone? zone).map fun z => z.persons.toList).getD []

/-- The opportunities in a zone, with their places. -/
def destinationsIn (s : SpatialIndex α) (zone : ZoneId) : List (Destination α) :=
  ((s.grid.zone? zone).map fun z => z.shops.toList).getD []

/-- The identifiers of the opportunities in a zone. -/
def shopsIn (s : SpatialIndex α) (zone : ZoneId) : List FacilityId :=
  (s.destinationsIn zone).map Destination.facility

/-- How many persons and how many opportunities there are in a zone. -/
def counts (s : SpatialIndex α) (zone : ZoneId) : Nat × Nat :=
  ((s.personsIn zone).length, (s.shopsIn zone).length)

/-- The opportunities in zones whose squared distance to a point is at most that of `radius`, by
identifier. -/
def shopsWithin (s : SpatialIndex α) (p : Point α) (radius : α) : List FacilityId :=
  let near := (s.grid.zonesNear p radius).flatMap s.destinationsIn
  let found := near.filter fun d => d.coord.distanceSq p ≤ radius * radius
  (found.map Destination.facility).mergeSort fun a b => a.index ≤ b.index

end SpatialIndex

end SpatialAccess
