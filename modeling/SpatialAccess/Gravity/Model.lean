import SpatialAccess.Gravity.Cache
import SpatialAccess.Gravity.Settings
import SpatialAccess.Network.Basic
import SpatialAccess.Random.Sample
import SpatialAccess.Zone.Index

/-!
# The gravity model

A layout puts every candidate shop on a link; it then stands in the middle of that link. A person is
attracted by the candidates and by other shops; a candidate wins the share of its own attraction in
that of all of them. The score of a layout is the sum of these shares over candidates and persons.

* `GravityModel`: what stays the same over all layouts. `GravityModel.build`: checks capacities and
  draws the samples.
* `GravityModel.globalUtility`: the attraction of everything to one person.
* `GravityModel.computePotential`: the score of a layout. Utilities are remembered until the layout
  changes, also when a later person's utility is refused.
-/

namespace SpatialAccess

/-- Why there is no model or no score. -/
inductive GravityError (α : Type) where
  | config (cause : ConfigError α)
  | data (cause : DataError α)
  deriving DecidableEq

/-- Words for a model or a score that cannot be had. -/
def GravityError.message : GravityError Float → String
  | config cause => cause.message
  | data cause => cause.message

/-- What stays the same over all layouts. -/
structure GravityModel (α : Type) where
  settings : GravitySettings α
  /-- How attractive a place at a distance and with a capacity is. -/
  attraction : α → α → α
  network : Network α
  index : SpatialIndex α
  /-- The shops to be placed, in the order of layouts. -/
  candidates : List FacilityId
  /-- The capacity of every shop and every candidate. -/
  capacity : Std.HashMap FacilityId α
  /-- The other shops that everybody takes into account. -/
  fixedShops : List (Destination α)
  /-- The persons that are scored, with their homes. -/
  persons : List (PersonId × Point α)

namespace GravityModel

variable {α : Type} [Number α]

/-- The activity type of shops. -/
def shopType : String := "shop"

/-! ## Building -/

/-- The capacity of a facility as a shop; it has to be one that can be raised to the power. -/
def checkedCapacity (facilities : Facilities α) (exponent : α) (id : FacilityId) :
    Except (DataError α) α := do
  let some facility := facilities.get? id | .error (.noFacility id)
  let capacity ← facility.capacity shopType
  checkCapacity capacity exponent
  return capacity

/-- The capacities of facilities. -/
def capacities (facilities : Facilities α) (exponent : α) (ids : List FacilityId) :
    Except (DataError α) (Std.HashMap FacilityId α) :=
  ids.foldlM (fun known id => do
    return known.insert id (← checkedCapacity facilities exponent id)) {}

/-- The first entry of a list that was there before. -/
def repeated? (seen : List FacilityId) : List FacilityId → Option FacilityId
  | [] => none
  | id :: ids => if seen.contains id then some id else repeated? (id :: seen) ids

/-- Refuses candidates of which one is listed twice. -/
def checkCandidates (facilities : Facilities α) (candidates : List FacilityId) :
    Except (DataError α) Unit :=
  match repeated? [] candidates with
  | none => .ok ()
  | some id => .error (.repeatedCandidate ((facilities.label? id).getD ""))

/-- The streams for shops and for persons. -/
def streams (seed : UInt64) : Stream × Stream :=
  let draw : Draw (Stream × Stream) := do
    let shops ← Draw.child 1
    let persons ← Draw.child 2
    return (shops, persons)
  (draw.run (Stream.ofSeed seed)).1

/-- The shops, out of those that are no candidates, that everybody takes into account. -/
def chooseShops (settings : GravitySettings α) (others : List (Destination α)) :
    List (Destination α) :=
  match settings.shopSampling, settings.shopNumber with
  | .random, some n => ((Draw.keepAmount others n).run (streams settings.seed).1).1
  | .zone, _ => []
  | _, _ => others

/-- The persons with a home, and where it is. -/
def residents (index : SpatialIndex α) (population : Population α) : List (PersonId × Point α) :=
  population.list.toList.filterMap fun p => (index.home? p.id).map fun home => (p.id, home)

/-- The model of a scenario for any attraction. -/
def buildWith (attraction : α → α → α) (settings : GravitySettings α) (network : Network α)
    (population : Population α) (facilities : Facilities α) (candidates : List FacilityId) :
    Except (GravityError α) (GravityModel α) := do
  let partitioner ←
    (Partitioner.ofOrder settings.zones settings.partition).mapError GravityError.config
  let grid ← (partitioner.ofScenario population facilities shopType).mapError GravityError.data
  let index := SpatialIndex.build grid population facilities { opportunity := shopType }
  let shops := index.opportunities ++ candidates
  let capacity ← (capacities facilities settings.betas.capacity shops).mapError GravityError.data
  (checkCandidates facilities candidates).mapError GravityError.data
  let others := index.shops.filter fun s => !candidates.contains s.facility
  let sample := Draw.keepRate (residents index population) settings.personRate
  return {
    settings, attraction, network, index, candidates, capacity
    fixedShops := chooseShops settings others
    persons := (sample.run (streams settings.seed).2).1 }

/-- The model of a scenario. -/
def build (settings : GravitySettings α) (network : Network α) (population : Population α)
    (facilities : Facilities α) (candidates : List FacilityId) :
    Except (GravityError α) (GravityModel α) :=
  buildWith settings.betas.potential settings network population facilities candidates

/-! ## Scoring -/

/-- The capacity of a shop or a candidate. -/
def capacityOf (m : GravityModel α) (id : FacilityId) : α :=
  m.capacity[id]?.getD Number.undefined

/-- How much a facility at a place attracts somebody from a home. -/
def attractionOf (m : GravityModel α) (home location : Point α) (id : FacilityId) : α :=
  m.attraction (home.distance location) (m.capacityOf id)

/-- How much candidate number `k` at a place attracts somebody from a home. -/
def personPotential (m : GravityModel α) (home : Point α) (k : Nat) (location : Point α) : α :=
  match m.candidates[k]? with
  | some id => m.attractionOf home location id
  | none => Number.undefined

/-- The attraction of the shops in the zone of a person's home, candidates left out. -/
def zoneUtility (m : GravityModel α) (person : PersonId) (home : Point α) : α :=
  match m.index.homeZone? person with
  | none => ((0 : Nat) : α)
  | some zone =>
    let shops := (m.index.destinationsIn zone).filter fun s => !m.candidates.contains s.facility
    Number.sum (shops.map fun s => m.attractionOf home s.coord s.facility)

/-- The attraction of the shops that do not move. -/
def fixedUtility (m : GravityModel α) (person : PersonId) (home : Point α) : α :=
  match m.settings.shopSampling with
  | .zone => m.zoneUtility person home
  | _ => Number.sum (m.fixedShops.map fun s => m.attractionOf home s.coord s.facility)

/-- The attraction of the candidates at their places. -/
def movingUtility (m : GravityModel α) (home : Point α) (locations : List (Point α)) : α :=
  Number.sum ((m.candidates.zip locations).map fun (id, location) =>
    m.attractionOf home location id)

/-- The attraction of everything to one person; it has to be positive and finite. -/
def globalUtility (m : GravityModel α) (person : PersonId) (home : Point α)
    (locations : List (Point α)) : Except (DataError α) α :=
  let utility := m.fixedUtility person home + m.movingUtility home locations
  if ((0 : Nat) : α) < utility ∧ Number.isFinite utility then .ok utility
  else .error (.badUtility person utility)

/-- Where a layout puts the candidates. A link that dangles counts as unknown here; looking for its
middle would lead to nothing at all. -/
def locations (m : GravityModel α) (layout : List LinkId) :
    Except (DataError α) (List (Point α)) :=
  if layout.length ≠ m.candidates.length then
    .error (.layoutLength layout.length m.candidates.length)
  else
    layout.mapM fun link =>
      match m.network.midpoint? link with
      | some p => .ok p
      | none => .error (.unknownLink link)

/-- A computation that fills a cache, and keeps what it has filled when it fails. -/
abbrev Scoring (α : Type) := ExceptT (DataError α) (StateM (UtilityCache α))

/-- Remembers the utility of a person, unless it is remembered already. -/
def fill (m : GravityModel α) (locations : List (Point α)) (resident : PersonId × Point α) :
    Scoring α Unit := do
  let (person, home) := resident
  if ((← get).get? person).isNone then
    let utility ← ofExcept (m.globalUtility person home locations)
    modify fun cache => cache.insert person utility

/-- The shares that the candidates win of one person. -/
def personScore (m : GravityModel α) (cache : UtilityCache α) (locations : List (Point α))
    (resident : PersonId × Point α) : α :=
  let (person, home) := resident
  let utility := (cache.get? person).getD Number.undefined
  Number.sum ((locations.zip m.candidates).map fun (location, id) =>
    m.attractionOf home location id / utility)

/-- The score of a layout. A layout of the wrong length or with an unknown link leaves the cache as
it is. -/
def computePotential (m : GravityModel α) (layout : List LinkId) : Scoring α α := do
  let locations ← ofExcept (m.locations layout)
  modify fun cache => cache.sync layout
  m.persons.forM (m.fill locations)
  let cache ← get
  return Number.sum (m.persons.map (m.personScore cache locations))

end GravityModel

end SpatialAccess
