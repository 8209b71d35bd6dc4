import SpatialAccess.Gravity.Search
import SpatialAccess.Program.Lattice
import SpatialAccess.Program.Report
import SpatialAccess.Settings.Document
import SpatialAccess.Text.Aligned

/-!
# Program: siting two new shops

The argument is a settings document for the gravity model. In a lattice town with two shops, a search
places two more. Then everybody shops where the attraction is greatest, and the days that come of it
are scored, with crowded shops worth less.

* `RetailSiting.scenario`: shops, homes and persons.
* `RetailSiting.favourite?`: the shop of greatest attraction.
* `RetailSiting.run`: the program.
-/

namespace SpatialAccess.RetailSiting

open Text (leftAligned rightAligned)

/-! ## The town -/

/-- Eight by eight crossings, 300 metres apart. -/
def town : Lattice Float := { size := 8, block := 300.0 }

/-- The streets of the town. -/
def townNetwork : Network Float :=
  town.network (fun _ => 13.9) 13.9

/-- Length of a side of the town. -/
def extent : Float := 7.0 * town.block

/-- Seed of the scenario and of the search. -/
def seed : UInt64 := 7

/-- Number of persons. -/
def personCount : Nat := 400

/-- When shopping begins. -/
def shopStart : Float := 17.0 * 3600.0

/-- When shopping ends. -/
def shopEnd : Float := 18.0 * 3600.0

/-- Everything a search starts from. -/
structure Scenario where
  facilities : Facilities Float := {}
  population : Population Float := {}
  /-- The shops to be placed. -/
  candidates : List FacilityId := []

/-- A scenario with a shop more. -/
def addShop (s : Scenario) (label : String) (coord : Point Float) (capacity : Float) :
    Except CreateError (FacilityId × Scenario) := do
  let option := { activityType := GravityModel.shopType, capacity := some capacity }
  let (id, facilities) ← s.facilities.createWith label coord [option]
  return (id, { s with facilities })

/-- A scenario with a shop more that is to be placed; it stands in the middle of the town for now. -/
def addCandidate (s : Scenario) (label : String) (capacity : Float) :
    Except CreateError Scenario := do
  let (id, s) ← addShop s label ⟨extent / 2.0, extent / 2.0⟩ capacity
  return { s with candidates := s.candidates ++ [id] }

/-- A scenario with a home more, and a person who leaves it for shopping. -/
def addResident (s : Scenario) (number : Nat) (home : Point Float) :
    Except CreateError Scenario := do
  let (id, facilities) ← s.facilities.createWith s!"home_{number}" home [{ activityType := "h" }]
  let stay : Activity Float :=
    { activityType := "h", coord := home, facility? := some id, endTime? := some shopStart }
  let (_, population) ← s.population.createWith s!"p{number}" [[stay]]
  return { s with facilities, population }

/-- The shops of the town, and those to be placed. -/
def shopsOnly : Except CreateError Scenario := do
  let (_, s) ← addShop {} "corner" ⟨150.0, 300.0⟩ 80.0
  let (_, s) ← addShop s "mall" ⟨600.0, 450.0⟩ 2500.0
  let s ← addCandidate s "new_grocer" 600.0
  addCandidate s "new_discounter" 1200.0

/-- A random home: every third one anywhere in the town, the others in its north-east quarter. -/
def drawHome (number : Nat) : Draw (Point Float) := do
  let low := if number % 3 = 0 then 0.0 else extent / 2.0
  return ⟨← Draw.between low extent Draw.patience, ← Draw.between low extent Draw.patience⟩

/-- All homes. -/
def drawHomes : Draw (List (Point Float)) :=
  (List.range personCount).mapM drawHome

/-- The scenario with its homes. -/
def scenario (homes : List (Point Float)) : Except CreateError Scenario := do
  homes.zipIdx.foldlM (fun s (home, number) => addResident s number home) (← shopsOnly)

/-- The settings for the town. -/
def townSettings : Settings :=
  Settings.addGroup {} ([("zones", "4"), ("partition", "symmetric"), ("betaDistance", "-2"),
    ("betaCapacity", "1"), ("samplingRatePersons", "0.5"), ("samplingTypeShops", "all"),
    ("seed", toString seed)].foldl (fun (g : Settings.Group) (key, value) => g.set key value)
      { name := GravitySettings.groupName })

/-! ## Going shopping -/

/-- The first entry with the greatest value. -/
def favourite? {β : Type} (value : β → Float) : List β → Option β
  | [] => none
  | shop :: shops =>
    some (shops.foldl (fun best next => if value best < value next then next else best) shop)

/-- The shops where they stand once the candidates are placed. -/
def placedShops (model : GravityModel Float) (layout : List LinkId) :
    List (FacilityId × Point Float) :=
  let others := model.index.shops.filter fun s => !model.candidates.contains s.facility
  let placed := (model.candidates.zip layout).filterMap fun (id, link) =>
    (model.network.midpoint? link).map fun middle => (id, middle)
  others.map (fun s => (s.facility, s.coord)) ++ placed

/-- The day of a person who goes shopping after the first activity. -/
def shoppingDay (facilities : Facilities Float) (first : Activity Float) (shop : FacilityId) :
    Option (Plan Float) := do
  let place ← facilities.get? shop
  let visit : Activity Float := {
    activityType := GravityModel.shopType, coord := place.coord, facility? := some shop
    endTime? := some shopEnd }
  return [first, visit, { first with endTime? := none }]

/-- The shop a person chooses, and the day that comes of it. -/
def shoppingTrip? (s : Scenario) (model : GravityModel Float)
    (shops : List (FacilityId × Point Float)) (person : Person Float) :
    Option (FacilityId × Plan Float) := do
  let home ← person.home? s.facilities
  let (shop, _) ← favourite? (fun x => model.attractionOf home x.2 x.1) shops
  return (shop, ← shoppingDay s.facilities (← person.firstActivity?) shop)

/-- The load of the shops by the visits of all trips. -/
def shopLoads (model : GravityModel Float) (trips : List (FacilityId × Plan Float)) :
    Std.HashMap FacilityId (FacilityLoad Float) :=
  trips.foldl (fun loads (shop, _) =>
    let load := loads[shop]?.getD { capacity := model.capacityOf shop }
    loads.insert shop (load.addVisitor shopStart shopEnd)) {}

/-- How days are scored. -/
def scoringSettings : ScoringSettings Float where
  params := (ScoringParams.standard.withTypical "h" (16.0 * 3600.0)).withTypical
    GravityModel.shopType 3600.0
  penalty := .facilityLoad
  restraintFactor := 1.0
  restraintExponent := 2.0

/-- Visitors and mean score of a shop, out of the shops and scores of all trips. -/
def shopLine (facilities : Facilities Float) (scores : List (FacilityId × Float))
    (shop : FacilityId) : String :=
  let own := (scores.filter fun s => s.1 = shop).map Prod.snd
  let total := own.foldl (· + ·) 0.0
  leftAligned 16 ((facilities.label? shop).getD "") ++ " " ++
    rightAligned 8 (toString own.length) ++ " " ++
    rightAligned 12 (Decimal.fixed 3 (total / own.length.toFloat))

/-! ## The program -/

open Session

/-- The settings of the argument, or those for the town. -/
def readSettings (argument : Option Argument) : Session (GravitySettings Float) := do
  let settings ← match argument with
    | some file => orStop .config (Settings.ofFile file)
    | none => pure townSettings
  orStop .config (GravitySettings.ofSettings settings)

/-- Number of moves of the search. -/
def moveCount : Nat := 200

/-- Where a candidate was placed, in one line. -/
def placeLine (facilities : Facilities Float) (network : Network Float) (id : FacilityId)
    (link : LinkId) : String :=
  let middle := (network.midpoint? link).getD ⟨Number.undefined, Number.undefined⟩
  "  " ++ leftAligned 16 ((facilities.label? id).getD "") ++ " -> link " ++
    leftAligned 10 ((network.linkLabel? link).getD "") ++
    s!" at ({Decimal.fixed 0 middle.x}, {Decimal.fixed 0 middle.y})"

/-- The whole program. -/
def session (arguments : List Argument) : Session Unit := do
  print "=== retail_siting ==="
  let settings ← readSettings arguments[0]?
  let network := townNetwork
  let (homes, stream) := drawHomes.run (Stream.ofSeed seed)
  let s ← orStop .create (scenario homes)
  print (s!"network: {network.links.size} links; {s.population.size} persons; " ++
    s!"{s.facilities.size} facilities; {s.candidates.length} candidates")
  let model ← orStop .gravity
    (GravityModel.build settings network s.population s.facilities s.candidates)
  let best ← orStop .data
    (((model.localSearch network.linkIds moveCount).run.run {}).run stream).1.1
  addLine (.timed s!"best score {Decimal.fixed 4 best.score} after {moveCount} moves")
  (s.candidates.zip best.links).forM fun (id, link) =>
    print (placeLine s.facilities network id link)
  let shops := placedShops model best.links
  let trips := s.population.list.toList.filterMap (shoppingTrip? s model shops)
  let pipeline := ScoringPipeline.ofSettings scoringSettings (shopLoads model trips)
  let scores ← trips.mapM fun (shop, plan) => do
    return (shop, (← orStop .scoring (pipeline.scorePlan s.facilities plan)).total)
  print ""
  print (leftAligned 16 "Shop" ++ " " ++ rightAligned 8 "Visitors" ++ " " ++
    rightAligned 12 "Mean score")
  print tableRule
  let visited := (scores.map Prod.fst).eraseDups.mergeSort fun a b => a.index ≤ b.index
  visited.forM fun shop => print (shopLine s.facilities scores shop)

/-- What the program prints. -/
def run (arguments : List Argument) : Report :=
  (session arguments).report

end SpatialAccess.RetailSiting
