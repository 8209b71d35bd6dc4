import SpatialAccess.Facility.Reader
import SpatialAccess.Network.Document
import SpatialAccess.Output.Observer
import SpatialAccess.Program.Lattice
import SpatialAccess.Program.Report
import SpatialAccess.Settings.Document
import SpatialAccess.Text.Aligned

/-!
# Program: accessibility surfaces of a town

The arguments are a settings document, a network document and a facilities document. What is missing
comes from a lattice town of its own.

* `AccessibilityRun.run`: the program. It prints mean values by activity type and mode and writes a
  table for every activity type.
-/

namespace SpatialAccess.AccessibilityRun

open Text (leftAligned rightAligned)

/-! ## The town -/

/-- Six by six crossings, 250 metres apart. -/
def town : Lattice Float := { size := 6, block := 250.0 }

/-- The row of the main street. -/
def mainRow : Nat := 2

/-- The streets of the town; the main street is faster. -/
def townNetwork : Network Float :=
  town.network (fun row => if row = mainRow then 16.7 else 11.1) 11.1

/-- Seconds since midnight of a full hour. -/
def atHour (hour : Nat) : Float :=
  hour.toFloat * 3600.0

/-- A home near every crossing off the main street: label, coordinate and what is offered. -/
def homes : List (String × Point Float × ActivityOption Float) :=
  (town.places.filter fun place => place.2 ≠ mainRow).map fun (column, row) =>
    let corner := town.crossing column row
    (s!"home_{column}_{row}", ⟨corner.x + 40.0, corner.y + 60.0⟩, { activityType := "h" })

/-- A shop on the main street, open from eight to eight on weekdays. -/
def shop (label : String) (column : Nat) (capacity : Float) :
    String × Point Float × ActivityOption Float :=
  let corner := town.crossing column mainRow
  (label, ⟨corner.x, corner.y + 15.0⟩, {
    activityType := "shop", capacity := some capacity
    openingTimes := [⟨.wkday, atHour 8, atHour 20⟩] })

/-- All places of the town. -/
def places : List (String × Point Float × ActivityOption Float) :=
  homes ++
  [ shop "grocer" 1 400.0, shop "bakery" 2 60.0, shop "market" 4 1200.0, shop "kiosk" 5 20.0,
    ("cinema", town.crossing 3 4,
      { activityType := "leisure", openingTimes := [⟨.wk, atHour 14, atHour 23⟩] }),
    ("park", ⟨0.5 * town.block, 0.5 * town.block⟩,
      { activityType := "leisure", capacity := some 50.0 }) ]

/-- The facilities of the town. -/
def townFacilities : Except CreateError (Facilities Float) :=
  places.foldlM (fun fs (label, coord, option) => do
    return (← fs.createWith label coord [option]).2) { name := some "lattice town" }

/-- The settings for the town. -/
def townSettings : Settings :=
  Settings.addGroup {} ([("cellSize", "125"), ("betaCost", "-1"), ("betaCost.pt", "-1.2"),
    ("betaCapacity", "1"), ("modes", "freespeed,car,bike,walk,pt"), ("anchorType", "h")].foldl
      (fun (g : Settings.Group) (key, value) => g.set key value)
      { name := SurfaceSettings.groupName })

/-! ## Means -/

/-- The mean of the values of a column of a surface; zero if there are none. -/
def columnMean (surface : Surface Float) (mode : Mode) : Float :=
  let values := surface.points.toList.filterMap fun p => surface.get? p.id mode
  if values.isEmpty then 0.0 else Number.sum values / values.length.toFloat

/-- The lines of the means of a surface. -/
def meanLines (surface : Surface Float) : List String :=
  surface.modes.map fun mode =>
    leftAligned 12 surface.activityType ++ " " ++ leftAligned 10 mode.name ++ " " ++
      rightAligned 14 (Decimal.fixed 4 (columnMean surface mode))

/-! ## The program -/

/-- The folder of the tables. -/
def outputRoot : String := "output/grid_accessibility"

/-- The settings in one line. -/
def settingsLine (s : SurfaceSettings Float) : String :=
  let modes := ", ".intercalate (s.modes.map Mode.label)
  s!"cell size {Decimal.display s.cellSize} m, modes [{modes}], betas " ++
    "Betas \x7b distance: " ++ Decimal.spelled s.betas.distance ++
    ", capacity: " ++ Decimal.spelled s.betas.capacity ++ " \x7d"

open Session

/-- The settings of the first argument, or those for the town. -/
def readSettings (argument : Option Argument) : Session (SurfaceSettings Float) := do
  let settings ← match argument with
    | some file => orStop .config (Settings.ofFile file)
    | none => pure townSettings
  orStop .config (SurfaceSettings.ofSettings settings)

/-- The network of the second argument, or that of the town. -/
def readNetwork (argument : Option Argument) : Session (Network Float) :=
  match argument with
  | some file => orStop .network (Network.ofFile file)
  | none => pure townNetwork

/-- The facilities of the third argument, or those of the town. -/
def readFacilities (argument : Option Argument) : Session (Facilities Float) :=
  match argument with
  | some file => orStop .scenario (Facilities.ofFile file)
  | none => orStop .create townFacilities

/-- The whole program. -/
def session (arguments : List Argument) : Session Unit := do
  print "=== grid_accessibility ==="
  let settings ← readSettings arguments[0]?
  print (settingsLine settings)
  let network ← readNetwork arguments[1]?
  let facilities ← readFacilities arguments[2]?
  print s!"network: {network.nodes.size} nodes, {network.links.size} links; {facilities.size} facilities"
  let model ← orStop .surface
    (SurfaceModel.build settings network (Network.leastCosts settings.speeds) none)
  print s!"measuring grid: {model.grid.columns} x {model.grid.rows} = {model.grid.size} points"
  let (events, outcome) := model.run facilities
  let written := WriteObserver.observeAll .toFolder { state := { root := outputRoot } } events
  writeFiles written.state.files
  let surfaces ← orStop .surface outcome
  if let some e := written.error? then throw (.output e)
  addLine (.timed s!"computed {surfaces.length} activity types")
  print ""
  print (leftAligned 12 "Type" ++ " " ++ leftAligned 10 "Mode" ++ " " ++
    rightAligned 14 "Mean access.")
  print tableRule
  (surfaces.flatMap meanLines).forM print
  written.state.written.forM fun path => print ("  " ++ path)

/-- What the program prints and writes. -/
def run (arguments : List Argument) : Report :=
  (session arguments).report

end SpatialAccess.AccessibilityRun
