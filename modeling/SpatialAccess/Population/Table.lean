import SpatialAccess.Facility.Document
import SpatialAccess.Population.Basic
import SpatialAccess.Table.Reader

/-!
# Population tables

A row of a population table is one activity of one plan of one person. Persons come in order of
first appearance, their plans by plan number, and the activities of a plan in row order; the plan
of the smallest number counts.

* `PopulationRow`: a row. `PopulationRow.ofFields`: from the texts of its columns.
* `PopulationRow.activity`: the activity that a row stands for.
* `PlanTable`: rows grouped by person and plan. `PlanTable.add`: a row more.
* `Population.ofRows`, `Population.ofTable`, `Population.ofFile`: the population of rows, of the
  bytes of a table, of a file that may be missing.
-/

namespace SpatialAccess

/-- One activity of a plan of a person. -/
structure PopulationRow (α : Type) where
  person : String
  plan : Nat
  activityType : String
  x : Option α
  y : Option α
  facility : Option String
  endTime : Option String
  deriving DecidableEq, Repr

namespace PopulationRow

variable {α : Type} [Number α]

/-- The columns of a population table. -/
def columns : List String :=
  ["person_id", "plan", "activity_type", "x", "y", "facility_id", "end_time"]

/-- The row of the texts of its columns; nothing if a number is unreadable or one of the first three
columns is missing. -/
def ofFields : List (Option String) → Option (PopulationRow α)
  | [person, plan, activityType, x, y, facility, endTime] => do
    return {
      person := ← person
      plan := ← plan.bind (Decimal.naturalOrHex? Decimal.limit32)
      activityType := ← activityType
      x := ← Table.optionalWith Number.read? x
      y := ← Table.optionalWith Number.read? y
      facility := Table.optional facility
      endTime := Table.optional endTime }
  | _ => none

/-- A text without the blanks around it, if anything is left. -/
def trimmed? (field : Option String) : Option String :=
  (field.map Text.trim).filter fun s => !s.isEmpty

/-- The facility a row refers to, if it does. -/
def facilityId? (row : PopulationRow α) (facilities : Facilities α) :
    Except (ScenarioError α) (Option FacilityId) :=
  match trimmed? row.facility with
  | none => .ok none
  | some label =>
    match facilities.lookup? label with
    | some id => .ok (some id)
    | none => .error (.data (.unknownFacility row.person label))

/-- The coordinate of a row: its own, or else its facility's. -/
def coord (row : PopulationRow α) (facilities : Facilities α) (facility? : Option FacilityId) :
    Except (ScenarioError α) (Point α) :=
  match row.x, row.y, facility?.bind facilities.get? with
  | some x, some y, _ => .ok ⟨x, y⟩
  | _, _, some f => .ok f.coord
  | _, _, none => .error (.noLocation row.activityType row.person)

/-- The end time of a row, if it has one. -/
def endTime? (row : PopulationRow α) : Except (ScenarioError α) (Option α) :=
  match trimmed? row.endTime with
  | none => .ok none
  | some text => ((Clock.read text).mapError .time).map some

/-- The activity that a row stands for. -/
def activity (row : PopulationRow α) (facilities : Facilities α) :
    Except (ScenarioError α) (Activity α) := do
  let facility? ← row.facilityId? facilities
  let coord ← row.coord facilities facility?
  let endTime? ← row.endTime?
  return { activityType := row.activityType, coord, facility?, endTime? }

end PopulationRow

/-! ## Grouping rows -/

/-- What has been read of a table: all persons in order of first appearance, and for each of them
the activities of every plan, by plan number. -/
structure PlanTable (α : Type) where
  order : Array String := #[]
  byPerson : Std.HashMap String (Std.TreeMap Nat (Array (Activity α))) := {}

namespace PlanTable

variable {α : Type}

/-- The plans of a person by number; none for somebody who has not appeared. -/
def plans (t : PlanTable α) (person : String) : Std.TreeMap Nat (Array (Activity α)) :=
  t.byPerson.getD person {}

/-- A table with an activity more at the end of a plan. -/
def add (t : PlanTable α) (person : String) (plan : Nat) (a : Activity α) : PlanTable α where
  order := if t.byPerson.contains person then t.order else t.order.push person
  byPerson := t.byPerson.insert person
    ((t.plans person).insert plan (((t.plans person).getD plan #[]).push a))

/-- A table with a row more. -/
def addRow [Number α] (facilities : Facilities α) (t : PlanTable α) (row : PopulationRow α) :
    Except (ScenarioError α) (PlanTable α) := do
  return t.add row.person row.plan (← row.activity facilities)

end PlanTable

namespace Population

variable {α : Type}

/-- A population with one more person, who has the given plans. -/
def addPerson (population : Population α) (label : String) (plans : List (Plan α)) :
    Except (ScenarioError α) (Population α) := do
  let (id, population) ← (population.create label).mapError .create
  return population.modify id fun p => (plans.foldl Person.addPlan p).selectPlan 0

/-- Moves the plans of a person from a table to a population. -/
def takePerson (state : PlanTable α × Population α) (label : String) :
    Except (ScenarioError α) (PlanTable α × Population α) := do
  let (table, population) := state
  let plans := (table.plans label).toList.map fun (_, activities) => activities.toList
  let rest := { table with byPerson := table.byPerson.erase label }
  return (rest, ← population.addPerson label plans)

/-- The population of a table. -/
def ofPlanTable (table : PlanTable α) : Except (ScenarioError α) (Population α) := do
  return (← table.order.toList.foldlM takePerson (table, {})).2

variable [Number α]

/-- The population of rows; the first row that stands for no activity is an error. -/
def ofRows (rows : List (PopulationRow α)) (facilities : Facilities α) :
    Except (ScenarioError α) (Population α) := do
  ofPlanTable (← rows.foldlM (PlanTable.addRow facilities) {})

/-- A table with a record more; one that is no row is an error. -/
def addRecord (facilities : Facilities α) (table : PlanTable α) (fields : List (Option String)) :
    Except (ScenarioError α) (PlanTable α) :=
  match PopulationRow.ofFields fields with
  | some row => table.addRow facilities row
  | none => .error .badRecord

/-- The population of the bytes of a table. A malformed record is an error behind those of the rows
before it. -/
def ofTable (bytes : List UInt8) (facilities : Facilities α) :
    Except (ScenarioError α) (Population α) := do
  let (records, isAll) := Table.rows PopulationRow.columns PopulationRow.columns.length bytes
  let table ← records.foldlM (addRecord facilities) {}
  if isAll then ofPlanTable table else .error .badRecord

/-- The population in a file; `none` stands for a file that is not there. -/
def ofFile (file : Option (List UInt8)) (facilities : Facilities α) :
    Except (ScenarioError α) (Population α) :=
  match file with
  | some bytes => ofTable bytes facilities
  | none => .error .unreadable

end Population

end SpatialAccess
