import SpatialAccess.Facility.Basic

/-!
# Persons and their plans

A plan is an ordered list of activities; the place of the first one is the person's home.

* `Activity`, `Plan`, `Person`: the parts.
* `Population`: all persons, by number and by label; labels are distinct.
-/

namespace SpatialAccess

/-- One activity of a plan. -/
structure Activity (α : Type) where
  activityType : String
  coord : Point α
  facility? : Option FacilityId := none
  /-- Seconds since midnight; the last activity of a day may have none. -/
  endTime? : Option α := none
  deriving DecidableEq, Repr

/-- The activities of a day in order. -/
abbrev Plan (α : Type) := List (Activity α)

/-- A person, the plans, and the number of the plan that counts. -/
structure Person (α : Type) where
  id : PersonId
  label : String
  plans : Array (Plan α) := #[]
  selected : Nat := 0
  deriving Repr

variable {α : Type}

/-- Where an activity takes place: at its facility, or else at its own coordinate. -/
def Activity.location (a : Activity α) (facilities : Facilities α) : Point α :=
  match a.facility?.bind facilities.get? with
  | some f => f.coord
  | none => a.coord

namespace Person

/-- A person with one more plan, behind the others. -/
def addPlan (p : Person α) (plan : Plan α) : Person α :=
  { p with plans := p.plans.push plan }

/-- A person for whom another plan counts; a number without a plan changes nothing. -/
def selectPlan (p : Person α) (index : Nat) : Person α :=
  if index < p.plans.size then { p with selected := index } else p

/-- The plan that counts. -/
def selectedPlan? (p : Person α) : Option (Plan α) :=
  p.plans[p.selected]?

/-- The first activity of the plan that counts. -/
def firstActivity? (p : Person α) : Option (Activity α) :=
  p.selectedPlan?.bind List.head?

/-- Where the first activity takes place. -/
def home? (p : Person α) (facilities : Facilities α) : Option (Point α) :=
  p.firstActivity?.map fun a => a.location facilities

end Person

/-- All persons of a scenario. -/
structure Population (α : Type) extends Registry .person (Person α)

namespace Population

/-- Number of persons. -/
def size (population : Population α) : Nat :=
  population.list.size

/-- The person of an identifier. -/
def get? (population : Population α) (id : PersonId) : Option (Person α) :=
  population.list[id.index]?

/-- The person of a label. -/
def lookup? (population : Population α) (label : String) : Option PersonId :=
  population.byLabel[label]?

/-- Creates a person, who has no plans yet. -/
def createM (label : String) : ExceptT CreateError (StateM (Population α)) PersonId :=
  .onPart Population.toRegistry (fun population r => { population with toRegistry := r })
    (Registry.createM "person" "persons" label fun id => { id, label })

/-- A population with a new person at the end, who gets the next identifier. -/
def create (population : Population α) (label : String) :
    Except CreateError (PersonId × Population α) :=
  (createM label).attempt population

/-- The label of a person. -/
def label? (population : Population α) (id : PersonId) : Option String :=
  (population.get? id).map Person.label

/-- Changes the person of an identifier, if there is one. -/
def modify (population : Population α) (id : PersonId) (change : Person α → Person α) :
    Population α :=
  { population with list := population.list.modify id.index change }

/-- A population with a new person who has plans. -/
def createWith (population : Population α) (label : String) (plans : List (Plan α)) :
    Except CreateError (PersonId × Population α) := do
  let (id, population) ← population.create label
  return (id, population.modify id fun p => plans.foldl Person.addPlan p)

end Population

end SpatialAccess
