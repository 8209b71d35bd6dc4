import SpatialAccess.Text.Blank

/-!
# Travel modes

* `Mode`: how a trip is made. `Mode.all`: the modes in the order of output columns.
* `Mode.name`, `Mode.read?`: a mode as text.
* `Mode.isRouted`: whether its cost comes from a path on the network.
* `Mode.normalize`: a list of modes in column order, each once.
-/

namespace SpatialAccess

/-- How a trip is made. -/
inductive Mode where
  /-- Car at free speed. -/
  | freeSpeed
  /-- Car with congested travel times, where there are any. -/
  | car
  | bike
  | walk
  /-- Public transport along the beeline. -/
  | transit
  deriving DecidableEq, Repr

namespace Mode

/-- All modes in the order of output columns. -/
def all : List Mode := [freeSpeed, car, bike, walk, transit]

/-- Name in settings and column titles. -/
def name : Mode → String
  | freeSpeed => "freespeed"
  | car => "car"
  | bike => "bike"
  | walk => "walk"
  | transit => "pt"

/-- Name in messages that list modes. -/
def label : Mode → String
  | freeSpeed => "FreeSpeed"
  | car => "Car"
  | bike => "Bike"
  | walk => "Walk"
  | transit => "Pt"

/-- Whether trips follow least-cost paths on the network instead of the beeline. -/
def isRouted : Mode → Bool
  | transit => false
  | _ => true

/-- The text that a mode's name is compared with: no blanks around it, ASCII letters small. -/
def key (s : String) : String :=
  Text.lower (Text.trim s)

/-- The mode of a name; blanks around it and the case of its letters do not matter. -/
def read? (s : String) : Option Mode :=
  match key s with
  | "freespeed" => some freeSpeed
  | "free_speed" => some freeSpeed
  | "car" => some car
  | "walk" => some walk
  | "bike" => some bike
  | "pt" => some transit
  | _ => none

/-- The modes of a list in column order, each once. -/
def normalize (modes : List Mode) : List Mode :=
  all.filter modes.contains

/-- Every mode has a column. -/
theorem mem_all (m : Mode) : m ∈ all := by
  cases m <;> simp [all]

/-- No mode has two columns. -/
theorem nodup_all : all.Nodup := by
  decide

end Mode

end SpatialAccess
