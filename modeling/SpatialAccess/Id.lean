/-!
# Identifiers

The entities of a scenario are numbered densely from `0`, each kind by itself; an identifier is such
a number, marked with its kind so that a person is never looked up among the links.

* `Id`: an identifier of one kind. `PersonId`, `FacilityId`, `NodeId`, `LinkId`, `ZoneId`,
  `PointId`: the kinds.
* `Id.limit`: identifiers lie below it. `Id.invalid`: the greatest one, never issued.
* `Id.ofIndex?`, `Id.wrap`: the identifier of a number.
* `Id.text`: the kind and the number.
-/

namespace SpatialAccess

/-- What an identifier identifies. -/
inductive Entity where
  | person
  | facility
  | node
  | link
  | zone
  | point
  deriving DecidableEq, Repr

/-- All kinds. -/
def Entity.all : List Entity := [person, facility, node, link, zone, point]

/-- Name of the identifiers of a kind. -/
def Entity.idName : Entity → String
  | person => "PersonId"
  | facility => "FacilityId"
  | node => "NodeId"
  | link => "LinkId"
  | zone => "ZoneId"
  | point => "MeasuringPointId"

/-- Number of an entity among those of its kind. -/
structure Id (entity : Entity) where
  index : Nat
  deriving DecidableEq, Hashable, Repr

abbrev PersonId := Id .person
abbrev FacilityId := Id .facility
abbrev NodeId := Id .node
abbrev LinkId := Id .link
abbrev ZoneId := Id .zone
abbrev PointId := Id .point

namespace Id

variable {entity : Entity}

/-- Identifiers are 32-bit naturals. -/
def limit : Nat := Nat.pow 2 32

/-- The greatest identifier, which stands for none. -/
def invalid : Id entity := ⟨limit - 1⟩

/-- The identifier of a number, if it is small enough. -/
def ofIndex? (index : Nat) : Option (Id entity) :=
  if index < limit then some ⟨index⟩ else none

/-- The identifier of the last 32 bits of a number. -/
def wrap (n : Nat) : Id entity := ⟨n % limit⟩

/-- Kind and number of an identifier. -/
def text (id : Id entity) : String :=
  s!"{entity.idName}({id.index})"

theorem ext_index {a b : Id entity} (h : a.index = b.index) : a = b := by
  cases a; cases b; cases h; rfl

end Id

end SpatialAccess
