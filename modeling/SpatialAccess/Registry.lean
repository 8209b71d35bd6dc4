import SpatialAccess.Call
import SpatialAccess.Id
import SpatialAccess.Text.Quoted
import Std.Data.HashMap

/-!
# Entities under labels

* `Registry`: the entities of one kind, by number and by label; labels are distinct.
* `Registry.createM`: puts a new entity at the end.
* `CreateError`: why an entity cannot be created.
-/

namespace SpatialAccess

/-- Why an entity cannot be created. -/
inductive CreateError where
  | duplicate (kind label : String)
  | tooMany (kinds : String)
  deriving DecidableEq, Repr

/-- Words for an entity that cannot be created. -/
def CreateError.message : CreateError → String
  | duplicate kind label => s!"duplicate {kind} id {Text.quote label}"
  | tooMany kinds => s!"scenario parse error: too many {kinds}"

/-- The entities of one kind. -/
structure Registry (entity : Entity) (β : Type) where
  list : Array β := #[]
  byLabel : Std.HashMap String (Id entity) := {}

namespace Registry

variable {entity : Entity} {β : Type}

/-- Number of entities. -/
def size (r : Registry entity β) : Nat :=
  r.list.size

/-- Creates an entity, which gets the next identifier, unless its label is taken or identifiers are
used up. `kind` and `kinds` are words for one and for several of them. -/
def createM (kind kinds label : String) (new : Id entity → β) :
    ExceptT CreateError (StateM (Registry entity β)) (Id entity) := do
  if (← get).byLabel.contains label then
    throw (.duplicate kind label)
  let some id := Id.ofIndex? (← get).size | throw (.tooMany kinds)
  modify fun r => { r with byLabel := r.byLabel.insert label id }
  modify fun r => { r with list := r.list.push (new id) }
  return id

end Registry

end SpatialAccess
