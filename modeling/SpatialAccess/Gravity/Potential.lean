import SpatialAccess.Facility.Basic

/-!
# Distance decay

How attractive a place is depends on how far away it is and on how much room it has: both are raised
to a power and added.

* `Betas`: the exponents. `Betas.potential`: the attraction.
* `checkCapacity`: whether a capacity can be raised to a power.
-/

namespace SpatialAccess

/-- The exponents of distance and capacity. -/
structure Betas (α : Type) where
  distance : α
  capacity : α
  deriving DecidableEq, Repr

variable {α : Type} [Number α]

/-- What a distance of zero counts as. -/
def minDistance : α := ((10 : Nat) : α)

/-- The attraction of a place at a distance and with a capacity. -/
def Betas.potential (b : Betas α) (distance capacity : α) : α :=
  let d := if distance == ((0 : Nat) : α) then minDistance else distance
  Number.pow d b.distance + Number.pow capacity b.capacity

/-- Refuses a capacity whose power is no real number; one that is not positive needs a positive whole
exponent. -/
def checkCapacity (capacity exponent : α) : Except (DataError α) Unit :=
  if Number.isNaN capacity then .error .undefinedCapacity
  else if ((0 : Nat) : α) < capacity then .ok ()
  else if exponent ≤ ((0 : Nat) : α) ∨ ¬Number.isWhole exponent then
    .error (.refusedCapacity capacity exponent)
  else .ok ()

end SpatialAccess
