import SpatialAccess.Gravity.Potential
import SpatialAccess.Surface.Basic

/-!
# Opportunities

* `Opportunity`: a facility that one may want to reach, with the node closest to it.
* `OpportunitySet`: the opportunities of one activity type. `OpportunitySet.ofType`: all facilities
  that offer it. `OpportunitySet.ofFacilities`: given facilities.
-/

namespace SpatialAccess

/-- A facility that one may want to reach. -/
structure Opportunity (α : Type) where
  facility : FacilityId
  coord : Point α
  node : NodeId
  /-- Beeline from the node. -/
  egress : α
  capacity : α
  deriving Repr, DecidableEq

/-- The opportunities of one activity type. -/
structure OpportunitySet (α : Type) where
  activityType : String
  items : List (Opportunity α)
  deriving Repr, DecidableEq

variable {α : Type} [Number α]

/-- A facility as an opportunity; an option without a capacity counts as `1`. -/
def Opportunity.ofFacility (activityType : String) (facilities : Facilities α)
    (network : Network α) (exponent : α) (id : FacilityId) :
    Except (SurfaceError α) (Opportunity α) := do
  let some facility := facilities.get? id | .error (.data (.noFacility id))
  let capacity ← (facility.capacityD activityType ((1 : Nat) : α)).mapError SurfaceError.data
  (checkCapacity capacity exponent).mapError SurfaceError.data
  let some (node, egress) := network.attach? facility.coord | .error (.network .emptyNetwork)
  return { facility := id, coord := facility.coord, node, egress, capacity }

namespace OpportunitySet

/-- Number of opportunities. -/
def size (s : OpportunitySet α) : Nat :=
  s.items.length

/-- Given facilities as opportunities. -/
def ofFacilities (activityType : String) (ids : List FacilityId) (facilities : Facilities α)
    (network : Network α) (exponent : α) : Except (SurfaceError α) (OpportunitySet α) := do
  let items ← ids.mapM (Opportunity.ofFacility activityType facilities network exponent)
  return { activityType, items }

/-- All facilities that offer an activity type as opportunities. -/
def ofType (activityType : String) (facilities : Facilities α) (network : Network α)
    (exponent : α) : Except (SurfaceError α) (OpportunitySet α) :=
  ofFacilities activityType (facilities.idsOffering activityType) facilities network exponent

end OpportunitySet

end SpatialAccess
