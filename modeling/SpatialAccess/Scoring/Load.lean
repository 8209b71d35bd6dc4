import SpatialAccess.Id
import SpatialAccess.Number
import Std.Data.HashMap

/-!
# Load of facilities

Visitors are counted in bins of a quarter of an hour; a visitor counts in every bin that the visit
meets.

* `loadBins`: the bins that a span meets.
* `FacilityLoad`: visitors by bin. `FacilityLoad.addVisitor`, `FacilityLoad.penaltyFactor`.
* `PenaltyRecord`: a part of a stay that may be penalised.
* `Penalty`: which parts are, and how much is taken off.
-/

namespace SpatialAccess

/-- The visitors of a facility in every bin. -/
structure FacilityLoad (α : Type) where
  capacity : α
  bins : Array α := #[]
  deriving Repr

/-- A part of a stay, with the score that it added. -/
structure PenaltyRecord (α : Type) where
  facility? : Option FacilityId
  start : α
  stop : α
  improvement : α
  deriving DecidableEq, Repr

/-- What is taken off the score. -/
inductive Penalty (α : Type) where
  | none
  /-- A share of what was gained in crowded shops and leisure facilities. -/
  | facilityLoad (loads : Std.HashMap FacilityId (FacilityLoad α)) (factor exponent : α)

variable {α : Type} [Number α]

/-- Width of a bin in seconds. -/
def binWidth : α := ((900 : Nat) : α)

/-- The bins that a span meets; a span that does not end behind its start meets none. -/
def loadBins (start stop : α) : List Nat :=
  let zero : α := ((0 : Nat) : α)
  if start < stop then
    let first := Number.toNat (Number.upper start zero / binWidth)
    let last := Number.ceilNat (Number.upper stop zero / binWidth)
    (List.range (last - first)).map (first + ·)
  else []

namespace FacilityLoad

/-- The number of visitors in a bin. -/
def visitors (l : FacilityLoad α) (bin : Nat) : α :=
  l.bins.getD bin ((0 : Nat) : α)

/-- A load with a visitor more in one bin. -/
def addToBin (l : FacilityLoad α) (bin : Nat) : FacilityLoad α :=
  let missing := Array.replicate (bin + 1 - l.bins.size) ((0 : Nat) : α)
  { l with bins := (l.bins ++ missing).modify bin (· + ((1 : Nat) : α)) }

/-- A load with a visitor more in every bin that a visit meets. -/
def addVisitor (l : FacilityLoad α) (start stop : α) : FacilityLoad α :=
  (loadBins start stop).foldl addToBin l

/-- The share that is taken off what was gained in a span: the mean over its bins, at most one. -/
def penaltyFactor (l : FacilityLoad α) (start stop factor exponent : α) : α :=
  let bins := loadBins start stop
  if ¬((0 : Nat) : α) < l.capacity ∨ bins.isEmpty then ((0 : Nat) : α)
  else
    let restraint (bin : Nat) : α := factor * Number.pow (l.visitors bin / l.capacity) exponent
    Number.lower (Number.sum (bins.map restraint) / (bins.length : α)) ((1 : Nat) : α)

end FacilityLoad

namespace Penalty

/-- Whether parts of stays of an activity type are penalised: those of shops and of leisure. -/
def appliesTo (p : Penalty α) (activityType : String) : Bool :=
  match p with
  | none => false
  | facilityLoad .. => activityType.startsWith "shop" || activityType.startsWith "leisure"

/-- What is taken off for a part of a stay. -/
def amount (p : Penalty α) (r : PenaltyRecord α) : α :=
  match p with
  | none => ((0 : Nat) : α)
  | facilityLoad loads factor exponent =>
    match r.facility?.bind fun id => loads[id]? with
    | some load => r.improvement * load.penaltyFactor r.start r.stop factor exponent
    | _ => ((0 : Nat) : α)

end Penalty

end SpatialAccess
