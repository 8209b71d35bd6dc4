import SpatialAccess.Decimal.Integer
import SpatialAccess.Gravity.Potential
import SpatialAccess.Settings.Group
import SpatialAccess.Zone.Grid

/-!
# Settings of the gravity model

* `GravitySettings`: the values, with defaults for those that may be left out.
* `GravitySettings.ofGroup`, `GravitySettings.ofSettings`: read and check them.
-/

namespace SpatialAccess

/-- Which shops, apart from the candidates, a person takes into account. -/
inductive ShopSampling where
  /-- All of them. -/
  | all
  /-- A random choice, the same for everybody. -/
  | random
  /-- Those in the zone of the person's home. -/
  | zone
  deriving DecidableEq, Repr

namespace ShopSampling

/-- The choice that a text names. -/
def read? (s : String) : Option ShopSampling :=
  match Text.trim s with
  | "all" => some all
  | "random" => some random
  | "zone" => some zone
  | _ => none

/-- Name of a choice in listings. -/
def label : ShopSampling → String
  | all => "All"
  | random => "Random"
  | zone => "Zone"

end ShopSampling

/-- Values that a gravity model is built from. -/
structure GravitySettings (α : Type) where
  /-- Zones along each axis. -/
  zones : Nat
  partition : PartitionMode := .symmetric
  betas : Betas α
  /-- Share of the persons that are scored. -/
  personRate : α
  shopSampling : ShopSampling := .all
  /-- Number of shops in a random choice. -/
  shopNumber : Option Nat := none
  seed : UInt64 := 4711
  deriving DecidableEq

namespace GravitySettings

variable {α : Type} [Number α]

/-- The group the settings are in. -/
def groupName : String := "GravityModel"

/-- Settings without samples. -/
def plain (zones : Nat) (betas : Betas α) : GravitySettings α where
  zones
  betas
  personRate := ((1 : Nat) : α)

/-- The number of zones of a written number, which has to be whole and within the limit. -/
def checkZones (zones : α) : Except (ConfigError α) Nat :=
  if zones < ((1 : Nat) : α) ∨ ¬Number.isWhole zones then .error (.zonesNotWhole groupName zones)
  else if ((Partitioner.limit : Nat) : α) < zones then
    .error (.zonesTooMany groupName Partitioner.limit zones)
  else .ok (Number.toNat zones)

/-- Refuses a share that is not above zero and at most one. -/
def checkRate (rate : α) : Except (ConfigError α) α :=
  if ((0 : Nat) : α) < rate ∧ rate ≤ ((1 : Nat) : α) then .ok rate else .error (.badRate rate)

/-- The settings of a group. -/
def ofGroup (g : Settings.Group) : Except (ConfigError α) (GravitySettings α) := do
  let partition ← PartitionMode.read (← g.require "partition")
  let zones ← checkZones (← g.parse Number.read? "zones")
  let distance ← g.parse Number.read? "betaDistance"
  let capacity ← g.parse Number.read? "betaCapacity"
  let personRate ← checkRate (← g.parseD Number.read? "samplingRatePersons" ((1 : Nat) : α))
  let shopSampling ← g.parseD ShopSampling.read? "samplingTypeShops" .all
  let shopNumber ← g.parse? (Decimal.natural? Decimal.limit64) "samplingNumberShops"
  if shopSampling = .random ∧ shopNumber.isNone then
    .error .missingShopNumber
  let seed ← g.parseD (Decimal.natural? Decimal.limit64) "seed" 4711
  return {
    zones, partition, betas := { distance, capacity }, personRate, shopSampling, shopNumber
    seed := UInt64.ofNat seed }

/-- The settings of the group of their name. -/
def ofSettings (s : Settings) : Except (ConfigError α) (GravitySettings α) := do
  ofGroup (← s.requireGroup groupName)

end GravitySettings

end SpatialAccess
