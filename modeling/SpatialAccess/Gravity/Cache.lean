import SpatialAccess.Id
import Std.Data.HashMap

/-!
# Remembered utilities

The utility of everything in reach of a person depends on where the candidates are, so what is
remembered is dropped whenever the layout changes. It is also kept under the version that it belongs
to, so that it would not be found under a later one.

* `UtilityCache`: utilities by person and version, and how often they were dropped.
* `UtilityCache.sync`: makes a layout the current one.
-/

namespace SpatialAccess

/-- Utilities by person and version. -/
structure UtilityCache (α : Type) where
  /-- How often everything was dropped. This is a natural and never starts again, as a counter of 64
  bits would after `2 ^ 64` drops. -/
  version : Nat := 0
  /-- The links of the candidates, once there is a layout. -/
  layout : Option (List LinkId) := none
  values : Std.HashMap (PersonId × Nat) α := {}

namespace UtilityCache

variable {α : Type}

/-- Drops everything. -/
def invalidate (c : UtilityCache α) : UtilityCache α :=
  { c with version := c.version + 1, values := {} }

/-- Whether a layout differs from the current one. -/
def isStale (c : UtilityCache α) (layout : List LinkId) : Bool :=
  c.layout != some layout

/-- Makes a layout the current one; drops everything if it differs from the last one. -/
def sync (c : UtilityCache α) (layout : List LinkId) : UtilityCache α :=
  if c.isStale layout then { c with layout := some layout }.invalidate else c

/-- The utility of a person, if it is remembered. -/
def get? (c : UtilityCache α) (person : PersonId) : Option α :=
  c.values[(person, c.version)]?

/-- Remembers the utility of a person. -/
def insert (c : UtilityCache α) (person : PersonId) (value : α) : UtilityCache α :=
  { c with values := c.values.insert (person, c.version) value }

/-- How many utilities are remembered. -/
def size (c : UtilityCache α) : Nat :=
  c.values.size

end UtilityCache

end SpatialAccess
