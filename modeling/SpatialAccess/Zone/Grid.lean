import SpatialAccess.Facility.Basic
import SpatialAccess.Population.Basic
import SpatialAccess.Settings.Error

/-!
# Zones

A partition of order `n` cuts a box into `n` equal columns and `n` equal rows. Zone `i * n + j` is
column `i` and row `j`. Zones hold their lower edges but not their upper ones, except that the last
column and the last row hold both; so every point of the box is in exactly one zone. The order is
small enough for the numbers of all zones to fit 32 bits.

* `Axis`: the edges along one axis. `Axis.cell`: the cell of a value.
* `Zone`: one rectangle. `Zone.contains`: membership.
* `ZoneGrid`: all zones. `ZoneGrid.zoneOf?`: the zone of a point, computed from the edges.
* `Partitioner`: makes zone grids of one order.
-/

namespace SpatialAccess

/-- How a box is divided: in equal parts on both axes. -/
inductive PartitionMode where
  | symmetric
  deriving DecidableEq, Repr

/-- Name of a way to divide. -/
def PartitionMode.name : PartitionMode → String
  | symmetric => "symmetric"

/-- The way to divide that a text names. -/
def PartitionMode.read {α : Type} (s : String) : Except (ConfigError α) PartitionMode :=
  match Text.trim s with
  | "symmetric" => .ok symmetric
  | other => .error (.unknownPartition other)

/-! ## One axis -/

/-- The edges of the cells along one axis; cell `k` lies between edges `k` and `k + 1`. -/
structure Axis (α : Type) where
  edges : Array α
  two_le_size : 2 ≤ edges.size

namespace Axis

variable {α : Type}

/-- Number of cells. -/
def cells (a : Axis α) : Nat :=
  a.edges.size - 1

theorem cells_pos (a : Axis α) : 0 < a.cells := by
  have := a.two_le_size
  unfold cells
  omega

/-- The edge below cell `k`, which is the one above cell `k - 1`. -/
def edge (a : Axis α) (k : Nat) (h : k ≤ a.cells) : α :=
  have inRange : k < a.edges.size := by have := a.two_le_size; unfold cells at h; omega
  a.edges[k]

/-- The edge below all cells. -/
def first (a : Axis α) : α :=
  a.edge 0 (Nat.zero_le _)

/-- The edge above all cells. -/
def last (a : Axis α) : α :=
  a.edge a.cells (Nat.le_refl _)

variable [Number α]

/-- `n` cells of one width between two ends; the last edge is the upper end itself. -/
def equal (low high : α) (n : Nat) (h : 0 < n) : Axis α :=
  let step := (high - low) / (n : α)
  { edges := ((List.range n).map fun (k : Nat) => low + (k : α) * step).toArray.push high
    two_le_size := by simp; omega }

theorem cells_equal (low high : α) (n : Nat) (h : 0 < n) : (equal low high n h).cells = n := by
  simp [equal, cells]

/-- Where a value would be if all cells had exactly the same width. -/
def guess (a : Axis α) (v : α) : Fin a.cells :=
  let step := (a.last - a.first) / (a.cells : α)
  if ((0 : Nat) : α) < step ∧ a.first < v then
    ⟨min (Number.toNat ((v - a.first) / step)) (a.cells - 1), by have := a.cells_pos; omega⟩
  else ⟨0, a.cells_pos⟩

/-- Goes down from cell `k` while the value is below its lower edge. -/
def descend (a : Axis α) (v : α) : (k : Nat) → k < a.cells → Fin a.cells
  | 0, h => ⟨0, h⟩
  | k + 1, h => if v < a.edge (k + 1) (Nat.le_of_lt h) then a.descend v k (by omega) else ⟨k + 1, h⟩

/-- Goes up from cell `k` while the value is not below its upper edge. -/
def ascend (a : Axis α) (v : α) (k : Fin a.cells) : Fin a.cells :=
  if h : k.val + 1 < a.cells then
    if a.edge (k.val + 1) (Nat.le_of_lt h) ≤ v then a.ascend v ⟨k.val + 1, h⟩ else k
  else k
termination_by a.cells - k.val

/-- The cell of a value; values beyond the ends belong to the first or to the last one. The guess is
corrected by the edges, since rounding may put it on the wrong side of one. -/
def cell (a : Axis α) (v : α) : Fin a.cells :=
  let k := a.guess v
  a.ascend v (a.descend v k.val k.isLt)

end Axis

/-! ## Zones and grids -/

/-- A facility as somewhere to go to, with its place. -/
structure Destination (α : Type) where
  facility : FacilityId
  coord : Point α
  deriving Repr, DecidableEq

/-- One rectangle of a grid, and who and what has been sorted into it. -/
structure Zone (α : Type) where
  id : ZoneId
  box : Box α
  /-- Whether the rectangle holds its right edge. -/
  closedX : Bool
  /-- Whether the rectangle holds its upper edge. -/
  closedY : Bool
  persons : Array PersonId := #[]
  shops : Array (Destination α) := #[]
  deriving Repr, DecidableEq

/-- The zones of one partition, with the edges of their columns and rows. -/
structure ZoneGrid (α : Type) where
  box : Box α
  order : Nat
  xs : Axis α
  ys : Axis α
  /-- All zones, column by column. -/
  zones : Array (Zone α)
  columns : xs.cells = order
  rows : ys.cells = order
  size_zones : zones.size = order * order

variable {α : Type} [Number α]

namespace Zone

/-- Whether a value is between two edges; the upper one counts only if `closed`. -/
def within (low high : α) (closed : Bool) (v : α) : Bool :=
  decide (low ≤ v) && (decide (v < high) || (closed && v == high))

/-- Whether a point is in a zone. -/
def contains (z : Zone α) (p : Point α) : Bool :=
  within z.box.minX z.box.maxX z.closedX p.x && within z.box.minY z.box.maxY z.closedY p.y

/-- The middle of a zone. -/
def centre (z : Zone α) : Point α :=
  ⟨(z.box.minX + z.box.maxX) * 0.5, (z.box.minY + z.box.maxY) * 0.5⟩

end Zone

namespace ZoneGrid

/-- The identifier of the zone of a column and a row. -/
def idOf (order column row : Nat) : ZoneId :=
  ⟨column * order + row⟩

/-- The rectangle of a column and a row. -/
def rectangle {n : Nat} (xs ys : Axis α) (columns : xs.cells = n) (rows : ys.cells = n)
    (column row : Fin n) : Zone α where
  id := idOf n column row
  box := {
    minX := xs.edge column (by omega)
    minY := ys.edge row (by omega)
    maxX := xs.edge (column + 1) (by omega)
    maxY := ys.edge (row + 1) (by omega) }
  closedX := column.val + 1 == n
  closedY := row.val + 1 == n

/-- The grid that cuts a box into `n` columns and `n` rows. -/
def ofBox (box : Box α) (n : Nat) (h : 0 < n) : ZoneGrid α :=
  let xs : Axis α := .equal box.minX box.maxX n h
  let ys : Axis α := .equal box.minY box.maxY n h
  have columns : xs.cells = n := Axis.cells_equal ..
  have rows : ys.cells = n := Axis.cells_equal ..
  { box, order := n, xs, ys, columns, rows
    zones := ((List.finRange n).flatMap fun column => (List.finRange n).map fun row =>
      rectangle xs ys columns rows column row).toArray
    size_zones := by simp [List.length_flatMap, List.map_const'] }

/-- Number of zones. -/
def size (g : ZoneGrid α) : Nat :=
  g.zones.size

/-- The identifier of the zone of a column and a row. -/
def idAt (g : ZoneGrid α) (column row : Nat) : ZoneId :=
  idOf g.order column row

/-- The zone of an identifier. -/
def zone? (g : ZoneGrid α) (id : ZoneId) : Option (Zone α) :=
  g.zones[id.index]?

/-- The zone that a point is in; points outside the box are in none. -/
def zoneOf? (g : ZoneGrid α) (p : Point α) : Option ZoneId :=
  if g.box.contains p then some (g.idAt (g.xs.cell p.x) (g.ys.cell p.y)) else none

/-- The naturals from `low` to `high`, both included. -/
def between (low high : Nat) : List Nat :=
  (List.range (high + 1 - low)).map (low + ·)

/-- Zones that meet the square of half-side `radius` around a point, by column and row. Beyond the
box the nearest zones stand in. -/
def zonesNear (g : ZoneGrid α) (p : Point α) (radius : α) : List ZoneId :=
  let columns := between (g.xs.cell (p.x - radius)) (g.xs.cell (p.x + radius))
  let rows := between (g.ys.cell (p.y - radius)) (g.ys.cell (p.y + radius))
  columns.flatMap fun i => rows.map fun j => g.idAt i j

end ZoneGrid

/-! ## Partitions -/

/-- Makes zone grids of one order. The bound keeps the number of zones below `2 ^ 32`. -/
structure Partitioner where
  order : Nat
  mode : PartitionMode
  order_pos : 0 < order
  order_le : order ≤ 65535

namespace Partitioner

/-- The greatest order. -/
def limit : Nat := 65535

/-- The margin added on every side of the extent of the input points. -/
def padding : α := ((1 : Nat) : α)

/-- The partitioner of an order that is neither zero nor above the limit. -/
def ofOrder (order : Nat) (mode : PartitionMode) : Except (ConfigError α) Partitioner :=
  if h : order = 0 then .error .noZones
  else if k : limit < order then .error (.tooManyZones limit order)
  else .ok { order, mode, order_pos := by omega, order_le := Nat.le_of_not_lt k }

/-- The zones of a padded box. -/
def partition (p : Partitioner) (extent : Box α) : ZoneGrid α :=
  .ofBox (extent.padded padding) p.order p.order_pos

/-- The zones around all homes and all facilities that offer an activity type. -/
def ofScenario (p : Partitioner) (population : Population α) (facilities : Facilities α)
    (activityType : String) : Except (DataError α) (ZoneGrid α) :=
  let homes := population.list.toList.filterMap fun person => person.home? facilities
  let shops := (facilities.offering activityType).map Facility.coord
  match Box.ofPoints? (homes ++ shops) with
  | some extent => .ok (p.partition extent)
  | none => .error .nothingToPartition

/-- The zones around all facilities. -/
def ofFacilities (p : Partitioner) (facilities : Facilities α) :
    Except (DataError α) (ZoneGrid α) :=
  match Box.ofPoints? (facilities.list.toList.map Facility.coord) with
  | some extent => .ok (p.partition extent)
  | none => .error .noFacilitiesToPartition

end Partitioner

end SpatialAccess
