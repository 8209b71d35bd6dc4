import SpatialAccess.Network.Basic

/-!
# Measuring points

A measuring grid covers a box with square cells and has one measuring point in the middle of every
cell. Points are laid out row by row; number `j * columns + i` belongs to column `i` and row `j`.
There is one column and one row more than fit into the box, so that points on its upper edges have a
cell too.

* `MeasuringPoint`, `MeasuringGrid`: the parts.
* `MeasuringGrid.ofBox`, `MeasuringGrid.overNetwork`, `MeasuringGrid.covering`: laying out the points.
* `MeasuringGrid.cellOf?`: the cell of a point.
-/

namespace SpatialAccess

/-- A place where accessibility is measured, with the network node closest to it. -/
structure MeasuringPoint (α : Type) where
  id : PointId
  coord : Point α
  node : NodeId
  /-- Beeline to the node. -/
  access : α
  deriving Repr, DecidableEq

/-- Measuring points in square cells. -/
structure MeasuringGrid (α : Type) where
  box : Box α
  cell : α
  columns : Nat
  rows : Nat
  points : Array (MeasuringPoint α)
  deriving Repr

namespace MeasuringGrid

variable {α : Type} [Number α]

/-- How many cells cover an extent. -/
def cellsAlong (extent cell : α) : Nat :=
  Number.toNat (extent / cell) + 1

/-- The middle of the cell of a column and a row. -/
def centre (box : Box α) (cell : α) (column row : Nat) : Point α :=
  ⟨box.minX + ((column : α) + 0.5) * cell, box.minY + ((row : α) + 0.5) * cell⟩

/-- The identifier of the cell of a column and a row, cut off to 32 bits: where there are more cells
than identifiers, several of them share one. -/
def idAt (columns column row : Nat) : PointId :=
  .wrap (row * columns + column)

/-- The measuring point at a coordinate. -/
def pointAt (network : Network α) (id : PointId) (coord : Point α) :
    Except (NetworkError α) (MeasuringPoint α) :=
  match network.attach? coord with
  | some (node, access) => .ok { id, coord, node, access }
  | none => .error .emptyNetwork

/-- The measuring points that cover a box. -/
def ofBox (box : Box α) (cell : α) (network : Network α) :
    Except (NetworkError α) (MeasuringGrid α) := do
  if ¬((0 : Nat) : α) < cell then
    .error (.config (.notPositive "cellSize" cell))
  if network.isEmpty then
    .error .emptyNetwork
  let columns := cellsAlong box.width cell
  let rows := cellsAlong box.height cell
  let points ← (List.range rows).mapM fun row => (List.range columns).mapM fun column =>
    pointAt network (idAt columns column row) (centre box cell column row)
  return { box, cell, columns, rows, points := points.flatten.toArray }

/-- The measuring points that cover all nodes of a network. -/
def overNetwork (network : Network α) (cell : α) : Except (NetworkError α) (MeasuringGrid α) :=
  match network.box? with
  | some box => ofBox box cell network
  | none => .error .emptyNetwork

/-- The measuring points that cover a box, or all nodes if there is none. -/
def covering (box? : Option (Box α)) (cell : α) (network : Network α) :
    Except (NetworkError α) (MeasuringGrid α) :=
  match box? with
  | some box => ofBox box cell network
  | none => overNetwork network cell

/-- Number of measuring points. -/
def size (g : MeasuringGrid α) : Nat :=
  g.points.size

/-- The measuring point of an identifier. -/
def get? (g : MeasuringGrid α) (id : PointId) : Option (MeasuringPoint α) :=
  g.points[id.index]?

/-- The cell of a point; points below the box or beyond the last column or row have none. -/
def cellOf? (g : MeasuringGrid α) (p : Point α) : Option PointId :=
  let across := (p.x - g.box.minX) / g.cell
  let up := (p.y - g.box.minY) / g.cell
  if across < ((0 : Nat) : α) ∨ up < ((0 : Nat) : α) then none
  else
    let (column, row) := (Number.toNat across, Number.toNat up)
    if g.columns ≤ column ∨ g.rows ≤ row then none else some (idAt g.columns column row)

end MeasuringGrid

end SpatialAccess
