import SpatialAccess.Network.Basic

/-!
# Lattice towns

* `Lattice`: blocks per side and their length. `Lattice.network`: two-way streets along all blocks.
-/

namespace SpatialAccess

/-- A square town: crossings per side, and the length of a block. -/
structure Lattice (α : Type) where
  size : Nat
  block : α

namespace Lattice

variable {α : Type} [Number α]

/-- The coordinate of the crossing in a column and a row. -/
def crossing (l : Lattice α) (column row : Nat) : Point α :=
  ⟨(column : α) * l.block, (row : α) * l.block⟩

/-- The columns and rows of all crossings, row by row. -/
def places (l : Lattice α) : List (Nat × Nat) :=
  (List.range l.size).flatMap fun row => (List.range l.size).map fun column => (column, row)

/-- The node of the crossing in a column and a row. -/
def node (l : Lattice α) (column row : Nat) : NodeId :=
  ⟨row * l.size + column⟩

/-- A builder with the streets more that lead on from a crossing: to the next column at the speed of
the row, and to the next row. -/
def addStreets (l : Lattice α) (rowSpeed : Nat → α) (columnSpeed : α) (b : NetworkBuilder α)
    (place : Nat × Nat) : NetworkBuilder α :=
  let (column, row) := place
  let here := l.node column row
  let b :=
    if column + 1 < l.size then
      (b.addRoad here (l.node (column + 1) row) l.block (rowSpeed row)).2
    else b
  if row + 1 < l.size then (b.addRoad here (l.node column (row + 1)) l.block columnSpeed).2 else b

/-- The streets of the town. -/
def network (l : Lattice α) (rowSpeed : Nat → α) (columnSpeed : α) : Network α :=
  let nodes := l.places.foldl (fun (b : NetworkBuilder α) (column, row) =>
    (b.addNode s!"n{column}_{row}" (l.crossing column row)).2) {}
  (l.places.foldl (l.addStreets rowSpeed columnSpeed) nodes).build

end Lattice

end SpatialAccess
