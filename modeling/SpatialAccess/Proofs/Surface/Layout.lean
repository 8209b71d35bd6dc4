import SpatialAccess.MeasuringGrid
import SpatialAccess.Proofs.Network.Closest
import SpatialAccess.Proofs.Number.Exact
import SpatialAccess.Proofs.RowMajor

/-!
# Points of a measuring grid

Two loops, one inside the other, lay out the points of a grid row by row, so that the point of a
column and a row comes at the place of their number. An identifier has room for the last 32 bits of
that number only.

* `MeasuringGrid.LaidOut`: the points stand in the middles of the cells, row by row.
  **`MeasuringGrid.laidOut_of_ofBox`**: grids are laid out that way.
* `MeasuringGrid.exists_ofBox`: over a network with nodes every box has a grid.
* `MeasuringGrid.Numbered`: the points carry their places as identifiers.
  `MeasuringGrid.LaidOut.numbered`: so do they if there is an identifier for each.
-/

namespace SpatialAccess

theorem Id.wrap_of_lt {entity : Entity} {n : Nat} (h : n < Id.limit) :
    (Id.wrap n : Id entity) = ⟨n⟩ :=
  congrArg Id.mk (Nat.mod_eq_of_lt h)

variable {α : Type} [Number α]

namespace MeasuringGrid

variable {box : Box α} {cell : α} {network : Network α} {grid : MeasuringGrid α}

/-! ## Single points -/

theorem pointAt_eq_ok {id : PointId} {coord : Point α} {point : MeasuringPoint α}
    (h : pointAt network id coord = .ok point) :
    point.id = id ∧ point.coord = coord ∧ point.node.index < network.nodes.size := by
  unfold pointAt at h
  split at h
  · next node access hattach =>
    cases h
    exact ⟨rfl, rfl, Network.index_lt_of_attach? hattach⟩
  · cases h

theorem exists_pointAt (hempty : network.isEmpty = false) (id : PointId) (coord : Point α) :
    ∃ point, pointAt network id coord = .ok point := by
  obtain ⟨node, access, hattach⟩ := Network.exists_attach? hempty coord
  exact ⟨{ id, coord, node, access }, by rw [pointAt, hattach]⟩

/-! ## Laying out -/

/-- The points of a grid stand in the middles of its cells, row by row. -/
structure LaidOut (g : MeasuringGrid α) (box : Box α) (cell : α) (network : Network α) : Prop where
  box_eq : g.box = box
  cell_eq : g.cell = cell
  columns_eq : g.columns = cellsAlong box.width cell
  rows_eq : g.rows = cellsAlong box.height cell
  size_eq : g.points.size = g.columns * g.rows
  pointAt_eq : ∀ k (h : k < g.points.size),
    pointAt network (.wrap k) (centre box cell (k % g.columns) (k / g.columns)) = .ok g.points[k]

/-- **Grids are laid out row by row.** -/
theorem laidOut_of_ofBox (h : ofBox box cell network = .ok grid) :
    grid.LaidOut box cell network := by
  by_cases hcell : ((0 : ℕ) : α) < cell
  swap
  · simp [ofBox, hcell, Except.bind_eq_ok] at h
  by_cases hempty : network.isEmpty
  · simp [ofBox, hcell, hempty, Except.bind_eq_ok] at h
  simp only [ofBox, hcell, hempty, not_true_eq_false, if_false, Except.bind_eq_ok,
    Bool.false_eq_true] at h
  obtain ⟨table, htable, h⟩ := h
  obtain rfl := (Except.ok.inj h).symm
  obtain ⟨hsize, hpoint⟩ := Except.rows_of_mapM htable
  have hsize' := hsize.trans (Nat.mul_comm _ _)
  refine ⟨rfl, rfl, rfl, rfl, by rw [List.size_toArray, hsize'], fun k hk => ?_⟩
  have hk' : k < table.flatten.length := by rwa [List.size_toArray] at hk
  have h := hpoint k hk'
  rwa [idAt, Nat.div_add_mod'] at h

/-- Over a network with nodes a grid of any positive cell size can be laid out. -/
theorem exists_ofBox (hcell : ((0 : ℕ) : α) < cell) (hempty : network.isEmpty = false)
    (box : Box α) : ∃ grid, ofBox box cell network = .ok grid := by
  have hrow : ∀ columns, ∀ row ∈ List.range (cellsAlong box.height cell), ∃ points,
      (List.range columns).mapM (fun column =>
        pointAt network (idAt columns column row) (centre box cell column row)) = .ok points :=
    fun _ _ _ => Except.exists_mapM_eq_ok_iff.2 fun _ _ => exists_pointAt hempty _ _
  obtain ⟨table, htable⟩ := Except.exists_mapM_eq_ok_iff.2 (hrow (cellsAlong box.width cell))
  simp only [ofBox, hcell, hempty, not_true_eq_false, if_false, Bool.false_eq_true]
  exact ⟨_, Except.bind_eq_ok.2 ⟨table, htable, rfl⟩⟩

namespace LaidOut

variable (h : grid.LaidOut box cell network)

include h

theorem coord_eq {k : ℕ} (hk : k < grid.points.size) :
    grid.points[k].coord = centre box cell (k % grid.columns) (k / grid.columns) :=
  (pointAt_eq_ok (h.pointAt_eq k hk)).2.1

/-- The points of a grid are closest to nodes of its network. -/
theorem node_lt {point : MeasuringPoint α} (hpoint : point ∈ grid.points) :
    point.node.index < network.nodes.size := by
  obtain ⟨k, hk, rfl⟩ := Array.mem_iff_getElem.1 hpoint
  exact (pointAt_eq_ok (h.pointAt_eq k hk)).2.2

theorem columns_pos : 0 < grid.columns := by
  rw [h.columns_eq]
  exact Nat.succ_pos _

theorem rows_pos : 0 < grid.rows := by
  rw [h.rows_eq]
  exact Nat.succ_pos _

/-- A grid has no more columns, and no more rows, than points. -/
theorem columns_le : grid.columns ≤ grid.points.size := by
  rw [h.size_eq]
  exact Nat.le_mul_of_pos_right _ h.rows_pos

theorem rows_le : grid.rows ≤ grid.points.size := by
  rw [h.size_eq]
  exact Nat.le_mul_of_pos_left _ h.columns_pos

/-- The number of a column and a row is one of a measuring point. -/
theorem number_lt {column row : ℕ} (hcolumn : column < grid.columns) (hrow : row < grid.rows) :
    row * grid.columns + column < grid.points.size := by
  rw [h.size_eq, Nat.mul_comm grid.columns]
  exact mul_add_lt hrow hcolumn

end LaidOut

/-! ## Identifiers -/

/-- The points of a grid carry their places. -/
def Numbered (grid : MeasuringGrid α) : Prop :=
  ∀ (k : ℕ) (point : MeasuringPoint α), grid.points[k]? = some point → point.id.index = k

/-- A street of two cells takes three points, as its end lies on an edge. -/
theorem exists_ofBox_street {network : Network ℝ} (hempty : network.isEmpty = false) :
    ∃ grid, ofBox ⟨0, 0, 100, 0⟩ 50 network = .ok grid ∧ grid.points.size = 3 := by
  have hcell : ((0 : ℕ) : ℝ) < 50 := by norm_num
  obtain ⟨grid, hgrid⟩ := exists_ofBox hcell hempty ⟨0, 0, 100, 0⟩
  have hlaid := laidOut_of_ofBox hgrid
  have hcells : ∀ extent : ℝ, cellsAlong extent 50 = ⌊extent / 50⌋₊ + 1 := fun _ => rfl
  refine ⟨grid, hgrid, ?_⟩
  rw [hlaid.size_eq, hlaid.columns_eq, hlaid.rows_eq, hcells, hcells]
  norm_num [Box.width, Box.height]

namespace LaidOut

variable (h : grid.LaidOut box cell network) (hfew : grid.points.size ≤ Id.limit)

include h hfew

theorem id_eq {k : ℕ} (hk : k < grid.points.size) : grid.points[k].id = ⟨k⟩ := by
  rw [(pointAt_eq_ok (h.pointAt_eq k hk)).1, Id.wrap_of_lt (Nat.lt_of_lt_of_le hk hfew)]

theorem idAt_eq {column row : ℕ} (hcolumn : column < grid.columns) (hrow : row < grid.rows) :
    idAt grid.columns column row = ⟨row * grid.columns + column⟩ :=
  Id.wrap_of_lt (Nat.lt_of_lt_of_le (h.number_lt hcolumn hrow) hfew)

theorem numbered : grid.Numbered := by
  intro k point hk
  obtain ⟨hlt, rfl⟩ := Array.getElem?_eq_some_iff.1 hk
  rw [h.id_eq hfew hlt]

end LaidOut

end MeasuringGrid

end SpatialAccess
