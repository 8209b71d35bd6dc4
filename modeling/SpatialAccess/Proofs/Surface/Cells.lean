import Mathlib.Algebra.Order.Floor.Semiring
import SpatialAccess.Proofs.Surface.Layout
import SpatialAccess.Proofs.Zone.Tiling

/-!
# Cells of a measuring grid

The points of a grid are laid out by counting, column after column and row after row; the cell of a
point is found by dividing. Both are inverse to each other.

* `MeasuringGrid.Holds`: the column and the row of a point, as its distances from the corner tell.
  **`MeasuringGrid.cellOf?_eq_some_iff`**: the cell of a point has these, for all kinds of numbers.
* `Box.InCell`: a point is between the edges of a cell. `MeasuringGrid.holds_iff_inCell`: without
  rounding this is the same.
* **`MeasuringGrid.ofBox_cells`**: in exact arithmetic the cells partition a box, its upper edges
  included, and every point is in the middle of its own cell.
-/

namespace SpatialAccess

variable {α : Type} [Number α]

namespace CountNumber

variable [CountNumber α]

open OrderedNumber

/-- Whole parts are only taken of what is not negative. -/
theorem not_lt_and_toNat_eq_iff {v : α} (hv : v ≤ v) {k : ℕ} (hk : k + 1 ≤ Id.limit) :
    (¬v < ((0 : ℕ) : α) ∧ Number.toNat v = k) ↔ (k : α) ≤ v ∧ v < ((k + 1 : ℕ) : α) := by
  have hzero : ((0 : ℕ) : α) ≤ ((0 : ℕ) : α) := natCast_le_natCast le_rfl (Nat.zero_le _)
  constructor
  · rintro ⟨hnonneg, htoNat⟩
    exact (toNat_eq_iff (le_of_not_lt hv hzero hnonneg) hk).1 htoNat
  · rintro ⟨hlow, hhigh⟩
    have hcast : ((0 : ℕ) : α) ≤ (k : α) :=
      natCast_le_natCast (Nat.zero_le k) (Nat.le_of_succ_le hk)
    have hnonneg : ((0 : ℕ) : α) ≤ v := OrderedNumber.le_trans hcast hlow
    exact ⟨not_lt_of_le hnonneg, (toNat_eq_iff hnonneg hk).2 ⟨hlow, hhigh⟩⟩

end CountNumber

namespace MeasuringGrid

/-! ## Looking up -/

/-- How many cells a point is to the right of the corner. -/
def across (g : MeasuringGrid α) (p : Point α) : α :=
  (p.x - g.box.minX) / g.cell

/-- How many cells a point is above the corner. -/
def up (g : MeasuringGrid α) (p : Point α) : α :=
  (p.y - g.box.minY) / g.cell

/-- Both distances of a point from the corner are numbers. -/
structure Places (g : MeasuringGrid α) (p : Point α) : Prop where
  across_le : g.across p ≤ g.across p
  up_le : g.up p ≤ g.up p

/-- The distances of a point from the corner lead to a column and a row. -/
structure Holds (g : MeasuringGrid α) (column row : ℕ) (p : Point α) : Prop where
  column_le : (column : α) ≤ g.across p
  lt_column : g.across p < ((column + 1 : ℕ) : α)
  row_le : (row : α) ≤ g.up p
  lt_row : g.up p < ((row + 1 : ℕ) : α)

variable {box : Box α} {cell : α} {network : Network α} {grid : MeasuringGrid α}

theorem cellOf?_eq_some_iff_toNat {g : MeasuringGrid α} {p : Point α} {id : PointId} :
    g.cellOf? p = some id ↔
      ∃ column row, column < g.columns ∧ row < g.rows ∧ id = idAt g.columns column row ∧
        (¬g.across p < ((0 : ℕ) : α) ∧ Number.toNat (g.across p) = column) ∧
        ¬g.up p < ((0 : ℕ) : α) ∧ Number.toNat (g.up p) = row := by
  simp only [cellOf?, across, up, Option.ite_none_left_eq_some, not_or, not_le, Option.some.injEq]
  constructor
  · rintro ⟨⟨hacross, hup⟩, ⟨hcolumn, hrow⟩, rfl⟩
    exact ⟨_, _, hcolumn, hrow, rfl, ⟨hacross, rfl⟩, hup, rfl⟩
  · rintro ⟨_, _, hcolumn, hrow, rfl, ⟨hacross, rfl⟩, hup, rfl⟩
    exact ⟨⟨hacross, hup⟩, ⟨hcolumn, hrow⟩, rfl⟩

/-- **The cell of a point is the one of its column and its row**, if its distances from the corner
are numbers. -/
theorem cellOf?_eq_some_iff [CountNumber α] {g : MeasuringGrid α} (hcolumns : g.columns ≤ Id.limit)
    (hrows : g.rows ≤ Id.limit) {p : Point α} (hp : g.Places p) {id : PointId} :
    g.cellOf? p = some id ↔
      ∃ column row, column < g.columns ∧ row < g.rows ∧ id = idAt g.columns column row ∧
        g.Holds column row p := by
  have hiff : ∀ column row, column < g.columns → row < g.rows →
      (((¬g.across p < ((0 : ℕ) : α) ∧ Number.toNat (g.across p) = column) ∧
        ¬g.up p < ((0 : ℕ) : α) ∧ Number.toNat (g.up p) = row) ↔ g.Holds column row p) := by
    intro column row hcolumn hrow
    rw [CountNumber.not_lt_and_toNat_eq_iff hp.across_le (by omega),
      CountNumber.not_lt_and_toNat_eq_iff hp.up_le (by omega)]
    exact ⟨fun h => ⟨h.1.1, h.1.2, h.2.1, h.2.2⟩, fun h => ⟨⟨h.1, h.2⟩, h.3, h.4⟩⟩
  rw [cellOf?_eq_some_iff_toNat]
  refine exists_congr fun column => exists_congr fun row => ?_
  refine and_congr_right fun hcolumn => and_congr_right fun hrow => and_congr_right fun _ => ?_
  exact hiff column row hcolumn hrow

instance (g : MeasuringGrid α) (column row : ℕ) (p : Point α) : Decidable (g.Holds column row p) :=
  decidable_of_iff
    (((column : α) ≤ g.across p ∧ g.across p < ((column + 1 : ℕ) : α)) ∧
      (row : α) ≤ g.up p ∧ g.up p < ((row + 1 : ℕ) : α))
    ⟨fun h => ⟨h.1.1, h.1.2, h.2.1, h.2.2⟩, fun h => ⟨⟨h.1, h.2⟩, h.3, h.4⟩⟩

/-- A point is in one of the cells. -/
def Inside (g : MeasuringGrid α) (p : Point α) : Prop :=
  ∃ column < g.columns, ∃ row < g.rows, g.Holds column row p

instance (g : MeasuringGrid α) (p : Point α) : Decidable (g.Inside p) :=
  inferInstanceAs (Decidable (∃ column < g.columns, ∃ row < g.rows, g.Holds column row p))

theorem isSome_cellOf?_iff [CountNumber α] {g : MeasuringGrid α} (hcolumns : g.columns ≤ Id.limit)
    (hrows : g.rows ≤ Id.limit) {p : Point α} (hp : g.Places p) :
    (g.cellOf? p).isSome ↔ g.Inside p := by
  rw [Option.isSome_iff_exists]
  simp only [cellOf?_eq_some_iff hcolumns hrows hp]
  constructor
  · rintro ⟨_, column, row, hcolumn, hrow, -, hholds⟩
    exact ⟨column, hcolumn, row, hrow, hholds⟩
  · rintro ⟨column, hcolumn, row, hrow, hholds⟩
    exact ⟨_, column, row, hcolumn, hrow, rfl, hholds⟩

namespace LaidOut

variable (h : grid.LaidOut box cell network) (hfew : grid.points.size ≤ Id.limit)

include h hfew

/-- **A point has no other cell than that of its column and its row.** -/
theorem cellOf?_eq_number_iff [CountNumber α] {p : Point α} (hp : grid.Places p) {column row : ℕ}
    (hcolumn : column < grid.columns) :
    grid.cellOf? p = some ⟨row * grid.columns + column⟩ ↔
      row < grid.rows ∧ grid.Holds column row p := by
  rw [cellOf?_eq_some_iff (h.columns_le.trans hfew) (h.rows_le.trans hfew) hp]
  constructor
  · rintro ⟨column', row', hcolumn', hrow', hid, hholds⟩
    rw [h.idAt_eq hfew hcolumn' hrow'] at hid
    obtain ⟨rfl, rfl⟩ := mul_add_inj hcolumn hcolumn' (Id.mk.inj hid)
    exact ⟨hrow', hholds⟩
  · rintro ⟨hrow, hholds⟩
    exact ⟨column, row, hcolumn, hrow, (h.idAt_eq hfew hcolumn hrow).symm, hholds⟩

theorem index_lt {p : Point α} {id : PointId} (hid : grid.cellOf? p = some id) :
    id.index < grid.points.size := by
  obtain ⟨column, row, hcolumn, hrow, rfl, -⟩ := cellOf?_eq_some_iff_toNat.1 hid
  rw [h.idAt_eq hfew hcolumn hrow]
  exact h.number_lt hcolumn hrow

end LaidOut

end MeasuringGrid

/-! ## Exact arithmetic -/

/-- A point is in the cell of a column and a row, to which its lower edges belong and its upper ones
do not. -/
structure Box.InCell (box : Box ℝ) (cell : ℝ) (column row : ℕ) (p : Point ℝ) : Prop where
  left_le : box.minX + column * cell ≤ p.x
  lt_right : p.x < box.minX + (column + 1) * cell
  bottom_le : box.minY + row * cell ≤ p.y
  lt_top : p.y < box.minY + (row + 1) * cell

namespace MeasuringGrid

variable {box : Box ℝ} {cell : ℝ} {g : MeasuringGrid ℝ}

theorem places_real (g : MeasuringGrid ℝ) (p : Point ℝ) : g.Places p :=
  ⟨le_rfl, le_rfl⟩

/-- Without rounding the distances from the corner tell on which side of an edge a point is. -/
theorem holds_iff_inCell (hcell : 0 < g.cell) {column row : ℕ} {p : Point ℝ} :
    g.Holds column row p ↔ g.box.InCell g.cell column row p := by
  have hlow : ∀ (k : ℕ) (low v : ℝ), (k : ℝ) ≤ (v - low) / g.cell ↔ low + k * g.cell ≤ v := by
    intro k low v
    rw [le_div_iff₀ hcell, le_sub_iff_add_le']
  have hhigh : ∀ (k : ℕ) (low v : ℝ),
      (v - low) / g.cell < ((k + 1 : ℕ) : ℝ) ↔ v < low + (k + 1) * g.cell := by
    intro k low v
    rw [div_lt_iff₀ hcell, sub_lt_iff_lt_add', Nat.cast_succ]
  constructor
  · rintro ⟨hleft, hright, hbottom, htop⟩
    exact ⟨(hlow _ _ _).1 hleft, (hhigh _ _ _).1 hright, (hlow _ _ _).1 hbottom,
      (hhigh _ _ _).1 htop⟩
  · rintro ⟨hleft, hright, hbottom, htop⟩
    exact ⟨(hlow _ _ _).2 hleft, (hhigh _ _ _).2 hright, (hlow _ _ _).2 hbottom,
      (hhigh _ _ _).2 htop⟩

/-- The middle of a cell is in the cell. -/
theorem inCell_centre (hcell : 0 < cell) (column row : ℕ) :
    box.InCell cell column row (centre box cell column row) := by
  have hhalf : (0.5 : ℝ) * cell = cell / 2 := by ring
  constructor <;> simp only [centre, add_mul, one_mul, hhalf] <;> linarith

/-- Along an axis every place up to the end is in one of the cells. -/
theorem exists_column (hcell : 0 < cell) {low high v : ℝ} (hlow : low ≤ v) (hhigh : v ≤ high) :
    ∃ k < cellsAlong (high - low) cell, low + k * cell ≤ v ∧ v < low + (k + 1) * cell := by
  have hnonneg : 0 ≤ (v - low) / cell := div_nonneg (sub_nonneg.2 hlow) hcell.le
  refine ⟨⌊(v - low) / cell⌋₊, Nat.lt_succ_of_le (Nat.floor_mono ?_), ?_, ?_⟩
  · gcongr
  · rw [← le_sub_iff_add_le', ← le_div_iff₀ hcell]
    exact Nat.floor_le hnonneg
  · rw [← sub_lt_iff_lt_add', ← div_lt_iff₀ hcell]
    exact Nat.lt_floor_add_one _

/-- **The cells of a grid partition its box.** There is a measuring point in the middle of every
cell, numbered row by row. The cell that is looked up for a point is the one that it is in; no cell
is looked up for a point that is in none. Every point of the box is in one, also on its upper
edges. -/
theorem ofBox_cells (box : Box ℝ) {cell : ℝ} (hcell : 0 < cell) {network : Network ℝ}
    (hempty : network.isEmpty = false)
    (hfew : cellsAlong box.width cell * cellsAlong box.height cell < Id.limit) :
    ∃ grid, ofBox box cell network = .ok grid ∧
      grid.columns = ⌊box.width / cell⌋₊ + 1 ∧ grid.rows = ⌊box.height / cell⌋₊ + 1 ∧
      grid.points.size = grid.columns * grid.rows ∧
      (∀ k (h : k < grid.points.size), grid.points[k].id = ⟨k⟩ ∧
        grid.points[k].coord = ⟨box.minX + ((k % grid.columns : ℕ) + 1 / 2) * cell,
          box.minY + ((k / grid.columns : ℕ) + 1 / 2) * cell⟩ ∧
        grid.cellOf? grid.points[k].coord = some ⟨k⟩) ∧
      (∀ p i j, i < grid.columns →
        (grid.cellOf? p = some ⟨j * grid.columns + i⟩ ↔ j < grid.rows ∧ box.InCell cell i j p)) ∧
      (∀ p, grid.cellOf? p = none ↔
        ¬∃ i j, i < grid.columns ∧ j < grid.rows ∧ box.InCell cell i j p) ∧
      ∀ p, box.contains p = true →
        ∃ i j, i < grid.columns ∧ j < grid.rows ∧ box.InCell cell i j p := by
  obtain ⟨grid, hgrid⟩ := exists_ofBox (Nat.cast_zero (R := ℝ) ▸ hcell) hempty box
  have hlaid := laidOut_of_ofBox hgrid
  have hsize : grid.points.size < Id.limit := by
    rwa [hlaid.size_eq, hlaid.columns_eq, hlaid.rows_eq]
  have hcolumns : grid.columns ≤ Id.limit := hlaid.columns_le.trans hsize.le
  have hrows : grid.rows ≤ Id.limit := hlaid.rows_le.trans hsize.le
  have hinCell : ∀ i j p, grid.Holds i j p ↔ box.InCell cell i j p := by
    intro i j p
    rw [holds_iff_inCell (hlaid.cell_eq ▸ hcell), hlaid.box_eq, hlaid.cell_eq]
  have hlookup : ∀ p i j, i < grid.columns →
      (grid.cellOf? p = some ⟨j * grid.columns + i⟩ ↔ j < grid.rows ∧ box.InCell cell i j p) := by
    intro p i j hi
    rw [hlaid.cellOf?_eq_number_iff hsize.le (places_real grid p) hi, hinCell]
  refine ⟨grid, hgrid, hlaid.columns_eq, hlaid.rows_eq, hlaid.size_eq, ?_, hlookup, ?_, ?_⟩
  · intro k hk
    have hid := hlaid.id_eq hsize.le hk
    have hcoord := hlaid.coord_eq hk
    have hk' : k < grid.columns * grid.rows := hlaid.size_eq ▸ hk
    have hcell? := (hlookup (centre box cell (k % grid.columns) (k / grid.columns)) _ _
      (Nat.mod_lt k hlaid.columns_pos)).2 ⟨Nat.div_lt_of_lt_mul hk', inCell_centre hcell _ _⟩
    rw [Nat.div_add_mod'] at hcell?
    refine ⟨hid, ?_, hcoord ▸ hcell?⟩
    rw [hcoord, centre]
    norm_num
  · intro p
    rw [Option.eq_none_iff_forall_ne_some]
    constructor
    · rintro hnone ⟨i, j, hi, hj, hin⟩
      exact hnone _ ((hlookup p i j hi).2 ⟨hj, hin⟩)
    · intro hnone id hid
      obtain ⟨i, j, hi, hj, -, hholds⟩ :=
        (cellOf?_eq_some_iff hcolumns hrows (places_real grid p)).1 hid
      exact hnone ⟨i, j, hi, hj, (hinCell i j p).1 hholds⟩
  · intro p hp
    obtain ⟨⟨hleft, hright⟩, hbottom, htop⟩ := Box.contains_eq_true_iff.1 hp
    obtain ⟨i, hi, hleft', hright'⟩ := exists_column hcell hleft hright
    obtain ⟨j, hj, hbottom', htop'⟩ := exists_column hcell hbottom htop
    exact ⟨i, j, hlaid.columns_eq ▸ hi, hlaid.rows_eq ▸ hj, ⟨hleft', hright', hbottom', htop'⟩⟩

/-- A street of two cells takes three, as its end lies on an edge; it takes one row. -/
theorem ofBox_cells_street :
    let street : Network ℝ := NetworkBuilder.build {
      nodes := #[{ label := "a", coord := ⟨0, 0⟩ }, { label := "b", coord := ⟨100, 0⟩ }]
      links := #[{ label := "a_b", source := ⟨0⟩, target := ⟨1⟩, length := 100, speed := 10 }] }
    ∃ grid, ofBox ⟨0, 0, 100, 0⟩ 50 street = .ok grid ∧ grid.columns = 3 ∧ grid.rows = 1 ∧
      grid.cellOf? ⟨100, 0⟩ = some ⟨2⟩ ∧ grid.cellOf? ⟨0, 50⟩ = none := by
  intro street
  have hcolumns : ⌊Box.width (⟨0, 0, 100, 0⟩ : Box ℝ) / 50⌋₊ + 1 = 3 := by norm_num [Box.width]
  have hrows : ⌊Box.height (⟨0, 0, 100, 0⟩ : Box ℝ) / 50⌋₊ + 1 = 1 := by norm_num [Box.height]
  have hfew : cellsAlong (Box.width (⟨0, 0, 100, 0⟩ : Box ℝ)) 50 *
      cellsAlong (Box.height (⟨0, 0, 100, 0⟩ : Box ℝ)) 50 < Id.limit := by
    have hcells : ∀ extent : ℝ, cellsAlong extent 50 = ⌊extent / 50⌋₊ + 1 := fun _ => rfl
    rw [hcells, hcells, hcolumns, hrows]
    decide
  obtain ⟨grid, hgrid, hwide, hhigh, -, -, hlookup, hnone, -⟩ :=
    ofBox_cells ⟨0, 0, 100, 0⟩ (by norm_num : (0 : ℝ) < 50) (rfl : street.isEmpty = false) hfew
  rw [hcolumns] at hwide
  rw [hrows] at hhigh
  refine ⟨grid, hgrid, hwide, hhigh, ?_, ?_⟩
  · have hend := (hlookup ⟨100, 0⟩ 2 0 (by omega)).2
      ⟨by omega, by norm_num, by norm_num, by norm_num, by norm_num⟩
    rwa [Nat.zero_mul, Nat.zero_add] at hend
  · rw [hnone]
    rintro ⟨i, j, -, hj, hin⟩
    obtain rfl : j = 0 := by omega
    have habove := hin.lt_top
    norm_num at habove

end MeasuringGrid

end SpatialAccess
