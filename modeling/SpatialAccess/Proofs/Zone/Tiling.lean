import Mathlib.Tactic.GCongr
import Mathlib.Tactic.NormNum
import SpatialAccess.Proofs.Number.Exact
import SpatialAccess.Proofs.RowMajor
import SpatialAccess.Proofs.Zone.AxisCell

/-!
# Zones tile their box

Whether a point is in a zone is said twice: by the rectangle of the zone, closed above in the last
column and the last row only, and by the cell that the point is looked up in. Both agree on every
point when the edges never fall.

* `Axis.Rises`: the edges never fall between two ends. `Axis.rises_equal`: in exact arithmetic equal
  cells rise from any value to any value not below it.
* `ZoneGrid.LaidOut`: the zones of a grid are its rectangles, whatever has been sorted into them.
  `ZoneGrid.laidOut_ofBox`: grids are laid out that way. `ZoneGrid.LaidOut.map_id_zones`: the zones
  carry the numbers of the grid, in their order.
* `ZoneGrid.HasAt.contains_iff`: a zone has just the points of the box that are looked up in it.
* `ZoneGrid.Tiles`: numbers tell the zones of a grid apart, and the zones share out its box.
* **`Partitioner.partition_tiles`**: every partition tiles the padded box.
-/

namespace SpatialAccess

variable {α : Type}

/-- A zone with nobody and nothing in it. -/
def Zone.emptied (z : Zone α) : Zone α :=
  { z with persons := #[], shops := #[] }

namespace ZoneGrid

variable {g : ZoneGrid α}

/-! ## Numbers of zones -/

theorem idAt_lt {column row : ℕ} (hc : column < g.order) (hr : row < g.order) :
    (g.idAt column row).index < g.order * g.order :=
  mul_add_lt hc hr

theorem idAt_inj {column row column' row' : ℕ} (hr : row < g.order) (hr' : row' < g.order)
    (h : g.idAt column row = g.idAt column' row') : column = column' ∧ row = row' :=
  mul_add_inj hr hr' (Id.mk.inj h)

theorem zone?_isSome_iff {id : ZoneId} : (g.zone? id).isSome ↔ id.index < g.order * g.order := by
  simp [zone?, g.size_zones]

/-- The rectangle of a column and a row of a grid. -/
def zoneAt (g : ZoneGrid α) (column row : Fin g.order) : Zone α :=
  rectangle g.xs g.ys g.columns g.rows column row

/-- A zone of a grid is the rectangle of a column and a row, whatever has been sorted into it. -/
structure HasAt (g : ZoneGrid α) (column row : Fin g.order) (z : Zone α) : Prop where
  zone?_eq : g.zone? (g.idAt column row) = some z
  emptied_eq : z.emptied = g.zoneAt column row

/-- The zones of a grid are its rectangles, column by column. -/
def LaidOut (g : ZoneGrid α) : Prop :=
  ∀ column row : Fin g.order, ∃ z, g.HasAt column row z

namespace HasAt

variable {column row : Fin g.order} {z z' : Zone α} (h : g.HasAt column row z)

include h

theorem id_eq : z.id = g.idAt column row :=
  congrArg Zone.id h.emptied_eq

theorem mem : z ∈ g.zones :=
  Array.mem_of_getElem? h.zone?_eq

theorem zone?_id : g.zone? z.id = some z := by
  rw [h.id_eq, h.zone?_eq]

theorem unique (h' : g.HasAt column row z') : z = z' :=
  Option.some.inj (h.zone?_eq.symm.trans h'.zone?_eq)

end HasAt

/-- Two loops, one inside the other, lay out the zones of a grid. -/
theorem laidOut_ofBox [Number α] (box : Box α) (n : ℕ) (h : 0 < n) : (ofBox box n h).LaidOut := by
  intro column row
  refine ⟨(ofBox box n h).zoneAt column row, ?_, rfl⟩
  exact List.getElem?_toArray.trans
    (getElem?_finRange_flatMap (fun column row => (ofBox box n h).zoneAt column row) column row)

section LaidOut

variable (h : g.LaidOut)

include h

theorem LaidOut.exists_hasAt {id : ZoneId} {z : Zone α} (hz : g.zone? id = some z) :
    ∃ column row : Fin g.order, id = g.idAt column row ∧ g.HasAt column row z := by
  have hlt : id.index < g.order * g.order := zone?_isSome_iff.1 (Option.isSome_of_eq_some hz)
  have hpos : 0 < g.order := Nat.pos_of_mul_pos_right (Nat.zero_lt_of_lt hlt)
  let column : Fin g.order := ⟨id.index / g.order, Nat.div_lt_of_lt_mul hlt⟩
  let row : Fin g.order := ⟨id.index % g.order, Nat.mod_lt _ hpos⟩
  have hid : id = g.idAt column row := Id.ext_index (Nat.div_add_mod' id.index g.order).symm
  obtain ⟨z', hz'⟩ := h column row
  rw [hid, hz'.zone?_eq] at hz
  exact ⟨column, row, hid, Option.some.inj hz ▸ hz'⟩

theorem LaidOut.exists_hasAt_of_mem {z : Zone α} (hz : z ∈ g.zones) :
    ∃ column row : Fin g.order, g.HasAt column row z := by
  obtain ⟨k, hk⟩ := Array.mem_iff_getElem?.1 hz
  obtain ⟨column, row, -, hat⟩ := h.exists_hasAt (show g.zone? ⟨k⟩ = some z from hk)
  exact ⟨column, row, hat⟩

/-- **The zones carry the numbers of the grid, in their order.** -/
theorem LaidOut.map_id_zones :
    g.zones.toList.map Zone.id = (List.range (g.order * g.order)).map Id.mk := by
  refine List.ext_getElem (by simp [g.size_zones]) fun k hk _ => ?_
  have hk' : k < g.zones.size := by simpa using hk
  obtain ⟨column, row, hid, hat⟩ :=
    h.exists_hasAt (show g.zone? ⟨k⟩ = some g.zones[k] from Array.getElem?_eq_getElem hk')
  simp [hat.id_eq, ← hid]

theorem LaidOut.nodup_ids : (g.zones.toList.map Zone.id).Nodup := by
  rw [h.map_id_zones]
  exact List.nodup_range.map fun _ _ h => Id.mk.inj h

end LaidOut

end ZoneGrid

/-! ## Edges that rise -/

variable [Number α]

namespace Axis

/-- The edges of an axis never fall on the way from `low` to `high`. -/
structure Rises (a : Axis α) (low high : α) : Prop where
  first_eq : (a.first == low) = true
  last_eq : (a.last == high) = true
  nonDecreasing : a.NonDecreasing

theorem edge_equal {low high : α} {n : ℕ} (hn : 0 < n) {k : ℕ} (hk : k < n)
    (h : k ≤ (equal low high n hn).cells) :
    (equal low high n hn).edge k h = low + (k : α) * ((high - low) / (n : α)) := by
  simp [edge, equal, hk]

theorem edge_equal_end {low high : α} {n : ℕ} (hn : 0 < n) (h : n ≤ (equal low high n hn).cells) :
    (equal low high n hn).edge n h = high := by
  simp [edge, equal]

theorem last_equal {low high : α} {n : ℕ} (hn : 0 < n) : (equal low high n hn).last = high := by
  simp [last, edge, equal, cells]

/-- Without rounding the last edge follows the formula of the others. -/
theorem edge_equal_real {low high : ℝ} {n : ℕ} (hn : 0 < n) {k : ℕ}
    (h : k ≤ (equal low high n hn).cells) :
    (equal low high n hn).edge k h = low + k * ((high - low) / n) := by
  have hk : k ≤ n := cells_equal low high n hn ▸ h
  obtain hlt | rfl := hk.lt_or_eq
  · exact edge_equal hn hlt h
  · have hne : (k : ℝ) ≠ 0 := Nat.cast_ne_zero.2 hn.ne'
    rw [edge_equal_end hn, mul_div_cancel₀ _ hne]
    exact (add_sub_cancel low high).symm

theorem rises_equal {low high : ℝ} (h : low ≤ high) {n : ℕ} (hn : 0 < n) :
    (equal low high n hn).Rises low high where
  first_eq := by
    rw [OrderedNumber.beq_iff_le_le, first, edge_equal_real hn]
    simp
  last_eq := by
    rw [OrderedNumber.beq_iff_le_le, last_equal hn]
    exact ⟨le_rfl, le_rfl⟩
  nonDecreasing := by
    intro k hk
    have hstep : 0 ≤ (high - low) / n := div_nonneg (sub_nonneg.2 h) n.cast_nonneg
    have hle : (k : ℝ) * ((high - low) / n) ≤ ((k + 1 : ℕ) : ℝ) * ((high - low) / n) := by
      gcongr
      exact Nat.le_succ k
    rw [edge_equal_real hn, edge_equal_real hn]
    exact add_le_add_right hle low

end Axis

/-! ## Points of zones -/

theorem Box.contains_eq_true_iff {b : Box α} {p : Point α} :
    b.contains p = true ↔ (b.minX ≤ p.x ∧ p.x ≤ b.maxX) ∧ b.minY ≤ p.y ∧ p.y ≤ b.maxY := by
  simp only [contains, Bool.and_eq_true, decide_eq_true_eq, and_assoc]

section Points

variable [OrderedNumber α]

open OrderedNumber

theorem Axis.Rises.ends_iff {a : Axis α} {low high v : α} (h : a.Rises low high) :
    (a.first ≤ v ∧ v ≤ a.last) ↔ low ≤ v ∧ v ≤ high := by
  obtain ⟨hfirst, hfirst'⟩ := beq_iff_le_le.1 h.first_eq
  obtain ⟨hlast, hlast'⟩ := beq_iff_le_le.1 h.last_eq
  constructor
  · rintro ⟨hlow, hhigh⟩
    exact ⟨le_trans hfirst' hlow, le_trans hhigh hlast⟩
  · rintro ⟨hlow, hhigh⟩
    exact ⟨le_trans hfirst hlow, le_trans hhigh hlast'⟩

namespace ZoneGrid

variable {g : ZoneGrid α}

/-- The edges of the columns and those of the rows never fall on the way through the box. -/
structure Rises (g : ZoneGrid α) : Prop where
  xs : g.xs.Rises g.box.minX g.box.maxX
  ys : g.ys.Rises g.box.minY g.box.maxY

/-- **A zone has just the points of the box that are looked up in its column and its row.** -/
theorem HasAt.contains_iff {column row : Fin g.order} {z : Zone α} (hz : g.HasAt column row z)
    (h : g.Rises) (p : Point α) :
    z.contains p = true ↔
      g.box.contains p = true ∧ column.val = g.xs.cell p.x ∧ row.val = g.ys.cell p.y := by
  have hcolumn := Axis.within_iff h.xs.nonDecreasing (v := p.x) (column.cast g.columns.symm)
  have hrow := Axis.within_iff h.ys.nonDecreasing (v := p.y) (row.cast g.rows.symm)
  simp only [Fin.val_cast, g.columns, g.rows, h.xs.ends_iff, h.ys.ends_iff, Fin.ext_iff]
    at hcolumn hrow
  change z.emptied.contains p = true ↔ _
  rw [hz.emptied_eq, Zone.contains, Bool.and_eq_true, zoneAt, rectangle, hcolumn, hrow,
    Box.contains_eq_true_iff]
  tauto

/-- Whichever column and row the look-up starts from, it finds the same zone. -/
theorem idAt_correct (h : g.Rises) {p : Point α} (hp : g.box.contains p = true)
    (column : Fin g.xs.cells) (row : Fin g.ys.cells) :
    g.idAt (g.xs.correct p.x column) (g.ys.correct p.y row) =
      g.idAt (g.xs.cell p.x) (g.ys.cell p.y) := by
  obtain ⟨⟨hminX, -⟩, hminY, -⟩ := Box.contains_eq_true_iff.1 hp
  rw [Axis.correct_eq_cell h.xs.nonDecreasing (le_right hminX),
    Axis.correct_eq_cell h.ys.nonDecreasing (le_right hminY)]

/-- The zones of a grid are told apart by their numbers, and each point of its box, but no other, is
in one of them. -/
structure Tiles (g : ZoneGrid α) : Prop where
  /-- There is a zone for each column and each row, -/
  size_zones : g.zones.size = g.order * g.order
  mem_zones : ∀ column row : Fin g.order, ∃ z ∈ g.zones, z.id.index = column * g.order + row
  /-- no two with one number, -/
  nodup_ids : (g.zones.toList.map Zone.id).Nodup
  index_lt_limit : ∀ z ∈ g.zones, z.id.index < Id.limit
  /-- and the number finds the zone that carries it. -/
  zone?_id : ∀ z ∈ g.zones, g.zone? z.id = some z
  id_zone? : ∀ id z, g.zone? id = some z → z.id = id
  /-- A point of the box is in one zone, which the look-up finds from wherever it starts. -/
  inside : ∀ p, g.box.contains p = true → ∃ z ∈ g.zones, z.contains p = true ∧
    (∀ z' ∈ g.zones, z'.contains p = true → z' = z) ∧ g.zoneOf? p = some z.id ∧
    ∀ column row, g.idAt (g.xs.correct p.x column) (g.ys.correct p.y row) = z.id
  /-- Any other point is in none. -/
  outside : ∀ p, g.box.contains p = false →
    (∀ z ∈ g.zones, z.contains p = false) ∧ g.zoneOf? p = none

theorem tiles (h : g.Rises) (hlaid : g.LaidOut) (horder : g.order ≤ Partitioner.limit) :
    g.Tiles where
  size_zones := g.size_zones
  mem_zones column row := by
    obtain ⟨z, hz⟩ := hlaid column row
    exact ⟨z, hz.mem, congrArg Id.index hz.id_eq⟩
  nodup_ids := hlaid.nodup_ids
  index_lt_limit := by
    intro z hz
    obtain ⟨column, row, hat⟩ := hlaid.exists_hasAt_of_mem hz
    have hsquare : g.order * g.order ≤ Partitioner.limit * Partitioner.limit :=
      Nat.mul_le_mul horder horder
    calc z.id.index = (g.idAt column row).index := congrArg Id.index hat.id_eq
      _ < g.order * g.order := idAt_lt column.isLt row.isLt
      _ ≤ Partitioner.limit * Partitioner.limit := hsquare
      _ < Id.limit := by decide
  zone?_id := by
    intro z hz
    obtain ⟨column, row, hat⟩ := hlaid.exists_hasAt_of_mem hz
    exact hat.zone?_id
  id_zone? := by
    intro id z hz
    obtain ⟨column, row, rfl, hat⟩ := hlaid.exists_hasAt hz
    exact hat.id_eq
  inside := by
    intro p hp
    have hcolumn : (g.xs.cell p.x).val < g.order := g.columns ▸ (g.xs.cell p.x).isLt
    have hrow : (g.ys.cell p.y).val < g.order := g.rows ▸ (g.ys.cell p.y).isLt
    obtain ⟨z, hz⟩ := hlaid ⟨_, hcolumn⟩ ⟨_, hrow⟩
    refine ⟨z, hz.mem, (hz.contains_iff h p).2 ⟨hp, rfl, rfl⟩, ?_, ?_, ?_⟩
    · intro z' hz' hz'p
      obtain ⟨column, row, hat⟩ := hlaid.exists_hasAt_of_mem hz'
      obtain ⟨-, hcolumn', hrow'⟩ := (hat.contains_iff h p).1 hz'p
      obtain rfl : column = ⟨_, hcolumn⟩ := Fin.ext hcolumn'
      obtain rfl : row = ⟨_, hrow⟩ := Fin.ext hrow'
      exact hat.unique hz
    · rw [zoneOf?, if_pos hp, hz.id_eq]
    · rw [hz.id_eq]
      exact idAt_correct h hp
  outside := by
    intro p hp
    refine ⟨fun z hz => ?_, ?_⟩
    · obtain ⟨column, row, hat⟩ := hlaid.exists_hasAt_of_mem hz
      rw [Bool.eq_false_iff, ne_eq, hat.contains_iff h, hp]
      simp
    · rw [zoneOf?, hp]
      rfl

end ZoneGrid

end Points

/-! ## Partitions -/

namespace Partitioner

theorem order_of_ofOrder {β : Type} {order : ℕ} {mode : PartitionMode} {p : Partitioner}
    (h : (ofOrder order mode : Except (ConfigError β) Partitioner) = .ok p) : p.order = order := by
  by_cases hzero : order = 0
  · simp [ofOrder, hzero] at h
  by_cases hlarge : limit < order
  · simp [ofOrder, hzero, hlarge] at h
  rw [ofOrder, dif_neg hzero, dif_neg hlarge] at h
  rw [← Except.ok.inj h]

theorem laidOut_partition (p : Partitioner) (extent : Box α) : (p.partition extent).LaidOut :=
  ZoneGrid.laidOut_ofBox _ _ p.order_pos

/-- In exact arithmetic the edges of a padded box never fall. -/
theorem rises_partition (p : Partitioner) {extent : Box ℝ} (hx : extent.minX ≤ extent.maxX)
    (hy : extent.minY ≤ extent.maxY) : (p.partition extent).Rises := by
  have hpad : ∀ {low high : ℝ}, low ≤ high → low - padding ≤ high + padding := by
    intro low high hle
    have hpadding : (0 : ℝ) ≤ padding := Nat.cast_nonneg 1
    exact (sub_le_self low hpadding).trans (hle.trans (le_add_of_nonneg_right hpadding))
  exact ⟨Axis.rises_equal (hpad hx) p.order_pos, Axis.rises_equal (hpad hy) p.order_pos⟩

/-- **Every partition tiles the padded box.** Of the edges it is only asked that they never fall on
the way from one end of the box to the other, and in exact arithmetic they never do. -/
theorem partition_tiles {β : Type} {order : ℕ} {mode : PartitionMode} {p : Partitioner}
    (h : (ofOrder order mode : Except (ConfigError β) Partitioner) = .ok p) :
    p.order = order ∧
    (∀ {α : Type} [Number α] [OrderedNumber α] (extent : Box α),
      (p.partition extent).Rises → (p.partition extent).Tiles) ∧
    ∀ extent : Box ℝ, extent.minX ≤ extent.maxX → extent.minY ≤ extent.maxY →
      (p.partition extent).Tiles :=
  ⟨order_of_ofOrder h,
    fun extent hrises => ZoneGrid.tiles hrises (p.laidOut_partition extent) p.order_le,
    fun extent hx hy =>
      ZoneGrid.tiles (p.rises_partition hx hy) (p.laidOut_partition extent) p.order_le⟩

/-- Six columns and six rows around homes along one street. -/
theorem partition_tiles_street :
    let street : Box ℝ := ⟨0, 0, 4, 0⟩
    ∃ p : Partitioner, (ofOrder 6 .symmetric : Except (ConfigError ℝ) Partitioner) = .ok p ∧
      ((p.partition street).Rises ∧ (p.partition street).Tiles) ∧
      street.minX ≤ street.maxX ∧ street.minY ≤ street.maxY ∧ (p.partition street).Tiles := by
  intro street
  have hx : street.minX ≤ street.maxX := by norm_num [street]
  have hy : street.minY ≤ street.maxY := le_rfl
  obtain ⟨p, hp⟩ : ∃ p, (ofOrder 6 .symmetric : Except (ConfigError ℝ) Partitioner) = .ok p :=
    ⟨_, rfl⟩
  have hrises : (p.partition street).Rises := p.rises_partition hx hy
  obtain ⟨-, htiles, htiles'⟩ := partition_tiles hp
  exact ⟨p, hp, ⟨hrises, htiles street hrises⟩, hx, hy, htiles' street hx hy⟩

end Partitioner

end SpatialAccess
