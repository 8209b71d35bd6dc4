import Mathlib.Data.List.Nodup
import SpatialAccess.Proofs.RowMajor
import SpatialAccess.Proofs.Surface.Setting
import SpatialAccess.Surface.Compute

/-!
# Filling in a surface

The cells of a surface are set row by row, and in a row mode by mode; so at any moment a beginning of
the cells is set and the rest is empty.

* `Surface.filled`: a surface whose first cells are set.
* `Surface.insert_filled`: the next cell can always be set. `SurfaceModel.insertRow_filled`,
  `SurfaceModel.foldlM_insertRow_filled`: so can the next row, and all of them.
* **`Surface.get?_filled`**, **`Surface.rows_filled`**: what is read from a surface with all rows.
-/

namespace SpatialAccess

variable {α : Type}

namespace Surface

/-- A surface whose first cells are set to values, in their order, and no others. -/
def filled (s : Surface α) (values : List α) : Surface α :=
  { s with values := (values.map some ++
      List.replicate (s.points.size * s.modes.length - values.length) none).toArray }

theorem filled_nil_blank [Number α] (activityType : String) (points : Array (MeasuringPoint α))
    (modes : List Mode) :
    (blank activityType points modes).filled [] = blank activityType points modes := by
  simp [filled, blank]

section Insert

variable {s : Surface α} {values : List α} {point : PointId} {slot : Nat}

theorem slot?_getElem (hmodes : s.modes.Nodup) (hslot : slot < s.modes.length) :
    s.slot? s.modes[slot] = some slot := by
  rw [slot?, List.idxOf?_eq_some_iff]
  refine ⟨hslot, rfl, fun j hj h => ?_⟩
  have : j = slot := (hmodes.getElem_inj_iff).1 h
  omega

theorem cell_lt (hpoint : point.index < s.points.size) (hslot : slot < s.modes.length) :
    s.cell point slot < s.points.size * s.modes.length :=
  mul_add_lt hpoint hslot

/-- **The next cell can be set.** -/
theorem insert_filled (hmodes : s.modes.Nodup) (hpoint : point.index < s.points.size)
    (hslot : slot < s.modes.length) (hnext : values.length = s.cell point slot) (value : α) :
    (s.filled values).insert point s.modes[slot] value = .ok (s.filled (values ++ [value])) := by
  have hlt : values.length < s.points.size * s.modes.length := hnext ▸ cell_lt hpoint hslot
  have hsplit : s.points.size * s.modes.length - values.length =
      (s.points.size * s.modes.length - (values.length + 1)) + 1 := by omega
  have hslot' : (s.filled values).slot? s.modes[slot] = some slot := slot?_getElem hmodes hslot
  have hcell : (s.filled values).cell point slot = values.length := hnext.symm
  have hempty : ((s.filled values).values[values.length]?).join = none := by
    simp [filled, hsplit, List.replicate_succ]
  have hset : (s.filled values).values.setIfInBounds values.length (some value) =
      (s.filled (values ++ [value])).values := by
    simp [filled, hsplit, List.replicate_succ]
  rw [insert_eq_ok_iff]
  refine ⟨slot, hslot', hpoint, ?_, ?_⟩
  · rw [get?_of_slot? point hslot', hcell, hempty]
  · rw [hcell, hset]
    rfl

end Insert

end Surface

/-! ## Rows -/

namespace SurfaceModel

open Surface

variable {s : Surface α}

/-- The rest of a row can be set. -/
theorem foldlM_insert_filled (hmodes : s.modes.Nodup) {point : PointId}
    (hpoint : point.index < s.points.size) (set : List Mode) {rest : List Mode}
    (hsplit : s.modes = set ++ rest) {values row : List α}
    (hrow : row.length = rest.length) (hnext : values.length = s.cell point set.length) :
    (rest.zip row).foldlM (fun s (mode, value) => s.insert point mode value) (s.filled values) =
      .ok (s.filled (values ++ row)) := by
  induction rest generalizing set values row with
  | nil =>
    obtain rfl := List.eq_nil_of_length_eq_zero hrow
    simp only [List.zip_nil_left, List.foldlM_nil, List.append_nil]
    rfl
  | cons mode rest ih =>
    obtain ⟨value, row, rfl⟩ := List.exists_cons_of_length_eq_add_one hrow
    have hslot : set.length < s.modes.length := by simp [hsplit]
    have hmode : s.modes[set.length] = mode := by simp [hsplit]
    have hinsert := insert_filled hmodes hpoint hslot hnext value
    rw [hmode] at hinsert
    have hnext' : (values ++ [value]).length = s.cell point (set ++ [mode]).length := by
      simp only [List.length_append, List.length_cons, List.length_nil, hnext, cell]
      omega
    rw [List.zip_cons_cons, List.foldlM_cons]
    refine Except.bind_eq_ok.2 ⟨_, hinsert, ?_⟩
    rw [ih (set ++ [mode]) (by simp [hsplit]) (by simpa using hrow) hnext',
      List.append_assoc, List.singleton_append]

/-- **The next row can be set.** -/
theorem insertRow_filled (hmodes : s.modes.Nodup) {point : MeasuringPoint α}
    (hpoint : point.id.index < s.points.size) {values row : List α}
    (hrow : row.length = s.modes.length)
    (hnext : values.length = point.id.index * s.modes.length) :
    insertRow (s.filled values) point row = .ok (s.filled (values ++ row)) :=
  foldlM_insert_filled hmodes hpoint [] rfl hrow hnext

/-- All further rows can be set. -/
theorem foldlM_insertRow_filled (hmodes : s.modes.Nodup) {points : List (MeasuringPoint α)}
    {rows : List (List α)} (hlength : rows.length = points.length)
    (hrows : ∀ row ∈ rows, row.length = s.modes.length) {k : Nat}
    (hk : k + points.length ≤ s.points.size)
    (hids : ∀ i (h : i < points.length), points[i].id.index = k + i) {values : List α}
    (hnext : values.length = k * s.modes.length) :
    (points.zip rows).foldlM (fun s (point, row) => insertRow s point row) (s.filled values) =
      .ok (s.filled (values ++ rows.flatten)) := by
  induction points generalizing rows k values with
  | nil =>
    obtain rfl := List.eq_nil_of_length_eq_zero hlength
    simp only [List.zip_nil_left, List.foldlM_nil, List.flatten_nil, List.append_nil]
    rfl
  | cons point points ih =>
    obtain ⟨row, rows, rfl⟩ := List.exists_cons_of_length_eq_add_one hlength
    rw [List.length_cons] at hk
    have hid : point.id.index = k := hids 0 (Nat.zero_lt_succ _)
    have hrow : row.length = s.modes.length := hrows row List.mem_cons_self
    have hpoint : point.id.index < s.points.size := by omega
    have hinsert := insertRow_filled hmodes hpoint hrow (hid ▸ hnext)
    have hnext' : (values ++ row).length = (k + 1) * s.modes.length := by
      rw [List.length_append, hnext, hrow, Nat.succ_mul]
    have hids' : ∀ i (h : i < points.length), points[i].id.index = k + 1 + i := by
      intro i h
      have := hids (i + 1) (Nat.succ_lt_succ h)
      rw [List.getElem_cons_succ] at this
      omega
    rw [List.zip_cons_cons, List.foldlM_cons]
    refine Except.bind_eq_ok.2 ⟨_, hinsert, ?_⟩
    rw [ih (by simpa using hlength) (fun row h => hrows row (List.mem_cons_of_mem _ h)) (by omega)
      hids' hnext', List.flatten_cons, List.append_assoc]

end SurfaceModel

/-! ## Reading -/

namespace Surface

theorem filterMap_getElem?_range {β : Type} (xs : List β) :
    (List.range xs.length).filterMap (xs[·]?) = xs := by
  induction xs with
  | nil => rfl
  | cons x xs ih => simp [List.range_succ_eq_map, List.filterMap_map, ih]

section Read

variable {s : Surface α} {rows : List (List α)} (hlength : rows.length = s.points.size)
  (hrows : ∀ row ∈ rows, row.length = s.modes.length)

include hlength hrows

theorem values_filled : (s.filled rows.flatten).values.toList = rows.flatten.map some := by
  have hsize : rows.flatten.length = s.points.size * s.modes.length := by
    rw [length_flatten_rows hrows, hlength]
  simp [filled, hsize]

theorem values_row {i : Nat} {row : List α} (h : rows[i]? = some row) :
    ((s.filled rows.flatten).values.toList.drop (i * s.modes.length)).take s.modes.length =
      row.map some := by
  rw [values_filled hlength hrows, ← List.map_drop, ← List.map_take, take_drop_flatten hrows h]

/-- **Every cell is set, to the value of its row and its mode.** -/
theorem get?_filled (hmodes : s.modes.Nodup) {point : PointId} {row : List α}
    (h : rows[point.index]? = some row) {slot : Nat} (hslot : slot < s.modes.length) :
    (s.filled rows.flatten).get? point s.modes[slot] = row[slot]? := by
  have hslot' : (s.filled rows.flatten).slot? s.modes[slot] = some slot := slot?_getElem hmodes hslot
  have hcell : (s.filled rows.flatten).values[point.index * s.modes.length + slot]? =
      (row.map some)[slot]? := by
    rw [← values_row hlength hrows h, List.getElem?_take_of_lt hslot, List.getElem?_drop,
      Array.getElem?_toList]
  rw [get?, hslot']
  change ((s.filled rows.flatten).values[point.index * s.modes.length + slot]?).join = _
  rw [hcell, List.getElem?_map]
  cases row[slot]? <;> rfl

theorem row?_filled (hdensity : s.density.size = s.points.size) {i : Nat} (hi : i < s.points.size)
    {row : List α} (h : rows[i]? = some row) :
    (s.filled rows.flatten).row? i =
      some { point := s.points[i], values := row.map some, density := s.density[i] } := by
  have hwidth : (i + 1) * s.modes.length - i * s.modes.length = s.modes.length := by
    rw [Nat.succ_mul, Nat.add_sub_cancel_left]
  have hvalues : ((s.filled rows.flatten).values.extract (i * s.modes.length)
      ((i + 1) * s.modes.length)).toList = row.map some := by
    rw [Array.toList_extract, List.extract_eq_take_drop, hwidth, values_row hlength hrows h]
  have hpoint : (s.filled rows.flatten).points[i]? = some s.points[i] := Array.getElem?_eq_getElem hi
  have hdense : (s.filled rows.flatten).density[i]? = some s.density[i] :=
    Array.getElem?_eq_getElem _
  rw [row?, hpoint, hdense]
  exact congrArg (fun values => some (SurfaceRow.mk s.points[i] values s.density[i])) hvalues

/-- **The rows follow the points, and in each row the values follow the modes.** -/
theorem rows_filled (hdensity : s.density.size = s.points.size) :
    (s.filled rows.flatten).rows.map SurfaceRow.point = s.points.toList ∧
      (s.filled rows.flatten).rows.map SurfaceRow.values = rows.map (List.map some) := by
  have hrow : ∀ i ∈ List.range s.points.size, ∃ (hi : i < s.points.size) (row : _) (d : α),
      rows[i]? = some row ∧ (s.filled rows.flatten).row? i =
        some { point := s.points[i], values := row.map some, density := d } := by
    intro i hi
    have hlt : i < s.points.size := List.mem_range.1 hi
    have hlt' : i < rows.length := hlength ▸ hlt
    have hget : rows[i]? = some rows[i] := List.getElem?_eq_getElem hlt'
    exact ⟨hlt, _, _, hget, row?_filled hlength hrows hdensity hlt hget⟩
  constructor
  · rw [Surface.rows, List.map_filterMap]
    refine Eq.trans (List.filterMap_congr fun i hi => ?_) (filterMap_getElem?_range s.points.toList)
    obtain ⟨hlt, row, d, -, h⟩ := hrow i hi
    rw [h, Array.getElem?_toList, Array.getElem?_eq_getElem hlt]
    rfl
  · rw [Surface.rows, List.map_filterMap]
    refine Eq.trans ?_ (filterMap_getElem?_range (rows.map (List.map some)))
    rw [List.length_map, hlength]
    refine List.filterMap_congr fun i hi => ?_
    obtain ⟨_, row, d, hget, h⟩ := hrow i hi
    rw [h, List.getElem?_map, hget]
    rfl

end Read

end Surface

end SpatialAccess
