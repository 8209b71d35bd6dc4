import SpatialAccess.Output.Layout
import SpatialAccess.Proofs.Calls
import SpatialAccess.Proofs.Surface.Independence

/-!
# Surfaces that are filled in call by call

Values and densities are set in any order, and some calls are refused. What a surface says then is
what the calls have set that were not refused.

* `SurfaceCall`: a value or all densities to be set.
* `Surface.Keeps`: a surface says what calls have set. `Surface.Keeps.apply`: a call keeps this up.
* `Surface.Frame.getElem?_rows`: the rows of a surface, read off one by one.
  `accessibilityRecord_column`: the values of a row under the titles of its modes.
* **`Surface.history`**: what a surface says behind any calls.
-/

namespace SpatialAccess

variable {α : Type}

/-- A call that fills in a surface. -/
inductive SurfaceCall (α : Type) where
  | insert (point : PointId) (mode : Mode) (value : α)
  | setDensity (density : Array α)

namespace SurfaceCall

/-- What a call does to a surface. -/
def apply : SurfaceCall α → ExceptT (SurfaceError α) (StateM (Surface α)) PUnit
  | insert point mode value => Surface.insertM point mode value
  | setDensity density => Surface.setDensityM density

theorem atomic_apply (call : SurfaceCall α) : call.apply.Atomic := by
  cases call with
  | insert point mode value => exact Surface.atomic_insertM
  | setDensity density => exact Surface.atomic_setDensityM

/-- The value that a call sets for a point and a mode. -/
def value? (id : PointId) (mode : Mode) : SurfaceCall α → Option α
  | insert point mode' value => if id = point ∧ mode = mode' then some value else none
  | setDensity _ => none

/-- The densities that a call sets. -/
def density? : SurfaceCall α → Option (Array α)
  | insert _ _ _ => none
  | setDensity density => some density

end SurfaceCall

namespace Surface

open Calls

variable {points : Array (MeasuringPoint α)} {modes : List Mode} {s s' : Surface α}

/-! ## Accepted calls -/

/-- A surface says what calls have set: for every point and mode there is at most one value, and of
several densities the last ones count. -/
structure Keeps (points : Array (MeasuringPoint α)) (modes : List Mode) (density : Array α)
    (s : Surface α) (kept : List (SurfaceCall α)) : Prop where
  frame : Frame points modes s
  value? : ∀ id mode, kept.filterMap (SurfaceCall.value? id mode) = (s.get? id mode).toList
  density_eq : s.density = (kept.filterMap SurfaceCall.density?).getLast?.getD density
  size_density : s.density.size = points.size

theorem keeps_blank [Number α] (activityType : String) :
    Keeps points modes (Array.replicate points.size ((0 : ℕ) : α))
      (blank activityType points modes) [] where
  frame := frame_blank activityType
  value? id mode := by
    rw [get?_blank]
    rfl
  density_eq := rfl
  size_density := Array.size_replicate

/-- **An accepted call is kept**, next to all that was kept before. -/
theorem Keeps.apply {density : Array α} {kept : List (SurfaceCall α)}
    (h : Keeps points modes density s kept) {call : SurfaceCall α}
    (hcall : call.apply.exec s = (.ok ⟨⟩, s')) :
    Keeps points modes density s' (kept ++ [call]) := by
  cases call with
  | insert point mode value =>
    have hinsert : s.insert point mode value = .ok s' := ExceptT.leave_eq_ok_iff.2 hcall
    obtain ⟨slot, hslot, hpoint, hnone, hs'⟩ := insert_eq_ok_iff.1 hinsert
    have hcell : s.cell point slot < s.values.size := by
      rw [h.frame.size_eq, ← h.frame.points_eq, ← h.frame.modes_eq]
      exact cell_lt hpoint (slot_lt hslot)
    have hdensity : s'.density = s.density := by rw [hs']
    refine ⟨(h.frame.insert hinsert).1, fun id mode' => ?_, ?_, hdensity ▸ h.size_density⟩
    · rw [List.filterMap_append, h.value?, get?_setIfInBounds hslot hcell hs']
      by_cases hsame : id = point ∧ mode' = mode
      · obtain ⟨rfl, rfl⟩ := hsame
        simp [SurfaceCall.value?, hnone]
      · simp [SurfaceCall.value?, hsame]
    · rw [hdensity, List.filterMap_append, h.density_eq]
      simp [SurfaceCall.density?]
  | setDensity density' =>
    obtain ⟨hsize, rfl⟩ := setDensity_eq_ok_iff.1 (ExceptT.leave_eq_ok_iff.2 hcall)
    refine ⟨⟨h.frame.points_eq, h.frame.modes_eq, h.frame.size_eq⟩, fun id mode => ?_, ?_, ?_⟩
    · rw [List.filterMap_append, h.value?]
      simp [SurfaceCall.value?, Surface.get?, Surface.slot?, Surface.cell]
    · rw [List.filterMap_append]
      simp [SurfaceCall.density?]
    · rw [← h.frame.points_eq]
      exact hsize

/-- What is kept of any calls. -/
theorem keeps_after [Number α] (activityType : String) (calls : List (SurfaceCall α)) :
    Keeps points modes (Array.replicate points.size ((0 : ℕ) : α))
      (after SurfaceCall.apply (blank activityType points modes) calls)
      (accepted SurfaceCall.apply (blank activityType points modes) calls) :=
  holds_after SurfaceCall.atomic_apply _ (fun _ _ _ _ h hcall => h.apply hcall)
    (keeps_blank activityType) calls

/-! ## Rows -/

theorem map_some_filterMap {β γ : Type} {f : β → Option γ} {xs : List β}
    (h : ∀ x ∈ xs, (f x).isSome = true) : (xs.filterMap f).map some = xs.map f := by
  induction xs with
  | nil => rfl
  | cons x xs ih =>
    obtain ⟨hx, hxs⟩ := List.forall_mem_cons.1 h
    obtain ⟨y, hy⟩ := Option.isSome_iff_exists.1 hx
    rw [List.filterMap_cons_some hy, List.map_cons, List.map_cons, hy, ih hxs]

/-- The rows follow the points, and no row is missing. -/
theorem Frame.map_some_rows (hs : Frame points modes s) (hdensity : s.density.size = points.size) :
    s.rows.map some = (List.range points.size).map s.row? := by
  rw [rows, hs.points_eq]
  refine map_some_filterMap fun i hi => ?_
  obtain ⟨row, hrow, -⟩ := hs.exists_row? hdensity (List.mem_range.1 hi)
  rw [hrow, Option.isSome_some]

theorem Frame.length_rows (hs : Frame points modes s) (hdensity : s.density.size = points.size) :
    s.rows.length = points.size := by
  have hlength := congrArg List.length (hs.map_some_rows hdensity)
  rwa [List.length_map, List.length_map, List.length_range] at hlength

theorem Frame.getElem?_rows (hs : Frame points modes s) (hdensity : s.density.size = points.size)
    {i : ℕ} (hi : i < points.size) : s.rows[i]? = s.row? i := by
  have hget := congrArg (fun rows => rows[i]?) (hs.map_some_rows hdensity)
  simp only [List.getElem?_map, List.getElem?_range hi, Option.map_some] at hget
  obtain ⟨row, hrow, hsome⟩ := Option.map_eq_some_iff.1 hget
  rw [hrow, hsome]

end Surface

/-! ## Tables -/

open Decimal (display)

/-- The text of a value; one that was not set has none. -/
def valueText (value : Option Float) : String :=
  (value.map display).getD ""

/-- A record has a field for every title, and the values stand under the titles of their modes. -/
theorem accessibilityRecord_column {row : SurfaceRow Float} {modes : List Mode}
    (hlength : row.values.length = modes.length) :
    (accessibilityRecord row).length = (accessibilityHeader modes).length ∧
      ∀ k (hk : k < modes.length),
        (accessibilityHeader modes)[2 + k]? = some (modes[k].name ++ "_accessibility") ∧
        (accessibilityRecord row)[2 + k]? = (row.values[k]?).map valueText := by
  have hrecord : accessibilityRecord row =
      [display row.point.coord.x, display row.point.coord.y] ++
        (row.values.map valueText ++ [display row.density]) := rfl
  have hheader : accessibilityHeader modes =
      ["x", "y"] ++ (modes.map (fun m => m.name ++ "_accessibility") ++ ["population_density"]) :=
    rfl
  constructor
  · simp [hrecord, hheader, hlength]
  · intro k hk
    have hk' : k < row.values.length := hlength ▸ hk
    constructor
    · rw [hheader, List.getElem?_append_right (Nat.le_add_right 2 k), List.length_cons,
        List.length_singleton, Nat.add_sub_cancel_left,
        List.getElem?_append_left (by simpa using hk), List.getElem?_map,
        List.getElem?_eq_getElem hk, Option.map_some]
    · rw [hrecord, List.getElem?_append_right (Nat.le_add_right 2 k), List.length_cons,
        List.length_singleton, Nat.add_sub_cancel_left,
        List.getElem?_append_left (by simpa using hk'), List.getElem?_map]

namespace Surface

open Calls

/-! ## Histories -/

/-- **What a surface says is what was set.** Behind any calls, a call is refused just for the given
reasons, and leaves no trace then. For every point and mode there is the value of the only call that
has set one, or none; so no two of them share a place. The rows follow the points, in each of them
the values follow the modes, and the density is that of the last column that was accepted; so the
fields of a record stand under their titles. -/
theorem history (activityType : String) {points : Array (MeasuringPoint Float)} {modes : List Mode}
    (hmodes : modes.Nodup) (hids : ∀ i (h : i < points.size), points[i].id = ⟨i⟩)
    (calls : List (SurfaceCall Float)) :
    let start := blank activityType points modes
    let s := after SurfaceCall.apply start calls
    let kept := accepted SurfaceCall.apply start calls
    (∀ call e, ((SurfaceCall.apply call).exec s).1 = .error e →
      ((SurfaceCall.apply call).exec s).2 = s ∧
        ∀ rest, after SurfaceCall.apply start (calls ++ call :: rest) =
          after SurfaceCall.apply start (calls ++ rest)) ∧
    (∀ point mode value e, ((insertM point mode value).exec s).1 = .error e ↔
      (mode ∉ modes ∧ e = .modeNotEnabled mode) ∨
      (mode ∈ modes ∧ points.size ≤ point.index ∧ e = .unknownPoint point) ∨
      (mode ∈ modes ∧ point.index < points.size ∧ (∃ v, s.get? point mode = some v) ∧
        e = .duplicateValue point mode)) ∧
    (∀ density e, ((setDensityM density).exec s).1 = .error e ↔
      density.size ≠ points.size ∧ e = .data (.densityLength density.size points.size)) ∧
    (∀ id mode, kept.filterMap (SurfaceCall.value? id mode) = (s.get? id mode).toList) ∧
    (∀ id mode slot id' mode' slot', s.slot? mode = some slot → s.slot? mode' = some slot' →
      s.cell id slot = s.cell id' slot' → id = id' ∧ mode = mode') ∧
    s.density = (kept.filterMap SurfaceCall.density?).getLast?.getD start.density ∧
    s.rows.length = points.size ∧
    ∀ i (hi : i < points.size), ∃ row, s.rows[i]? = some row ∧ row.point = points[i] ∧
      row.values.length = modes.length ∧ s.density[i]? = some row.density ∧
      (∀ k (hk : k < modes.length), row.values[k]? = some (s.get? points[i].id modes[k])) ∧
      (accessibilityRecord row).length = (accessibilityHeader modes).length ∧
      ∀ k (hk : k < modes.length),
        (accessibilityHeader modes)[2 + k]? = some (modes[k].name ++ "_accessibility") ∧
        (accessibilityRecord row)[2 + k]? = some (valueText (s.get? points[i].id modes[k])) := by
  intro start s kept
  obtain ⟨hframe, hvalue, hdensity, hsize⟩ : Keeps points modes start.density s kept :=
    keeps_after activityType calls
  refine ⟨fun call e hcall => after_refused SurfaceCall.atomic_apply hcall, ?_, ?_, hvalue, ?_,
    hdensity, hframe.length_rows hsize, fun i hi => ?_⟩
  · intro point mode value e
    rw [insertM_eq_error_iff, hframe.modes_eq, hframe.points_eq]
  · intro density e
    rw [setDensityM_eq_error_iff, hframe.points_eq]
  · intro id mode slot id' mode' slot' hslot hslot' hcell
    obtain ⟨rfl, rfl⟩ := cell_inj (slot_lt hslot) (slot_lt hslot') hcell
    exact ⟨rfl, slot?_inj hslot hslot'⟩
  · obtain ⟨row, hrow, hpoint, hdense, hlength, hslots⟩ := hframe.exists_row? hsize hi
    have hvalues : ∀ k (hk : k < modes.length),
        row.values[k]? = some (s.get? points[i].id modes[k]) := by
      intro k hk
      have hslot : s.slot? modes[k] = some k := by
        rw [slot?, hframe.modes_eq]
        exact slot?_getElem (s := start) hmodes hk
      rw [hids i hi]
      exact hslots _ _ hslot
    obtain ⟨hfields, hcolumns⟩ := accessibilityRecord_column hlength
    refine ⟨row, (hframe.getElem?_rows hsize hi).trans hrow, ?_, hlength, hdense, hvalues, hfields,
      fun k hk => ⟨(hcolumns k hk).1, ?_⟩⟩
    · rw [Array.getElem?_eq_getElem hi] at hpoint
      exact (Option.some.inj hpoint).symm
    · rw [(hcolumns k hk).2, hvalues k hk, Option.map_some]

/-- Two places on a street and two modes; the second value for a cell is refused, and so are one for
a place that is not there and a short column of densities. -/
theorem history_street :
    let points : Array (MeasuringPoint Float) :=
      #[{ id := ⟨0⟩, coord := ⟨25, 25⟩, node := ⟨0⟩, access := 35 },
        { id := ⟨1⟩, coord := ⟨75, 25⟩, node := ⟨1⟩, access := 35 }]
    let modes : List Mode := [.walk, .transit]
    let calls : List (SurfaceCall Float) := [.insert ⟨1⟩ .walk 5, .insert ⟨1⟩ .walk 7,
      .insert ⟨0⟩ .transit 3, .insert ⟨9⟩ .walk 4, .setDensity #[2, 0], .setDensity #[1]]
    let s := after SurfaceCall.apply (blank "shop" points modes) calls
    modes.Nodup ∧ (∀ i (h : i < points.size), points[i].id = ⟨i⟩) ∧
      s.get? ⟨1⟩ .walk = some 5 ∧ s.get? ⟨1⟩ .transit = none ∧ s.rows.length = 2 := by
  intro points modes calls s
  have hmodes : modes.Nodup := by decide
  have hids : ∀ i (h : i < points.size), points[i].id = ⟨i⟩ := by
    intro i hi
    obtain rfl | rfl : i = 0 ∨ i = 1 := by
      have hsize : points.size = 2 := rfl
      omega
    · rfl
    · rfl
  obtain ⟨-, -, -, hvalue, -, -, hrows, -⟩ := history "shop" hmodes hids calls
  refine ⟨hmodes, hids, ?_, ?_, hrows⟩
  · have hset : (s.get? ⟨1⟩ .walk).toList = [5] := (hvalue ⟨1⟩ .walk).symm.trans rfl
    exact Option.toList_eq_singleton_iff.1 hset
  · have hset : (s.get? ⟨1⟩ .transit).toList = [] := (hvalue ⟨1⟩ .transit).symm.trans rfl
    exact Option.toList_eq_nil_iff.1 hset

end Surface

end SpatialAccess
