import SpatialAccess.Proofs.Surface.Agreement
import SpatialAccess.Proofs.Surface.Reporting

/-!
# Columns do not influence each other

The values of a surface are kept in one array, a row of modes after the other, and trees, values and
modes are matched by their places. So a run that asks for other modes puts the same values elsewhere.

* `Surface.Frame`: a surface over given points and modes. `Surface.Knows`: a value that it has.
  **`Surface.Frame.insert`**: to set a cell is to know one value more.
* `Surface.Frame.exists_row?`: what is read from a row.
* `SurfaceModel.modeValue`: the value of a point in one mode, where no other mode comes in.
* `SurfaceModel.knows_of_compute`, **`SurfaceModel.get?_of_compute`**: a surface knows just the
  values of its points in its modes.
* `Surface.Agree`: surfaces agree in all that both have.
* **`SurfaceModel.surfaces_agree`**: runs that differ in modes and activity types only agree on every
  activity type that both compute.
-/

namespace SpatialAccess

variable {α : Type}

/-! ## Setting cells -/

namespace Surface

/-- A surface over given points and modes, with a cell for each of both. -/
structure Frame (points : Array (MeasuringPoint α)) (modes : List Mode) (s : Surface α) : Prop where
  points_eq : s.points = points
  modes_eq : s.modes = modes
  size_eq : s.values.size = points.size * modes.length

/-- Whether a surface has a value for a point and a mode. -/
def Knows (s : Surface α) (c : PointId × Mode × α) : Prop :=
  s.get? c.1 c.2.1 = some c.2.2

variable {points : Array (MeasuringPoint α)} {modes : List Mode} {s s' : Surface α}

theorem frame_blank [Number α] (activityType : String) :
    Frame points modes (blank activityType points modes) :=
  ⟨rfl, rfl, Array.size_replicate⟩

theorem get?_blank [Number α] (activityType : String) (id : PointId) (mode : Mode) :
    (blank activityType points modes).get? id mode = none := by
  unfold get?
  cases (blank activityType points modes).slot? mode with
  | none => rfl
  | some slot =>
    simp only [blank, Array.getElem?_replicate, Option.bind_eq_bind, Option.bind_some]
    split <;> rfl

theorem get?_of_slot?_eq_none {id : PointId} {mode : Mode} (h : s.slot? mode = none) :
    s.get? id mode = none := by
  rw [get?, h]
  rfl

/-- No two points and slots share a cell. -/
theorem cell_inj {id id' : PointId} {slot slot' : Nat} (hslot : slot < s.modes.length)
    (hslot' : slot' < s.modes.length) (h : s.cell id slot = s.cell id' slot') :
    id = id' ∧ slot = slot' := by
  obtain ⟨hindex, hslots⟩ := mul_add_inj hslot hslot' h
  exact ⟨Id.ext_index hindex, hslots⟩

/-- To set a cell changes what is looked up for its point and its mode, and nothing else. -/
theorem get?_setIfInBounds {point : PointId} {mode : Mode} {slot : Nat} {value : α}
    (hslot : s.slot? mode = some slot) (hcell : s.cell point slot < s.values.size)
    (hs' : s' = { s with values := s.values.setIfInBounds (s.cell point slot) (some value) })
    (id : PointId) (mode' : Mode) :
    s'.get? id mode' = if id = point ∧ mode' = mode then some value else s.get? id mode' := by
  have hslots : s'.slot? mode' = s.slot? mode' := by simp [hs', slot?]
  cases hslot' : s.slot? mode' with
  | none =>
    have hmode : mode' ≠ mode := by
      rintro rfl
      cases hslot.symm.trans hslot'
    rw [get?_of_slot?_eq_none (hslots.trans hslot'), get?_of_slot?_eq_none hslot',
      if_neg fun h => hmode h.2]
  | some slot' =>
    have hvalues : s'.values[s'.cell id slot']? =
        if s.cell point slot = s.cell id slot' then
          if s.cell point slot < s.values.size then some (some value) else none
        else s.values[s.cell id slot']? := by
      rw [hs']
      exact Array.getElem?_setIfInBounds
    rw [get?_of_slot? id (hslots.trans hslot'), hvalues, if_pos hcell]
    by_cases hsame : s.cell point slot = s.cell id slot'
    · obtain ⟨rfl, rfl⟩ := cell_inj (slot_lt hslot) (slot_lt hslot') hsame
      obtain rfl := slot?_inj hslot hslot'
      rw [if_pos rfl, if_pos ⟨rfl, rfl⟩]
      rfl
    · have hother : ¬(id = point ∧ mode' = mode) := by
        rintro ⟨rfl, rfl⟩
        obtain rfl := Option.some.inj (hslot.symm.trans hslot')
        exact hsame rfl
      rw [if_neg hsame, if_neg hother, get?_of_slot? id hslot']

/-- **To set a cell is to know one value more.** -/
theorem Frame.insert (hs : Frame points modes s) {point : PointId} {mode : Mode} {value : α}
    (h : s.insert point mode value = .ok s') :
    Frame points modes s' ∧
      ∀ c, s'.Knows c ↔ (c.1 = point ∧ c.2.1 = mode ∧ c.2.2 = value) ∨ s.Knows c := by
  obtain ⟨slot, hslot, hpoint, hnone, hs'⟩ := insert_eq_ok_iff.1 h
  have hcell : s.cell point slot < s.values.size := by
    rw [hs.size_eq, ← hs.points_eq, ← hs.modes_eq]
    exact cell_lt hpoint (slot_lt hslot)
  refine ⟨?_, fun c => ?_⟩
  · rw [hs']
    exact ⟨hs.points_eq, hs.modes_eq, Array.size_setIfInBounds.trans hs.size_eq⟩
  · obtain ⟨id, mode', v⟩ := c
    rw [Knows, Knows, get?_setIfInBounds hslot hcell hs']
    by_cases hsame : id = point ∧ mode' = mode
    · -- nothing was known of this cell before
      obtain ⟨rfl, rfl⟩ := hsame
      rw [if_pos ⟨rfl, rfl⟩, hnone]
      simp [eq_comm]
    · rw [if_neg hsame]
      tauto

/-! ## Reading rows -/

/-- A row has the values of its point under the slots of the modes. -/
theorem Frame.exists_row? (hs : Frame points modes s) (hdensity : s.density.size = points.size)
    {i : Nat} (hi : i < points.size) :
    ∃ row, s.row? i = some row ∧ points[i]? = some row.point ∧ s.density[i]? = some row.density ∧
      row.values.length = modes.length ∧
      ∀ mode slot, s.slot? mode = some slot → row.values[slot]? = some (s.get? ⟨i⟩ mode) := by
  have hpoint : s.points[i]? = some points[i] := by
    rw [hs.points_eq]
    exact Array.getElem?_eq_getElem hi
  have hdense : s.density[i]? = some s.density[i] := Array.getElem?_eq_getElem (hdensity ▸ hi)
  have hwidth : (i + 1) * s.modes.length - i * s.modes.length = s.modes.length := by
    rw [Nat.succ_mul, Nat.add_sub_cancel_left]
  refine ⟨_, by rw [row?, hpoint, hdense]; rfl, Array.getElem?_eq_getElem hi, hdense, ?_, ?_⟩
  · have hend : (i + 1) * s.modes.length ≤ s.values.size := by
      rw [hs.size_eq, hs.modes_eq]
      exact Nat.mul_le_mul_right _ hi
    rw [Array.length_toList, Array.size_extract, Nat.min_eq_left hend, hwidth, hs.modes_eq]
  intro mode slot hslot
  have hlt : slot < s.modes.length := slot_lt hslot
  have hcell : s.cell ⟨i⟩ slot < s.values.size := by
    rw [hs.size_eq, ← hs.points_eq, ← hs.modes_eq]
    exact cell_lt (by rwa [hs.points_eq]) hlt
  have hjoin : s.get? ⟨i⟩ mode = s.values[s.cell ⟨i⟩ slot] := by
    rw [get?_of_slot? _ hslot, Array.getElem?_eq_getElem hcell]
    rfl
  rw [Array.toList_extract, List.extract_eq_take_drop, hwidth, List.getElem?_take_of_lt hlt,
    List.getElem?_drop, Array.getElem?_toList, hjoin]
  exact Array.getElem?_eq_getElem hcell

end Surface

/-! ## What a surface knows -/

namespace SurfaceModel

open Surface

variable [Number α] {m : SurfaceModel α} {set : OpportunitySet α} {facilities : Facilities α}

/-- The value of a point in one mode. -/
def modeValue (m : SurfaceModel α) (set : OpportunitySet α) (point : MeasuringPoint α)
    (mode : Mode) : Except (SurfaceError α) α := do
  m.value point set mode (← m.tree? point.node mode)

/-- The values of a point are its values in one mode after the other. -/
theorem mapM_modeValue_of_pointValues {point : MeasuringPoint α} {row : List α}
    (h : m.pointValues set point = .ok row) :
    m.settings.modes.mapM (m.modeValue set point) = .ok row := by
  obtain ⟨trees, htrees, hrow⟩ := Except.bind_eq_ok.1 h
  replace htrees : m.settings.modes.mapM (m.tree? point.node) = .ok trees := htrees
  rw [Except.mapM_eq_ok_iff] at htrees
  rw [valuesWith, Except.mapM_eq_ok_iff] at hrow
  rw [Except.mapM_eq_ok_iff]
  clear h
  generalize m.settings.modes = modes at htrees ⊢ hrow
  -- modes and trees are matched by their places, and so are both with the values
  induction htrees generalizing row with
  | nil =>
    cases hrow
    exact .nil
  | cons htree _ ih =>
    cases hrow with
    | cons hvalue hrow => exact .cons (Except.bind_eq_ok.2 ⟨_, htree, hvalue⟩) (ih hrow)

omit [Number α] in
theorem insertRow_gains {points : Array (MeasuringPoint α)} {modes : List Mode} {s s' : Surface α}
    (hs : Frame points modes s) {point : MeasuringPoint α} {row : List α}
    (h : insertRow s point row = .ok s') :
    Frame points modes s' ∧
      ∀ c, s'.Knows c ↔ (c.1 = point.id ∧ c.2 ∈ modes.zip row) ∨ s.Knows c := by
  rw [insertRow, hs.modes_eq] at h
  obtain ⟨hframe, hknown⟩ := Except.foldlM_gains (Frame points modes) Knows
    (fun (x : Mode × α) c => c.1 = point.id ∧ c.2.1 = x.1 ∧ c.2.2 = x.2)
    (fun s x s' hs h => hs.insert h) hs h
  refine ⟨hframe, fun c => ?_⟩
  rw [hknown]
  refine or_congr_left ⟨?_, fun ⟨hid, hc⟩ => ⟨c.2, hc, hid, rfl, rfl⟩⟩
  rintro ⟨x, hx, hid, hmode, hvalue⟩
  rw [← Prod.ext hmode hvalue] at hx
  exact ⟨hid, hx⟩

/-- A surface that is computed knows what the rows of its points say. -/
theorem knows_of_compute {s : Surface α} (h : m.compute set facilities = .ok s) :
    Frame m.grid.points m.settings.modes s ∧ s.density = m.anchorDensity facilities ∧
    ∃ rows, m.grid.points.toList.mapM (m.pointValues set) = .ok rows ∧
      ∀ c, s.Knows c ↔ ∃ x ∈ m.grid.points.toList.zip rows,
        c.1 = x.1.id ∧ c.2 ∈ m.settings.modes.zip x.2 := by
  obtain ⟨rows, hrows, h⟩ := Except.bind_eq_ok.1 h
  obtain ⟨filled, hfilled, h⟩ := Except.bind_eq_ok.1 h
  obtain ⟨hframe, hknown⟩ := Except.foldlM_gains (Frame m.grid.points m.settings.modes) Knows
    (fun (x : MeasuringPoint α × List α) c => c.1 = x.1.id ∧ c.2 ∈ m.settings.modes.zip x.2)
    (fun s x s' hs h => insertRow_gains hs h) (frame_blank set.activityType) hfilled
  have hs : s = { filled with density := m.anchorDensity facilities } := by
    obtain ⟨-, hfilled⟩ := setDensity_eq_ok_iff.1 h
    exact hfilled
  refine ⟨?_, by rw [hs], rows.toList, allValues_eq_ok_iff.1 hrows, fun c => ?_⟩
  · rw [hs]
    exact ⟨hframe.points_eq, hframe.modes_eq, hframe.size_eq⟩
  · have hsame : s.Knows c ↔ filled.Knows c := by rw [hs]; exact Iff.rfl
    have hblank : ¬(blank set.activityType m.grid.points m.settings.modes).Knows c := by
      simp [Knows, get?_blank]
    rw [hsame, hknown, or_iff_left hblank]

/-- **A surface knows just the values of its points in its modes.** -/
theorem get?_of_compute {s : Surface α} (h : m.compute set facilities = .ok s) :
    (∀ id mode v, s.get? id mode = some v ↔ mode ∈ m.settings.modes ∧
      ∃ point ∈ m.grid.points, point.id = id ∧ m.modeValue set point mode = .ok v) ∧
    ∀ mode ∈ m.settings.modes, ∀ point ∈ m.grid.points,
      ∃ v, m.modeValue set point mode = .ok v := by
  obtain ⟨-, -, rows, hrows, hknows⟩ := knows_of_compute h
  have hrow : ∀ point ∈ m.grid.points, ∃ row, (point, row) ∈ m.grid.points.toList.zip rows ∧
      m.settings.modes.mapM (m.modeValue set point) = .ok row := by
    intro point hpoint
    have hpoint' : point ∈ m.grid.points.toList := Array.mem_toList_iff.2 hpoint
    obtain ⟨row, -, hrow⟩ := Except.exists_of_mapM_eq_ok hrows hpoint'
    exact ⟨row, (Except.mem_zip_iff_of_mapM hrows).2 ⟨hpoint', hrow⟩,
      mapM_modeValue_of_pointValues hrow⟩
  refine ⟨fun id mode v => (hknows (id, mode, v)).trans ⟨?_, ?_⟩, fun mode hmode point hpoint => ?_⟩
  · rintro ⟨⟨point, row⟩, hpair, rfl, hcell⟩
    obtain ⟨hpoint, hrow⟩ := (Except.mem_zip_iff_of_mapM hrows).1 hpair
    obtain ⟨hmode, hvalue⟩ :=
      (Except.mem_zip_iff_of_mapM (mapM_modeValue_of_pointValues hrow)).1 hcell
    exact ⟨hmode, point, Array.mem_toList_iff.1 hpoint, rfl, hvalue⟩
  · rintro ⟨hmode, point, hpoint, rfl, hvalue⟩
    obtain ⟨row, hpair, hrow⟩ := hrow point hpoint
    exact ⟨(point, row), hpair, rfl, (Except.mem_zip_iff_of_mapM hrow).2 ⟨hmode, hvalue⟩⟩
  · obtain ⟨row, -, hrow⟩ := hrow point hpoint
    obtain ⟨v, -, hv⟩ := Except.exists_of_mapM_eq_ok hrow hmode
    exact ⟨v, hv⟩

/-! ## Two runs -/

/-- Every surface of a run is computed from the opportunities of its type. -/
theorem exists_set_of_run {surfaces : List (Surface α)} (h : (m.run facilities).2 = .ok surfaces)
    {s : Surface α} (hs : s ∈ surfaces) :
    ∃ set, OpportunitySet.ofType s.activityType facilities m.network m.settings.betas.capacity =
        .ok set ∧ m.compute set facilities = .ok s := by
  obtain ⟨sets, hsets, hsurfaces⟩ := exists_sets_of_run h
  obtain ⟨set, hset, hcompute⟩ := Except.exists_of_mem_mapM hsurfaces hs
  obtain ⟨activityType, -, htype⟩ := Except.exists_of_mem_mapM hsets hset
  rw [activityType_of_compute hcompute, OpportunitySet.activityType_of_ofType htype]
  exact ⟨set, htype, hcompute⟩

/-- A model has what it is built from. With other settings it has the same measuring points, as long
as these settings lay out the same ones. -/
theorem build_congr {settings settings' : SurfaceSettings α} {network : Network α}
    {router : Router α} {grid? : Option (MeasuringGrid α)} {m m' : SurfaceModel α}
    (h : build settings network router grid? = .ok m)
    (h' : build settings' network router grid? = .ok m')
    (hbox : settings'.box? = settings.box?) (hcell : settings'.cellSize = settings.cellSize) :
    m.settings = settings ∧ m' = { m with settings := settings' } := by
  by_cases hempty : network.isEmpty
  · by_cases hmodes : settings.modes.isEmpty <;> simp [build, hmodes, hempty, Except.bind_eq_ok] at h
  by_cases hmodes : settings.modes.isEmpty
  · simp [build, hmodes, Except.bind_eq_ok] at h
  by_cases hmodes' : settings'.modes.isEmpty
  · simp [build, hmodes', Except.bind_eq_ok] at h'
  simp only [build, hmodes, hmodes', hempty, if_false, Bool.false_eq_true, hbox, hcell] at h h'
  cases grid? with
  | some grid =>
    cases h
    cases h'
    exact ⟨rfl, rfl⟩
  | none =>
    obtain ⟨grid, hgrid, h⟩ := Except.bind_eq_ok.1 h
    obtain ⟨grid', hgrid', h'⟩ := Except.bind_eq_ok.1 h'
    obtain rfl := Except.ok.inj (hgrid.symm.trans hgrid')
    cases h
    cases h'
    exact ⟨rfl, rfl⟩

end SurfaceModel

/-- A facility with an accepted capacity is an opportunity, if the network has nodes. -/
theorem Opportunity.exists_ofFacility [Number α] {activityType : String}
    {facilities : Facilities α} {network : Network α} {exponent capacity : α} {id : FacilityId}
    {f : Facility α} (hf : facilities.get? id = some f)
    (hcapacity : f.capacityD activityType ((1 : ℕ) : α) = .ok capacity)
    (hcheck : checkCapacity capacity exponent = .ok ()) (hempty : network.isEmpty = false) :
    ∃ o, Opportunity.ofFacility activityType facilities network exponent id = .ok o := by
  obtain ⟨node, egress, hattach⟩ := Network.exists_attach? hempty f.coord
  refine ⟨{ facility := id, coord := f.coord, node, egress, capacity }, ?_⟩
  simp only [Opportunity.ofFacility, hf, hattach, Except.bind_eq_ok, Except.mapError_eq_ok]
  exact ⟨capacity, hcapacity, ⟨⟩, hcheck, rfl⟩

/-- Surfaces agree in all that both have: points, density, and the values of a mode wherever it has
its column in either of them. -/
structure Surface.Agree (s s' : Surface α) : Prop where
  points : s'.points = s.points
  density : s'.density = s.density
  values : ∀ mode ∈ s.modes, mode ∈ s'.modes → ∀ id, s'.get? id mode = s.get? id mode
  rows : ∀ i < s.points.size, ∃ row row', s.row? i = some row ∧ s'.row? i = some row' ∧
    row'.point = row.point ∧ row'.density = row.density ∧
    ∀ mode slot slot', s.slot? mode = some slot → s'.slot? mode = some slot' →
      row'.values[slot']? = row.values[slot]?

namespace SurfaceModel

open Surface

variable [Number α]

/-- Surfaces of the same opportunities agree, whatever modes they are computed for. -/
theorem agree_of_compute {m m' : SurfaceModel α} {modes : List Mode} {types : List String}
    (hm' : m' = { m with settings := { m.settings with modes, activityTypes := types } })
    {set : OpportunitySet α} {facilities : Facilities α} {s s' : Surface α}
    (hs : m.compute set facilities = .ok s) (hs' : m'.compute set facilities = .ok s') :
    s.Agree s' := by
  obtain ⟨hframe, hdensity, -⟩ := knows_of_compute hs
  obtain ⟨hframe', hdensity', -⟩ := knows_of_compute hs'
  obtain ⟨hget, -⟩ := get?_of_compute hs
  obtain ⟨hget', -⟩ := get?_of_compute hs'
  have hgrid : m'.grid = m.grid := by rw [hm']
  have hanchors : m'.anchorDensity facilities = m.anchorDensity facilities := by
    rw [hm']
    rfl
  have hvalue : m'.modeValue set = m.modeValue set := by
    rw [hm']
    rfl
  rw [hgrid] at hframe' hget'
  have hvalues : ∀ mode ∈ s.modes, mode ∈ s'.modes → ∀ id, s'.get? id mode = s.get? id mode := by
    intro mode hmode hmode' id
    rw [hframe.modes_eq] at hmode
    rw [hframe'.modes_eq] at hmode'
    refine Option.ext fun v => ?_
    rw [hget, hget', hvalue]
    simp only [hmode, hmode', true_and]
  refine ⟨hframe'.points_eq.trans hframe.points_eq.symm,
    hdensity'.trans (hanchors.trans hdensity.symm), hvalues, fun i hi => ?_⟩
  rw [hframe.points_eq] at hi
  have hsize : s.density.size = m.grid.points.size := by rw [hdensity, size_anchorDensity]
  have hsize' : s'.density.size = m.grid.points.size := by
    rw [hdensity', hanchors, size_anchorDensity]
  obtain ⟨row, hrow, hpoint, hdense, -, hslots⟩ := hframe.exists_row? hsize hi
  obtain ⟨row', hrow', hpoint', hdense', -, hslots'⟩ := hframe'.exists_row? hsize' hi
  rw [hdensity', hanchors, ← hdensity, hdense] at hdense'
  refine ⟨row, row', hrow, hrow', Option.some.inj (hpoint'.symm.trans hpoint),
    (Option.some.inj hdense').symm, fun mode slot slot' hslot hslot' => ?_⟩
  rw [hslots mode slot hslot, hslots' mode slot' hslot',
    hvalues mode (exists_slot?_iff.1 ⟨slot, hslot⟩) (exists_slot?_iff.1 ⟨slot', hslot'⟩)]

/-- **Columns do not influence each other.** Let two models be built alike except for the modes and
the activity types that they are asked for, and let the runs of both succeed. Then the surfaces of
an activity type that both compute agree: in their points, in their density, and in the value of
every point in every mode that both are asked for, which is there in either of them, looked up by its
mode or read from a row. -/
theorem surfaces_agree {settings : SurfaceSettings α} {modes : List Mode} {types : List String}
    {network : Network α} {router : Router α} {grid? : Option (MeasuringGrid α)}
    {m m' : SurfaceModel α} (hm : build settings network router grid? = .ok m)
    (hm' : build { settings with modes, activityTypes := types } network router grid? = .ok m')
    {facilities : Facilities α} {surfaces surfaces' : List (Surface α)}
    (hrun : (m.run facilities).2 = .ok surfaces) (hrun' : (m'.run facilities).2 = .ok surfaces')
    {s s' : Surface α} (hs : s ∈ surfaces) (hs' : s' ∈ surfaces')
    (htype : s'.activityType = s.activityType) :
    s.modes = settings.modes ∧ s'.modes = modes ∧ s.points = m.grid.points ∧ s.Agree s' ∧
      ∀ mode ∈ settings.modes, mode ∈ modes → ∀ point ∈ s.points,
        ∃ value, s.get? point.id mode = some value ∧ s'.get? point.id mode = some value := by
  obtain ⟨rfl, rfl⟩ := build_congr hm hm' rfl rfl
  obtain ⟨set, hset, hcompute⟩ := exists_set_of_run hrun hs
  obtain ⟨set', hset', hcompute'⟩ := exists_set_of_run hrun' hs'
  obtain rfl : set = set' := by
    rw [htype] at hset'
    exact Except.ok.inj (hset.symm.trans hset')
  have hagree : s.Agree s' := agree_of_compute rfl hcompute hcompute'
  obtain ⟨hframe, -⟩ := knows_of_compute hcompute
  obtain ⟨hframe', -⟩ := knows_of_compute hcompute'
  obtain ⟨hget, hvalue⟩ := get?_of_compute hcompute
  refine ⟨hframe.modes_eq, hframe'.modes_eq, hframe.points_eq, hagree,
    fun mode hmode hmode' point hpoint => ?_⟩
  rw [hframe.points_eq] at hpoint
  obtain ⟨value, hvalue⟩ := hvalue mode hmode point hpoint
  have hthere : s.get? point.id mode = some value :=
    (hget point.id mode value).2 ⟨hmode, point, hpoint, rfl, hvalue⟩
  refine ⟨value, hthere, ?_⟩
  rw [hagree.values mode (hframe.modes_eq ▸ hmode) (hframe'.modes_eq ▸ hmode') point.id, hthere]

/-- In exact arithmetic a run succeeds if all its opportunities can be had. -/
theorem exists_run_real {m : SurfaceModel ℝ} (hmodes : m.settings.modes.Nodup)
    (hids : m.grid.Numbered) (hrouter : m.router = Network.leastCosts m.settings.speeds)
    (hnodes : ∀ point ∈ m.grid.points, point.node.index < m.network.nodes.size)
    {facilities : Facilities ℝ}
    (hsets : ∀ activityType ∈ m.activityTypes facilities, ∃ set, OpportunitySet.ofType activityType
      facilities m.network m.settings.betas.capacity = .ok set) :
    ∃ surfaces, (m.run facilities).2 = .ok surfaces ∧
      surfaces.map Surface.activityType = m.activityTypes facilities := by
  obtain ⟨sets, hsets⟩ := Except.exists_mapM_eq_ok_iff.2 hsets
  have hcompute : ∀ set ∈ sets, ∃ s, m.compute set facilities = .ok s := by
    intro set _
    have hpoints : ∀ point ∈ m.grid.points.toList, ∃ row, m.pointValues set point = .ok row :=
      fun point hpoint =>
        exists_pointValues_real hrouter (hnodes point (Array.mem_toList_iff.1 hpoint))
    obtain ⟨rows, hrows⟩ := Except.exists_mapM_eq_ok_iff.2 hpoints
    exact ⟨_, (compute_eq_ok_iff hmodes hids).2 ⟨rows, hrows, rfl⟩⟩
  obtain ⟨surfaces, hsurfaces⟩ := Except.exists_mapM_eq_ok_iff.2 hcompute
  refine ⟨surfaces, by rw [run_of_surfaces hsets hsurfaces], ?_⟩
  rw [Except.map_of_mapM_eq_ok hsurfaces fun _ _ => activityType_of_compute,
    Except.map_of_mapM_eq_ok (g := id) hsets fun _ _ => OpportunitySet.activityType_of_ofType,
    List.map_id]

/-- A shop at one end of a street, looked at with and without a second activity type, and by other
modes besides the one that both runs have. -/
theorem surfaces_agree_street :
    let street : Network ℝ := NetworkBuilder.build {
      nodes := #[{ label := "a", coord := ⟨0, 0⟩ }, { label := "b", coord := ⟨100, 0⟩ }]
      links := #[{ label := "a_b", source := ⟨0⟩, target := ⟨1⟩, length := 100, speed := 10 }] }
    let settings : SurfaceSettings ℝ := { SurfaceSettings.plain 50 ⟨-1, 1⟩ with
      modes := [.walk, .freeSpeed], activityTypes := ["shop"] }
    let settings' : SurfaceSettings ℝ := { settings with
      modes := [.freeSpeed, .transit], activityTypes := ["leisure", "shop"] }
    let router := Network.leastCosts settings.speeds
    let kiosk : Facility ℝ := Facility.addOption { id := ⟨0⟩, label := "f", coord := ⟨110, 0⟩ }
      { activityType := "shop" }
    let facilities : Facilities ℝ := { list := #[kiosk] }
    ∃ (grid : MeasuringGrid ℝ) (m m' : SurfaceModel ℝ) (surfaces surfaces' : List (Surface ℝ)),
      build settings street router (some grid) = .ok m ∧
      build settings' street router (some grid) = .ok m' ∧
      (m.run facilities).2 = .ok surfaces ∧ (m'.run facilities).2 = .ok surfaces' ∧
      ∃ s ∈ surfaces, ∃ s' ∈ surfaces', s.activityType = "shop" ∧ s'.activityType = "shop" ∧
        s.Agree s' ∧ ∀ point ∈ s.points, ∃ value,
          s.get? point.id .freeSpeed = some value ∧ s'.get? point.id .freeSpeed = some value := by
  intro street settings settings' router kiosk facilities
  have hempty : street.isEmpty = false := rfl
  obtain ⟨grid, hgrid, hsize⟩ := MeasuringGrid.exists_ofBox_street hempty
  have hlaid := MeasuringGrid.laidOut_of_ofBox hgrid
  have hids : grid.Numbered := hlaid.numbered (hsize ▸ by decide)
  have hnodes : ∀ point ∈ grid.points, point.node.index < street.nodes.size :=
    fun _ => hlaid.node_lt
  have hleisure : ∃ set, OpportunitySet.ofType "leisure" facilities street 1 = .ok set := by
    have hids : facilities.idsOffering "leisure" = [] := by
      simp [facilities, kiosk, Facilities.idsOffering, Facilities.offering, Facility.offers,
        Facility.addOption]
    exact ⟨⟨"leisure", []⟩, by rw [OpportunitySet.ofType, hids]; rfl⟩
  have hshop : ∃ set, OpportunitySet.ofType "shop" facilities street 1 = .ok set := by
    have hids : facilities.idsOffering "shop" = [⟨0⟩] := by
      simp [facilities, kiosk, Facilities.idsOffering, Facilities.offering, Facility.offers,
        Facility.addOption]
    have hoption : kiosk.option? "shop" = some { activityType := "shop" } := by
      simp [kiosk, Facility.option?, Facility.addOption]
    have hcapacity : kiosk.capacityD "shop" ((1 : ℕ) : ℝ) = .ok ((1 : ℕ) : ℝ) := by
      rw [Facility.capacityD, Facility.requireOption, hoption]
      rfl
    have hcheck : checkCapacity ((1 : ℕ) : ℝ) 1 = .ok () := by simp [checkCapacity]
    rw [OpportunitySet.ofType, hids]
    have hkiosk : facilities.get? ⟨0⟩ = some kiosk := rfl
    obtain ⟨items, hitems⟩ := Except.exists_mapM_eq_ok_iff.2 (List.forall_mem_cons.2
      ⟨Opportunity.exists_ofFacility hkiosk hcapacity hcheck hempty, List.forall_mem_nil _⟩)
    exact ⟨_, Except.bind_eq_ok.2 ⟨items, hitems, rfl⟩⟩
  let m : SurfaceModel ℝ := { settings, network := street, router, grid }
  let m' : SurfaceModel ℝ := { settings := settings', network := street, router, grid }
  have hm : build settings street router (some grid) = .ok m := rfl
  have hm' : build settings' street router (some grid) = .ok m' := rfl
  have hmodes : settings.modes.Nodup := by decide
  have hmodes' : settings'.modes.Nodup := by decide
  have hsets : ∀ activityType ∈ m.activityTypes facilities,
      ∃ set, OpportunitySet.ofType activityType facilities street 1 = .ok set :=
    List.forall_mem_cons.2 ⟨hshop, List.forall_mem_nil _⟩
  have hsets' : ∀ activityType ∈ m'.activityTypes facilities,
      ∃ set, OpportunitySet.ofType activityType facilities street 1 = .ok set :=
    List.forall_mem_cons.2 ⟨hleisure, List.forall_mem_cons.2 ⟨hshop, List.forall_mem_nil _⟩⟩
  obtain ⟨surfaces, hrun, htypes⟩ := exists_run_real (m := m) hmodes hids rfl hnodes hsets
  obtain ⟨surfaces', hrun', htypes'⟩ := exists_run_real (m := m') hmodes' hids rfl hnodes hsets'
  obtain ⟨s, hs, htype⟩ : ∃ s ∈ surfaces, s.activityType = "shop" :=
    List.mem_map.1 (htypes ▸ (by decide : "shop" ∈ ["shop"]))
  obtain ⟨s', hs', htype'⟩ : ∃ s ∈ surfaces', s.activityType = "shop" :=
    List.mem_map.1 (htypes' ▸ (by decide : "shop" ∈ ["leisure", "shop"]))
  obtain ⟨-, -, -, hagree, hvalues⟩ :=
    surfaces_agree hm hm' hrun hrun' hs hs' (htype'.trans htype.symm)
  exact ⟨grid, m, m', surfaces, surfaces', hm, hm', hrun, hrun', s, hs, s', hs', htype, htype',
    hagree, hvalues .freeSpeed (by decide) (by decide)⟩

end SurfaceModel

end SpatialAccess
