import SpatialAccess.Proofs.Number.Exact
import SpatialAccess.Proofs.Surface.Filling
import SpatialAccess.Proofs.Surface.Grouping
import SpatialAccess.Proofs.Surface.Layout

/-!
# Surfaces hold the values of their points

* `SurfaceModel.pointValues_error`: why the values of a point cannot be computed.
* `SurfaceModel.compute_eq_ok_iff`: the surface that is computed, if there is one.
* **`SurfaceModel.compute_eq_pointValues`**: a surface is computed just if the values of every point
  are, it holds those values, and filling it in never fails.
-/

namespace SpatialAccess

variable {α : Type} [Number α]

namespace SurfaceModel

variable {m : SurfaceModel α} {set : OpportunitySet α} {facilities : Facilities α}

omit [Number α] in
theorem tree?_eq (m : SurfaceModel α) (origin : NodeId) (mode : Mode) :
    m.tree? origin mode =
      if mode.isRouted then (m.answer origin mode).map some else .ok none := rfl

theorem length_of_pointValues {point : MeasuringPoint α} {row : List α}
    (h : m.pointValues set point = .ok row) : row.length = m.settings.modes.length := by
  obtain ⟨trees, htrees, h⟩ := Except.bind_eq_ok.1 h
  rw [Except.length_of_mapM_eq_ok h, List.length_zip, Except.length_of_mapM_eq_ok htrees, Nat.min_self]

/-- The values of a point are missing because a tree is, or because a sum is not finite. -/
theorem pointValues_error {point : MeasuringPoint α} {e : SurfaceError α}
    (h : m.pointValues set point = .error e) :
    (∃ cause, e = .network cause) ∨
      ∃ mode sum, e = .data (.badAccessibility point.id mode sum) := by
  obtain h | ⟨trees, -, h⟩ := Except.bind_eq_error.1 h
  · obtain ⟨mode, -, h⟩ := Except.exists_of_mapM_eq_error h
    replace h : m.tree? point.node mode = .error e := h
    rw [tree?_eq] at h
    split at h
    · rw [Except.map_eq_error, answer, Except.mapError_eq_error] at h
      obtain ⟨cause, -, rfl⟩ := h
      exact .inl ⟨cause, rfl⟩
    · cases h
  · obtain ⟨⟨mode, tree?⟩, -, h⟩ := Except.exists_of_mapM_eq_error h
    simp only [value] at h
    split at h <;> cases h
    exact .inr ⟨_, _, rfl⟩

theorem size_anchorDensity (m : SurfaceModel α) (facilities : Facilities α) :
    (m.anchorDensity facilities).size = m.grid.points.size := by
  rw [anchorDensity]
  refine List.foldlRecOn
    (motive := fun density : Array α => density.size = m.grid.points.size) _ _ ?_ ?_
  · rw [Array.size_replicate, MeasuringGrid.size]
  · intro density hsize cell _
    rw [Array.size_modify, hsize]

/-! ## Surfaces -/

/-- The surface with given rows. -/
def surfaceOf (m : SurfaceModel α) (activityType : String) (facilities : Facilities α)
    (rows : List (List α)) : Surface α :=
  { Surface.blank activityType m.grid.points m.settings.modes with
    density := m.anchorDensity facilities }.filled rows.flatten

/-- Filling in never fails. -/
theorem compute_of_allValues (hmodes : m.settings.modes.Nodup) (hids : m.grid.Numbered)
    {rows : Array (List α)} (h : m.allValues set = .ok rows) :
    m.compute set facilities = .ok (m.surfaceOf set.activityType facilities rows.toList) := by
  have hrows := allValues_eq_ok_iff.1 h
  have hlength : rows.toList.length = m.grid.points.toList.length :=
    Except.length_of_mapM_eq_ok hrows
  have hwidth : ∀ row ∈ rows.toList, row.length = m.settings.modes.length := by
    intro row hrow
    obtain ⟨point, -, hpoint⟩ := Except.exists_of_mem_mapM hrows hrow
    exact length_of_pointValues hpoint
  have hids' : ∀ i (hi : i < m.grid.points.toList.length),
      m.grid.points.toList[i].id.index = 0 + i := by
    intro i hi
    rw [Nat.zero_add]
    exact hids i _ (by rw [← Array.getElem?_toList, List.getElem?_eq_getElem hi])
  have hnext : ([] : List α).length = 0 * m.settings.modes.length := (Nat.zero_mul _).symm
  have hfill := foldlM_insertRow_filled
    (s := Surface.blank set.activityType m.grid.points m.settings.modes) hmodes hlength hwidth
    (by simp [Surface.blank]) hids' hnext
  rw [Surface.filled_nil_blank] at hfill
  have hdensity : (Surface.filled (Surface.blank set.activityType m.grid.points m.settings.modes)
      ([] ++ rows.toList.flatten)).setDensity (m.anchorDensity facilities) =
        .ok (m.surfaceOf set.activityType facilities rows.toList) :=
    Surface.setDensity_eq_ok_iff.2 ⟨m.size_anchorDensity facilities, rfl⟩
  exact Except.bind_eq_ok.2 ⟨rows, h, Except.bind_eq_ok.2 ⟨_, hfill, hdensity⟩⟩

/-- **The surface that is computed has the values of every point.** -/
theorem compute_eq_ok_iff (hmodes : m.settings.modes.Nodup) (hids : m.grid.Numbered)
    {s : Surface α} :
    m.compute set facilities = .ok s ↔
      ∃ rows, m.grid.points.toList.mapM (m.pointValues set) = .ok rows ∧
        s = m.surfaceOf set.activityType facilities rows := by
  constructor
  · intro h
    obtain ⟨rows, hrows, -⟩ := Except.bind_eq_ok.1 h
    rw [compute_of_allValues hmodes hids hrows] at h
    exact ⟨rows.toList, allValues_eq_ok_iff.1 hrows, (Except.ok.inj h).symm⟩
  · rintro ⟨rows, hrows, rfl⟩
    have hall : m.allValues set = .ok rows.toArray := allValues_eq_ok_iff.2 hrows
    exact compute_of_allValues hmodes hids hall

theorem exists_of_compute_eq_error (hmodes : m.settings.modes.Nodup) (hids : m.grid.Numbered)
    {e : SurfaceError α} (h : m.compute set facilities = .error e) :
    ∃ point ∈ m.grid.points, m.pointValues set point = .error e := by
  obtain herror | ⟨rows, hrows, -⟩ := Except.bind_eq_error.1 h
  · exact exists_of_allValues_eq_error herror
  · rw [compute_of_allValues hmodes hids hrows] at h
    cases h

/-- In exact arithmetic every point has values, if its node is one of the network. -/
theorem exists_pointValues_real {m : SurfaceModel ℝ}
    (hrouter : m.router = Network.leastCosts m.settings.speeds) {set : OpportunitySet ℝ}
    {point : MeasuringPoint ℝ} (hnode : point.node.index < m.network.nodes.size) :
    ∃ row, m.pointValues set point = .ok row := by
  have htree : ∀ mode ∈ m.settings.modes, ∃ tree?, m.tree? point.node mode = .ok tree? := by
    intro mode _
    by_cases hrouted : mode.isRouted
    · simp [tree?_eq, answer, hrouted, hrouter, Network.leastCosts, Nat.not_le_of_lt hnode,
        Except.mapError, Except.map]
    · exact ⟨none, if_neg hrouted⟩
  obtain ⟨trees, htrees⟩ := Except.exists_mapM_eq_ok_iff.2 htree
  have hvalue : ∀ x ∈ m.settings.modes.zip trees, ∃ v, m.value point set x.1 x.2 = .ok v :=
    fun x _ => ⟨_, if_pos (Number.isFinite_real _)⟩
  obtain ⟨row, hrow⟩ := Except.exists_mapM_eq_ok_iff.2 hvalue
  exact ⟨row, Except.bind_eq_ok.2 ⟨trees, htrees, hrow⟩⟩

/-- **A surface holds the values of its points**, if there is an identifier for each of them. It is
computed just if the values of every point are. Then every cell is set, to the value of its point and
its mode, and the rows follow the points and the modes. Otherwise the values of some point fail in
the same way, and so filling in never does. -/
theorem compute_eq_pointValues (m : SurfaceModel α) (hmodes : m.settings.modes.Nodup)
    {box : Box α} {cell : α} {network : Network α}
    (hgrid : MeasuringGrid.ofBox box cell network = .ok m.grid)
    (hfew : m.grid.points.size ≤ Id.limit) (set : OpportunitySet α)
    (facilities : Facilities α) :
    ((∃ s, m.compute set facilities = .ok s) ↔
      ∀ point ∈ m.grid.points, ∃ row, m.pointValues set point = .ok row) ∧
    (∀ s, m.compute set facilities = .ok s →
      s.modes = m.settings.modes ∧ s.points = m.grid.points ∧
      (∀ point ∈ m.grid.points, ∃ row, m.pointValues set point = .ok row ∧
        row.length = m.settings.modes.length ∧
        ∀ slot (h : slot < m.settings.modes.length),
          ∃ value, row[slot]? = some value ∧
            s.get? point.id m.settings.modes[slot] = some value) ∧
      ∃ rows, m.grid.points.toList.mapM (m.pointValues set) = .ok rows ∧
        s.rows.map SurfaceRow.point = m.grid.points.toList ∧
        s.rows.map SurfaceRow.values = rows.map (List.map some)) ∧
    ∀ e, m.compute set facilities = .error e →
      (∃ point ∈ m.grid.points, m.pointValues set point = .error e) ∧
      (∀ point mode, e ≠ .duplicateValue point mode) ∧ (∀ point, e ≠ .unknownPoint point) ∧
      (∀ mode, e ≠ .modeNotEnabled mode) ∧ ∀ found size, e ≠ .data (.densityLength found size) := by
  have hids := (MeasuringGrid.laidOut_of_ofBox hgrid).numbered hfew
  refine ⟨?_, ?_, ?_⟩
  · constructor
    · rintro ⟨s, h⟩ point hpoint
      obtain ⟨rows, hrows, -⟩ := (compute_eq_ok_iff hmodes hids).1 h
      obtain ⟨row, -, hrow⟩ := Except.exists_of_mapM_eq_ok hrows (Array.mem_toList_iff.2 hpoint)
      exact ⟨row, hrow⟩
    · intro h
      obtain ⟨rows, hrows⟩ := Except.exists_mapM_eq_ok_iff.2 fun point hpoint =>
        h point (Array.mem_toList_iff.1 hpoint)
      exact ⟨_, (compute_eq_ok_iff hmodes hids).2 ⟨rows, hrows, rfl⟩⟩
  · intro s h
    obtain ⟨rows, hrows, rfl⟩ := (compute_eq_ok_iff hmodes hids).1 h
    have hlength : rows.length = m.grid.points.size := Except.length_of_mapM_eq_ok hrows
    have hwidth : ∀ row ∈ rows, row.length = m.settings.modes.length := by
      intro row hrow
      obtain ⟨point, -, hpoint⟩ := Except.exists_of_mem_mapM hrows hrow
      exact length_of_pointValues hpoint
    refine ⟨rfl, rfl, ?_, rows, hrows, Surface.rows_filled hlength hwidth (m.size_anchorDensity _)⟩
    intro point hpoint
    obtain ⟨k, hk⟩ := Array.mem_iff_getElem?.1 hpoint
    obtain ⟨row, hget, hrow⟩ := Except.getElem?_of_mapM_eq_ok hrows (Array.getElem?_toList ▸ hk)
    refine ⟨row, hrow, length_of_pointValues hrow, fun slot hslot => ?_⟩
    have hslot' : slot < row.length := length_of_pointValues hrow ▸ hslot
    have hvalue : row[slot]? = some row[slot] := List.getElem?_eq_getElem hslot'
    refine ⟨_, hvalue, ?_⟩
    rw [← hvalue]
    exact Surface.get?_filled hlength hwidth hmodes (hids k point hk ▸ hget) hslot
  · intro e h
    obtain ⟨point, hpoint, he⟩ := exists_of_compute_eq_error hmodes hids h
    refine ⟨⟨point, hpoint, he⟩, ?_⟩
    obtain ⟨cause, rfl⟩ | ⟨mode, sum, rfl⟩ := pointValues_error he <;> simp

/-- Shops at one end of a street, reached by three modes from places along it. -/
theorem compute_eq_pointValues_street :
    let street : Network ℝ := NetworkBuilder.build {
      nodes := #[{ label := "a", coord := ⟨0, 0⟩ }, { label := "b", coord := ⟨100, 0⟩ }]
      links := #[{ label := "a_b", source := ⟨0⟩, target := ⟨1⟩, length := 100, speed := 10 }] }
    let settings : SurfaceSettings ℝ :=
      (SurfaceSettings.plain 50 ⟨-1, 1⟩).withModes [.walk, .freeSpeed, .transit]
    let shops : OpportunitySet ℝ := ⟨"shop", [⟨⟨0⟩, ⟨110, 0⟩, ⟨1⟩, 10, 5⟩]⟩
    ∃ (m : SurfaceModel ℝ) (s : Surface ℝ),
      m.settings = settings ∧ settings.modes.Nodup ∧
      MeasuringGrid.ofBox ⟨0, 0, 100, 0⟩ 50 street = .ok m.grid ∧ m.grid.points.size = 3 ∧
      m.compute shops {} = .ok s ∧
      ∀ point ∈ m.grid.points, ∀ slot (h : slot < settings.modes.length),
        ∃ value, s.get? point.id settings.modes[slot] = some value := by
  intro street settings shops
  have hempty : street.isEmpty = false := rfl
  obtain ⟨grid, hgrid, hsize⟩ := MeasuringGrid.exists_ofBox_street hempty
  have hmodes : settings.modes.Nodup := by decide
  let m : SurfaceModel ℝ :=
    { settings, network := street, router := Network.leastCosts settings.speeds, grid }
  obtain ⟨hiff, hvalues, -⟩ :=
    compute_eq_pointValues m hmodes hgrid (hsize ▸ by decide) shops {}
  obtain ⟨s, hs⟩ := hiff.2 fun point hpoint =>
    exists_pointValues_real (m := m) rfl ((MeasuringGrid.laidOut_of_ofBox hgrid).node_lt hpoint)
  obtain ⟨-, -, hcells, -⟩ := hvalues s hs
  refine ⟨m, s, rfl, hmodes, hgrid, hsize, hs, fun point hpoint slot hslot => ?_⟩
  obtain ⟨row, -, -, hrow⟩ := hcells point hpoint
  obtain ⟨value, -, hvalue⟩ := hrow slot hslot
  exact ⟨value, hvalue⟩

end SurfaceModel

end SpatialAccess
