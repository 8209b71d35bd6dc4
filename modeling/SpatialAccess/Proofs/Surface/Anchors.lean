import Mathlib.Algebra.BigOperators.Group.Finset.Basic
import SpatialAccess.Proofs.Facility.Tokens
import SpatialAccess.Proofs.Number.Double.Natural
import SpatialAccess.Proofs.Number.Double.Quotient
import SpatialAccess.Proofs.Surface.Agreement
import SpatialAccess.Proofs.Surface.Cells
import SpatialAccess.Proofs.Zone.Extent

/-!
# Anchors of cells

The density of a cell is a count, taken by adding one for every anchor for which the cell is looked
up. There are few enough facilities for these sums to be exact, also of doubles.

* `getElem?_foldl_modify`, `sum_natCast`, `sum_count_range`: counting by adding one, and adding up.
* `SurfaceModel.getElem?_anchorDensity`, `SurfaceModel.sum_anchorDensity`: densities count the
  anchors for which cells are looked up.
* `SurfaceModel.anchorDensity_eq_countP`: these are the anchors that cells hold, if their distances
  from the corner are numbers.
* `SurfaceModel.places_of_isDefined`: among doubles it is enough that the coordinates are numbers.
  **`SurfaceModel.anchorDensity_of_ofDocument`**: so anchors that were read are counted where they
  are.
* `homeDocument`: a document that can be read. **`SurfaceModel.anchorDensity_homeDocument_nan`**: a
  home with an undefined coordinate is counted, although no cell holds it.
-/

namespace SpatialAccess

variable {α : Type} [Number α]

/-! ## Counting -/

section Counting

variable [CountNumber α] {k : ℕ}

/-- Adding one for every cell counts how often each of them occurs. -/
theorem getElem?_foldl_modify (cells : List PointId) {density : Array α} {n : ℕ}
    (hk : density[k]? = some (n : α)) (hfew : n + cells.length ≤ Id.limit) :
    (cells.foldl (fun density cell => density.modify cell.index (· + ((1 : ℕ) : α))) density)[k]? =
      some ((n + cells.count ⟨k⟩ : ℕ) : α) := by
  induction cells generalizing density n with
  | nil => simpa using hk
  | cons cell cells ih =>
    rw [List.length_cons] at hfew
    rw [List.foldl_cons]
    by_cases hcell : cell = ⟨k⟩
    · subst hcell
      have hnext : (density.modify k (· + ((1 : ℕ) : α)))[k]? = some ((n + 1 : ℕ) : α) := by
        rw [Array.getElem?_modify, if_pos rfl, hk, Option.map_some,
          CountNumber.natCast_add (by omega)]
      rw [ih hnext (by omega), List.count_cons_self, Nat.add_right_comm, Nat.add_assoc]
    · have hindex : cell.index ≠ k := fun h => hcell (Id.ext_index h)
      have hsame : (density.modify cell.index (· + ((1 : ℕ) : α)))[k]? = some (n : α) := by
        rw [Array.getElem?_modify, if_neg hindex, hk]
      rw [ih hsame (by omega), List.count_cons_of_ne hcell]

/-- A sum of naturals is exact. -/
theorem foldl_add_natCast (ns : List ℕ) (n : ℕ) (hfew : n + ns.sum ≤ Id.limit) :
    (ns.map (Nat.cast : ℕ → α)).foldl (· + ·) (n : α) = ((n + ns.sum : ℕ) : α) := by
  induction ns generalizing n with
  | nil => rfl
  | cons k ns ih =>
    rw [List.sum_cons, ← Nat.add_assoc] at hfew
    rw [List.map_cons, List.foldl_cons, CountNumber.natCast_add (by omega), ih _ hfew,
      List.sum_cons, Nat.add_assoc]

theorem sum_natCast {ns : List ℕ} (hne : ns ≠ []) (hfew : ns.sum ≤ Id.limit) :
    Number.sum (ns.map (Nat.cast : ℕ → α)) = ((ns.sum : ℕ) : α) := by
  obtain ⟨n, ns, rfl⟩ := List.exists_cons_of_ne_nil hne
  rw [List.sum_cons] at hfew ⊢
  rw [Number.sum, List.map_cons, List.foldl_cons, CountNumber.neg_zero_add (by omega),
    foldl_add_natCast ns n hfew]

end Counting

/-- Every item is counted once. -/
theorem sum_count_range {cells : List PointId} {n : ℕ} (h : ∀ cell ∈ cells, cell.index < n) :
    ((List.range n).map fun k => cells.count ⟨k⟩).sum = cells.length := by
  have hinj : Function.Injective (Id.index : PointId → ℕ) := fun _ _ => Id.ext_index
  have hcount : ∀ k, cells.count ⟨k⟩ = (cells.map Id.index).count k := fun k =>
    (List.count_map_of_injective cells Id.index hinj ⟨k⟩).symm
  have hmem : ∀ k ∈ (cells.map Id.index : Multiset ℕ), k ∈ Finset.range n := by
    intro k hk
    obtain ⟨cell, hcell, rfl⟩ := List.mem_map.1 (Multiset.mem_coe.1 hk)
    exact Finset.mem_range.2 (h cell hcell)
  have hsum := Multiset.sum_count_eq_card hmem
  rw [Finset.sum_eq_multiset_sum, Finset.range_val, ← Multiset.coe_range, Multiset.map_coe,
    Multiset.sum_coe, Multiset.coe_card, List.length_map] at hsum
  simpa only [hcount, Multiset.coe_count] using hsum

theorem count_filterMap {β : Type} (f : β → Option PointId) (id : PointId) (xs : List β) :
    (xs.filterMap f).count id = xs.countP fun x => decide (f x = some id) := by
  rw [List.count, List.countP_filterMap]
  refine List.countP_congr fun x _ => ?_
  cases h : f x <;> simp

/-! ## Densities -/

namespace SurfaceModel

open MeasuringGrid

section Densities

variable [CountNumber α] {m : SurfaceModel α} {facilities : Facilities α} {box : Box α} {cell : α}
  {network : Network α}

omit [CountNumber α] in
/-- No more cells are looked up than there are facilities. -/
theorem length_lookedUp_le (m : SurfaceModel α) (facilities : Facilities α) :
    ((facilities.offering m.settings.anchorType).filterMap fun f =>
      m.grid.cellOf? f.coord).length ≤ facilities.size :=
  calc _ ≤ (facilities.offering m.settings.anchorType).length := List.length_filterMap_le _ _
    _ ≤ facilities.size := List.length_filter_le _ _

/-- The density of a cell is the number of anchors for which it is looked up. -/
theorem getElem?_anchorDensity (hsize : facilities.size ≤ Id.limit) {k : ℕ}
    (hk : k < m.grid.points.size) :
    (m.anchorDensity facilities)[k]? =
      some (((facilities.offering m.settings.anchorType).countP fun f =>
        decide (m.grid.cellOf? f.coord = some ⟨k⟩) : ℕ) : α) := by
  have hstart : (Array.replicate m.grid.size ((0 : ℕ) : α))[k]? = some ((0 : ℕ) : α) := by
    rw [Array.getElem?_replicate, MeasuringGrid.size, if_pos hk]
  have hlength := (length_lookedUp_le m facilities).trans hsize
  rw [← Nat.zero_add (List.length _)] at hlength
  rw [anchorDensity, getElem?_foldl_modify _ hstart hlength, count_filterMap, Nat.zero_add]

/-- The densities add up to the number of anchors for which a cell is looked up. -/
theorem sum_anchorDensity (hlaid : m.grid.LaidOut box cell network)
    (hfew : m.grid.points.size ≤ Id.limit) (hsize : facilities.size ≤ Id.limit) :
    Number.sum (m.anchorDensity facilities).toList =
      (((facilities.offering m.settings.anchorType).countP fun f =>
        (m.grid.cellOf? f.coord).isSome : ℕ) : α) := by
  generalize hcells : ((facilities.offering m.settings.anchorType).filterMap fun f =>
    m.grid.cellOf? f.coord) = cells
  have hlength : cells.length ≤ Id.limit := hcells ▸ (length_lookedUp_le m facilities).trans hsize
  have hindex : ∀ id ∈ cells, id.index < m.grid.points.size := by
    intro id hid
    obtain ⟨f, -, hf⟩ := List.mem_filterMap.1 (hcells ▸ hid)
    exact hlaid.index_lt hfew hf
  have hdensity : (m.anchorDensity facilities).toList =
      ((List.range m.grid.points.size).map fun k => cells.count ⟨k⟩).map (Nat.cast : ℕ → α) := by
    refine List.ext_getElem? fun k => ?_
    rw [Array.getElem?_toList, List.getElem?_map, List.getElem?_map]
    by_cases hk : k < m.grid.points.size
    · rw [getElem?_anchorDensity hsize hk, List.getElem?_range hk, ← count_filterMap, hcells]
      rfl
    · rw [Array.getElem?_eq_none (by rw [size_anchorDensity]; omega),
        List.getElem?_eq_none (by rw [List.length_range]; omega)]
      rfl
  have hpos : 0 < m.grid.points.size := by
    rw [hlaid.size_eq]
    exact Nat.mul_pos hlaid.columns_pos hlaid.rows_pos
  have hne : (List.range m.grid.points.size).map (fun k => cells.count ⟨k⟩) ≠ [] := by
    rw [ne_eq, List.map_eq_nil_iff, List.range_eq_nil]
    exact hpos.ne'
  have hsum := sum_count_range hindex
  rw [hdensity, sum_natCast hne (by rwa [hsum]), hsum, ← hcells, List.length_filterMap_eq_countP]

/-- **Every anchor is counted in the cell that holds it**, and no anchor is counted that no cell
holds, as long as the distances of all anchors from the corner are numbers. -/
theorem anchorDensity_eq_countP (hlaid : m.grid.LaidOut box cell network)
    (hfew : m.grid.points.size ≤ Id.limit) (hsize : facilities.size ≤ Id.limit)
    (hplaces : ∀ f ∈ facilities.offering m.settings.anchorType, m.grid.Places f.coord) :
    (∀ column < m.grid.columns, ∀ row < m.grid.rows,
      (m.anchorDensity facilities)[row * m.grid.columns + column]? =
        some (((facilities.offering m.settings.anchorType).countP fun f =>
          decide (m.grid.Holds column row f.coord) : ℕ) : α)) ∧
    Number.sum (m.anchorDensity facilities).toList =
      (((facilities.offering m.settings.anchorType).countP fun f =>
        decide (m.grid.Inside f.coord) : ℕ) : α) := by
  have hcolumns : m.grid.columns ≤ Id.limit := hlaid.columns_le.trans hfew
  have hrows : m.grid.rows ≤ Id.limit := hlaid.rows_le.trans hfew
  constructor
  · intro column hcolumn row hrow
    rw [getElem?_anchorDensity hsize (hlaid.number_lt hcolumn hrow)]
    refine congrArg (fun n : ℕ => some (n : α)) (List.countP_congr fun f hf => ?_)
    rw [decide_eq_true_iff, decide_eq_true_iff,
      hlaid.cellOf?_eq_number_iff hfew (hplaces f hf) hcolumn, and_iff_right hrow]
  · rw [sum_anchorDensity hlaid hfew hsize]
    refine congrArg (fun n : ℕ => (n : α)) (List.countP_congr fun f hf => ?_)
    rw [decide_eq_true_iff, isSome_cellOf?_iff hcolumns hrows (hplaces f hf)]

end Densities

/-! ## Doubles -/

theorem zero_lt_of_ofBox {box : Box α} {cell : α} {network : Network α} {grid : MeasuringGrid α}
    (h : ofBox box cell network = .ok grid) : ((0 : ℕ) : α) < cell := by
  by_contra hcell
  simp [ofBox, hcell, Except.bind_eq_ok] at h

/-- The distances of a point from the corner are numbers if its coordinates are. -/
theorem places_of_isDefined {grid : MeasuringGrid Float} {box : Box Float} {cell : Float}
    {network : Network Float} (hlaid : grid.LaidOut box cell network)
    (hcorner : Number.isFinite box.minX = true ∧ Number.isFinite box.minY = true)
    (hpos : ((0 : ℕ) : Float) < cell) (hcell : Number.isFinite cell = true) {p : Point Float}
    (hp : p.IsDefined) : grid.Places p := by
  have hdistance : ∀ low v : Float, Number.isFinite low = true → Number.isNaN v = false →
      (v - low) / cell ≤ (v - low) / cell := fun low v hlow hv =>
    Double.le_self_div (Double.le_self_sub (OrderedNumber.isNaN_eq_false_iff.1 hv) hlow) hpos hcell
  constructor
  · rw [across, hlaid.box_eq, hlaid.cell_eq]
    exact hdistance _ _ hcorner.1 hp.1
  · rw [up, hlaid.box_eq, hlaid.cell_eq]
    exact hdistance _ _ hcorner.2 hp.2

/-- **Anchors that were read are counted in the cells that hold them**, each in one cell, and
anchors outside of all cells are not counted, as long as their coordinates are numbers. -/
theorem anchorDensity_of_ofDocument {m : SurfaceModel Float} {box : Box Float} {cell : Float}
    {network : Network Float} (hgrid : ofBox box cell network = .ok m.grid)
    (hfew : m.grid.points.size ≤ Id.limit)
    (hcorner : Number.isFinite box.minX = true ∧ Number.isFinite box.minY = true)
    (hcell : Number.isFinite cell = true) {bytes : Markup.Bytes} {facilities : Facilities Float}
    (hread : Facilities.ofDocument bytes = .ok facilities)
    (hdefined : ∀ f ∈ facilities.offering m.settings.anchorType, f.coord.IsDefined) :
    (m.anchorDensity facilities).size = m.grid.columns * m.grid.rows ∧
    (∀ column < m.grid.columns, ∀ row < m.grid.rows,
      (m.anchorDensity facilities)[row * m.grid.columns + column]? =
        some (((facilities.offering m.settings.anchorType).countP fun f =>
          decide (m.grid.Holds column row f.coord) : ℕ) : Float)) ∧
    (∀ f ∈ facilities.offering m.settings.anchorType, ∀ column < m.grid.columns,
      ∀ row < m.grid.rows, m.grid.Holds column row f.coord → ∀ column' < m.grid.columns,
        ∀ row' < m.grid.rows, m.grid.Holds column' row' f.coord → column' = column ∧ row' = row) ∧
    Number.sum (m.anchorDensity facilities).toList =
      (((facilities.offering m.settings.anchorType).countP fun f =>
        decide (m.grid.Inside f.coord) : ℕ) : Float) := by
  have hlaid := laidOut_of_ofBox hgrid
  have hplaces : ∀ f ∈ facilities.offering m.settings.anchorType, m.grid.Places f.coord :=
    fun f hf => places_of_isDefined hlaid hcorner (zero_lt_of_ofBox hgrid) hcell (hdefined f hf)
  obtain ⟨hcells, hsum⟩ := anchorDensity_eq_countP hlaid hfew
    (Facilities.size_le_of_ofDocument hread) hplaces
  refine ⟨(m.size_anchorDensity facilities).trans hlaid.size_eq, hcells, ?_, hsum⟩
  intro f hf column hcolumn row hrow hholds column' hcolumn' row' hrow' hholds'
  have hlookup : ∀ {i j}, i < m.grid.columns → j < m.grid.rows → m.grid.Holds i j f.coord →
      m.grid.cellOf? f.coord = some ⟨j * m.grid.columns + i⟩ := fun hi hj h =>
    (hlaid.cellOf?_eq_number_iff hfew (hplaces f hf) hi).2 ⟨hj, h⟩
  have hsame := (hlookup hcolumn' hrow' hholds').symm.trans (hlookup hcolumn hrow hholds)
  exact (mul_add_inj hcolumn' hcolumn (Id.mk.inj (Option.some.inj hsame))).symm

/-! ## Homes -/

/-- The document of a home, with the text of its first coordinate. -/
def homeDocument (x : String) : Markup.Bytes :=
  Markup.ascii ("<facilities><facility id='home' x='" ++ x ++ "' y='10'>" ++
    "<activity type='h'/></facility></facilities>")

/-- The only facility of that document. -/
def homeElement (x : String) : FacilityElement where
  attributes := [("id", "home"), ("x", x), ("y", "10")]
  activities := [{ attributes := [("type", "h")], details := [] }]

/-- A home is read, and it is an anchor. -/
theorem exists_ofDocument_home (text : String) (x : Float)
    (hread : (Markup.tokens (homeDocument text)).2 = .complete ∧
      DocumentTag.ofDocument? Float (homeDocument text) =
        some (FacilitiesDocument.tags [{ attributes := [], facilities := [homeElement text] }]) ∧
      (homeElement text).attributes.point? = some (⟨x, 10⟩ : Point Float)) :
    ∃ (fs : Facilities Float) (f : Facility Float),
      Facilities.ofDocument (homeDocument text) = .ok fs ∧ fs.size = 1 ∧
        fs.offering "h" = [f] ∧ f.coord = ⟨x, 10⟩ := by
  obtain ⟨htokens, htags, hcoord⟩ := hread
  have hallowed : FacilityElement.Allowed Float [homeElement text] := by
    refine ⟨List.forall_mem_singleton.2 ?_, ?_, Nat.one_le_two_pow⟩
    · exact FacilityElement.isReadable_iff.2
        ⟨"home", rfl, _, hcoord, List.forall_mem_singleton.2 rfl⟩
    · rw [FacilityElement.labels_singleton rfl]
      exact List.nodup_singleton _
  obtain ⟨hiff, hlists⟩ := Facilities.addDocument?_spec (α := Float)
    [{ attributes := [], facilities := [homeElement text] }]
  obtain ⟨fs, hfs⟩ := hiff.2 hallowed
  obtain ⟨hlists, -⟩ := hlists fs hfs
  have hsize : fs.size = 1 := hlists.size_eq
  obtain ⟨f, hf, -, hdescribes⟩ := hlists.get? 0 (homeElement text) rfl
  have hlist : fs.list.toList = [f] := by
    have hlength : fs.list.toList.length = 1 := hsize
    obtain ⟨f', hf'⟩ := List.length_eq_one_iff.1 hlength
    have hfirst : fs.list.toList[0]? = some f := by rwa [Array.getElem?_toList]
    rw [hf'] at hfirst ⊢
    cases hfirst
    rfl
  have hoffers : f.offers "h" = true := by
    rw [Facility.offers_eq, hdescribes.option?]
    rfl
  refine ⟨fs, f, Facilities.ofDocument_eq_ok_iff.2 ⟨htokens, _, htags, ?_⟩, hsize, ?_, ?_⟩
  · exact (Facilities.ofTags_tags _ _).2 hfs
  · rw [Facilities.offering, hlist, List.filter_singleton, hoffers]
    rfl
  · exact Option.some.inj (hdescribes.coord.symm.trans hcoord)

/-- A model with nine cells. -/
theorem exists_model_nine_cells :
    ∃ (m : SurfaceModel Float) (network : Network Float),
      ofBox ⟨0, 0, 100, 100⟩ 50 network = .ok m.grid ∧ m.settings.anchorType = "h" ∧
        m.grid.columns = 3 ∧ m.grid.rows = 3 := by
  let network : Network Float :=
    NetworkBuilder.build { nodes := #[{ label := "a", coord := ⟨0, 0⟩ }] }
  let settings : SurfaceSettings Float := SurfaceSettings.plain 50 ⟨-1, 1⟩
  have hpos : ((0 : ℕ) : Float) < 50 := by decide +kernel
  obtain ⟨grid, hgrid⟩ := exists_ofBox hpos (rfl : network.isEmpty = false) ⟨0, 0, 100, 100⟩
  have hlaid := laidOut_of_ofBox hgrid
  refine ⟨{ settings, network, router := Network.leastCosts settings.speeds, grid }, network, hgrid,
    rfl, ?_, ?_⟩
  · exact hlaid.columns_eq.trans (by decide +kernel)
  · exact hlaid.rows_eq.trans (by decide +kernel)

/-- A home in the second column is counted there. -/
theorem anchorDensity_homeDocument :
    ∃ (m : SurfaceModel Float) (network : Network Float) (facilities : Facilities Float),
      ofBox ⟨0, 0, 100, 100⟩ 50 network = .ok m.grid ∧
        Facilities.ofDocument (homeDocument "60") = .ok facilities ∧
        (∀ f ∈ facilities.offering m.settings.anchorType, f.coord.IsDefined) ∧
        (m.anchorDensity facilities)[1]? = some ((1 : ℕ) : Float) ∧
        Number.sum (m.anchorDensity facilities).toList = ((1 : ℕ) : Float) := by
  obtain ⟨m, network, hgrid, htype, hcolumns, hrows⟩ := exists_model_nine_cells
  obtain ⟨facilities, f, hread, -, hanchors, hcoord⟩ :=
    exists_ofDocument_home "60" 60 (by decide +kernel)
  have hlaid := laidOut_of_ofBox hgrid
  have hfew : m.grid.points.size ≤ Id.limit := by
    rw [hlaid.size_eq, hcolumns, hrows]
    decide
  have hdefined : ∀ f ∈ facilities.offering m.settings.anchorType, f.coord.IsDefined := by
    rw [htype, hanchors]
    refine List.forall_mem_singleton.2 ?_
    rw [hcoord]
    exact ⟨by decide +kernel, by decide +kernel⟩
  have hholds : m.grid.Holds 1 0 f.coord := by
    rw [hcoord]
    constructor <;> simp only [across, up, hlaid.box_eq, hlaid.cell_eq] <;> decide +kernel
  obtain ⟨-, hcells, -, hsum⟩ := anchorDensity_of_ofDocument hgrid hfew
    ⟨by decide +kernel, by decide +kernel⟩ (by decide +kernel) hread hdefined
  refine ⟨m, network, facilities, hgrid, hread, hdefined, ?_, ?_⟩
  · have hcell := hcells 1 (by omega) 0 (by omega)
    rwa [Nat.zero_mul, Nat.zero_add, htype, hanchors, List.countP_singleton,
      if_pos (decide_eq_true hholds)] at hcell
  · have hinside : m.grid.Inside f.coord := ⟨1, by omega, 0, by omega, hholds⟩
    rwa [htype, hanchors, List.countP_singleton, if_pos (decide_eq_true hinside)] at hsum

/-- **A home that is nowhere is counted in the first column.** It can be read with a coordinate that
is not a number; then no cell holds it, but a cell is looked up for it. -/
theorem anchorDensity_homeDocument_nan :
    ∃ (m : SurfaceModel Float) (network : Network Float) (facilities : Facilities Float)
      (f : Facility Float),
      ofBox ⟨0, 0, 100, 100⟩ 50 network = .ok m.grid ∧
        Facilities.ofDocument (homeDocument "NaN") = .ok facilities ∧
        facilities.offering m.settings.anchorType = [f] ∧
        (∀ column row, ¬m.grid.Holds column row f.coord) ∧
        (m.anchorDensity facilities)[0]? = some ((1 : ℕ) : Float) ∧
        Number.sum (m.anchorDensity facilities).toList = ((1 : ℕ) : Float) := by
  obtain ⟨m, network, hgrid, htype, hcolumns, hrows⟩ := exists_model_nine_cells
  obtain ⟨facilities, f, hread, hone, hanchors, hcoord⟩ :=
    exists_ofDocument_home "NaN" Number.undefined (by decide +kernel)
  have hlaid := laidOut_of_ofBox hgrid
  have hsize : facilities.size ≤ Id.limit := by
    rw [hone]
    decide
  have hacross : ¬m.grid.across f.coord ≤ m.grid.across f.coord := by
    rw [hcoord, across, hlaid.box_eq, hlaid.cell_eq]
    decide +kernel
  have hlookup : m.grid.cellOf? f.coord = some ⟨0⟩ := by
    rw [hcoord, cellOf?]
    simp only [hlaid.box_eq, hlaid.cell_eq, hcolumns, hrows]
    decide +kernel
  have hpoints : m.grid.points.size = 9 := by rw [hlaid.size_eq, hcolumns, hrows]
  refine ⟨m, network, facilities, f, hgrid, hread, htype ▸ hanchors, ?_, ?_, ?_⟩
  · exact fun column row hholds => hacross (OrderedNumber.le_right hholds.column_le)
  · have hk : 0 < m.grid.points.size := hpoints ▸ Nat.succ_pos _
    rw [getElem?_anchorDensity hsize hk, htype, hanchors, List.countP_singleton,
      if_pos (decide_eq_true hlookup)]
  · have hsome : (m.grid.cellOf? f.coord).isSome = true := by rw [hlookup, Option.isSome_some]
    rw [sum_anchorDensity hlaid (hpoints ▸ by decide) hsize, htype, hanchors,
      List.countP_singleton, if_pos hsome]

end SurfaceModel

end SpatialAccess
