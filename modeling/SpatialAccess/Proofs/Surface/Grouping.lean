import SpatialAccess.Proofs.Outcome
import SpatialAccess.Proofs.Surface.ClosestNodes

/-!
# Points that share their trees

The values of all points are computed group by group, and the rows are put back by number.

* `groupValuesBy_eq`: a group asks for the trees from its node, whatever answers. `groupValues_eq`: a
  group has the values that its points have one by one.
* `getElem?_scatter`: where a row goes.
* **`allValues_eq_ok_iff`**: the values of all points are those of one point after the other.
-/

namespace SpatialAccess

variable {α : Type}

/-! ## Putting rows back -/

section Scatter

variable {β : Type}

theorem getElem?_scatter_of_notMem {pairs : List (Nat × β)} {i : Nat}
    (h : i ∉ pairs.map Prod.fst) (rows : Array β) :
    (pairs.foldl (fun rows (i, row) => rows.setIfInBounds i row) rows)[i]? = rows[i]? := by
  induction pairs generalizing rows with
  | nil => rfl
  | cons pair pairs ih =>
    rw [List.map_cons, List.mem_cons, not_or] at h
    rw [List.foldl_cons, ih h.2, Array.getElem?_setIfInBounds_ne (Ne.symm h.1)]

/-- A row goes where its number says. -/
theorem getElem?_scatter {pairs : List (Nat × β)} (hnodup : (pairs.map Prod.fst).Nodup)
    {rows : Array β} {i : Nat} (hi : i < rows.size) {row : β} (h : (i, row) ∈ pairs) :
    (pairs.foldl (fun rows (i, row) => rows.setIfInBounds i row) rows)[i]? = some row := by
  induction pairs generalizing rows with
  | nil => cases h
  | cons pair pairs ih =>
    rw [List.map_cons, List.nodup_cons] at hnodup
    rw [List.foldl_cons]
    obtain rfl | h := List.mem_cons.1 h
    · rw [getElem?_scatter_of_notMem hnodup.1, Array.getElem?_setIfInBounds_self_of_lt hi]
    · exact ih hnodup.2 (by rwa [Array.size_setIfInBounds]) h

theorem size_scatter (pairs : List (Nat × β)) (rows : Array β) :
    (pairs.foldl (fun rows (i, row) => rows.setIfInBounds i row) rows).size = rows.size := by
  refine List.foldlRecOn (motive := fun rows' : Array β => rows'.size = rows.size) _ _ rfl ?_
  intro rows' hsize pair _
  rw [Array.size_setIfInBounds, hsize]

end Scatter

/-! ## Values of all points -/

namespace SurfaceModel

variable [Number α] {m : SurfaceModel α} {set : OpportunitySet α}

/-- The values of the point of a number. -/
def valuesAt (m : SurfaceModel α) (set : OpportunitySet α) (i : Nat) :
    Except (SurfaceError α) (List α) :=
  match m.grid.points[i]? with
  | some point => m.pointValues set point
  | none => .ok []

theorem valuesAt_of_getElem? {i : Nat} {point : MeasuringPoint α}
    (h : m.grid.points[i]? = some point) : m.valuesAt set i = m.pointValues set point := by
  simp only [valuesAt, h]

/-- A group asks for the trees from its node, and no more. -/
theorem groupValuesBy_eq {M : Type → Type} [Monad M] [MonadLiftT (Except (SurfaceError α)) M]
    (ask : NodeId → Mode → M (LeastCostTree α)) {group : List Nat} (hne : group ≠ [])
    {node : NodeId} (h : ∀ i ∈ group, ∃ p, m.grid.points[i]? = some p ∧ p.node = node) :
    m.groupValuesBy ask set group = (do
      let trees ← m.treesBy ask node
      (group.filterMap fun i => m.grid.points[i]?.map fun point => (i, point)).mapM
        fun (i, point) => do return (i, ← liftM (m.valuesWith set trees point))) := by
  obtain ⟨i, others, rfl⟩ := List.exists_cons_of_ne_nil hne
  obtain ⟨p, hp, rfl⟩ := h i List.mem_cons_self
  rw [groupValuesBy, List.filterMap_cons_some (by rw [hp]; rfl)]

/-- With the trees of their common node points have the values that they have one by one. -/
theorem mapM_valuesWith {node : NodeId} {trees : List (Option (LeastCostTree α))}
    (htrees : m.trees node = .ok trees) {group : List Nat}
    (h : ∀ i ∈ group, ∃ p, m.grid.points[i]? = some p ∧ p.node = node) :
    (group.filterMap fun i => m.grid.points[i]?.map fun point => (i, point)).mapM
        (fun (i, point) => do return (i, ← m.valuesWith set trees point)) =
      group.mapM fun i => do return (i, ← m.valuesAt set i) := by
  induction group with
  | nil => rfl
  | cons i group ih =>
    obtain ⟨p, hp, hnode⟩ := h i List.mem_cons_self
    have hvalues : m.valuesAt set i = m.valuesWith set trees p := by
      rw [valuesAt_of_getElem? hp, pointValues, hnode, htrees]
      rfl
    rw [List.filterMap_cons_some (by rw [hp]; rfl), List.mapM_cons, List.mapM_cons, hvalues,
      ih fun j hj => h j (List.mem_cons_of_mem i hj)]

/-- **A group has the values that its points have one by one.** -/
theorem groupValues_eq {group : List Nat} (h : group ∈ nodeGroups m.grid.points.toList) :
    m.groupValues set group = group.mapM fun i => do return (i, ← m.valuesAt set i) := by
  obtain ⟨hne, node, hnode⟩ := node_of_mem_nodeGroups h
  simp only [Array.getElem?_toList] at hnode
  have htreesBy : m.treesBy m.answer node = m.trees node := rfl
  rw [groupValues, groupValuesBy_eq m.answer hne hnode, htreesBy]
  cases htrees : m.trees node with
  | ok trees => exact mapM_valuesWith htrees hnode
  | error e =>
    -- the first point already fails
    obtain ⟨i, others, rfl⟩ := List.exists_cons_of_ne_nil hne
    obtain ⟨p, hp, rfl⟩ := hnode i List.mem_cons_self
    have hvalues : m.valuesAt set i = .error e := by
      rw [valuesAt_of_getElem? hp, pointValues, htrees]
      rfl
    rw [List.mapM_cons, hvalues]
    rfl

/-- All values, in the order in which they are computed. -/
theorem allValues_eq (m : SurfaceModel α) (set : OpportunitySet α) :
    m.allValues set = do
      let rows ← (nodeGroups m.grid.points.toList).flatten.mapM fun i => do
        return (i, ← m.valuesAt set i)
      return rows.foldl (fun values (i, row) => values.setIfInBounds i row)
        (Array.replicate m.grid.size []) := by
  have hgroups : (nodeGroups m.grid.points.toList).mapM (m.groupValuesBy m.answer set) =
      (nodeGroups m.grid.points.toList).mapM fun group =>
        group.mapM fun i => do return (i, ← m.valuesAt set i) :=
    Except.mapM_congr fun group hgroup => groupValues_eq hgroup
  rw [allValues, allValuesBy, hgroups, Except.mapM_flatten, bind_assoc]
  simp only [pure_bind]

/-- What comes out of the groups is a row for every point. -/
theorem pairs_of_mapM_order {order : List Nat} {pairs : List (Nat × List α)}
    (h : (order.mapM fun i => do return (i, ← m.valuesAt set i)) = .ok pairs) :
    pairs.map Prod.fst = order ∧
      ∀ i ∈ order, ∃ row, m.valuesAt set i = .ok row ∧ (i, row) ∈ pairs := by
  constructor
  · have hpairs := Except.mapM_eq_ok_iff.1 h
    clear h
    induction hpairs with
    | nil => rfl
    | cons hpair _ ih =>
      obtain ⟨row, -, hrow⟩ := Except.bind_eq_ok.1 hpair
      cases hrow
      rw [List.map_cons, ih]
  · intro i hi
    obtain ⟨pair, hmem, hpair⟩ := Except.exists_of_mapM_eq_ok h hi
    obtain ⟨row, hrow, hpair⟩ := Except.bind_eq_ok.1 hpair
    cases hpair
    exact ⟨row, hrow, hmem⟩

theorem mapM_pointValues_of_allValues {rows : Array (List α)} (h : m.allValues set = .ok rows) :
    m.grid.points.toList.mapM (m.pointValues set) = .ok rows.toList := by
  rw [allValues_eq] at h
  obtain ⟨pairs, hpairs, hrows⟩ := Except.bind_eq_ok.1 h
  cases hrows
  obtain ⟨hfst, hvalues⟩ := pairs_of_mapM_order hpairs
  have hnodup : (pairs.map Prod.fst).Nodup := by
    rw [hfst, (nodeGroups_flatten_perm _).nodup_iff]
    exact List.nodup_range
  have hsize : (Array.replicate m.grid.size ([] : List α)).size = m.grid.points.size :=
    Array.size_replicate
  rw [Except.mapM_eq_ok_iff, List.forall₂_iff_get]
  refine ⟨by rw [Array.length_toList, Array.length_toList, size_scatter, hsize], ?_⟩
  intro i hi hi'
  have hlt : i < m.grid.points.size := by rwa [Array.length_toList] at hi
  obtain ⟨row, hrow, hmem⟩ := hvalues i (mem_flatten_nodeGroups_iff.2 hlt)
  rw [valuesAt_of_getElem? (Array.getElem?_eq_getElem hlt)] at hrow
  obtain ⟨_, hput⟩ := Array.getElem?_eq_some_iff.1 (getElem?_scatter hnodup (hsize ▸ hlt) hmem)
  simp only [List.get_eq_getElem, Array.getElem_toList, hrow, hput]

/-- **The values of all points are those of one point after the other.** -/
theorem allValues_eq_ok_iff {rows : Array (List α)} :
    m.allValues set = .ok rows ↔ m.grid.points.toList.mapM (m.pointValues set) = .ok rows.toList := by
  refine ⟨mapM_pointValues_of_allValues, fun h => ?_⟩
  have hall : ∀ i ∈ (nodeGroups m.grid.points.toList).flatten,
      ∃ pair, (do return (i, ← m.valuesAt set i)) = Except.ok (ε := SurfaceError α) pair := by
    intro i hi
    have hlt : i < m.grid.points.size := mem_flatten_nodeGroups_iff.1 hi
    obtain ⟨row, -, hrow⟩ := Except.exists_of_mapM_eq_ok h (Array.getElem_mem_toList hlt)
    exact ⟨(i, row), by rw [valuesAt_of_getElem? (Array.getElem?_eq_getElem hlt), hrow]; rfl⟩
  obtain ⟨pairs, hpairs⟩ := Except.exists_mapM_eq_ok_iff.2 hall
  have hrows : ∃ rows', m.allValues set = .ok rows' := by
    rw [allValues_eq, hpairs]
    exact ⟨_, rfl⟩
  obtain ⟨rows', hrows'⟩ := hrows
  have heq := (mapM_pointValues_of_allValues hrows').symm.trans h
  rw [hrows', Array.toList_inj.1 (Except.ok.inj heq)]

theorem exists_of_allValues_eq_error {e : SurfaceError α} (h : m.allValues set = .error e) :
    ∃ point ∈ m.grid.points, m.pointValues set point = .error e := by
  rw [allValues_eq, Except.bind_eq_error] at h
  obtain h | ⟨_, -, h⟩ := h
  · obtain ⟨i, hi, h⟩ := Except.exists_of_mapM_eq_error h
    obtain h | ⟨_, -, h⟩ := Except.bind_eq_error.1 h
    · have hlt : i < m.grid.points.size := mem_flatten_nodeGroups_iff.1 hi
      rw [valuesAt_of_getElem? (Array.getElem?_eq_getElem hlt)] at h
      exact ⟨_, Array.getElem_mem hlt, h⟩
    · cases h
  · cases h

end SurfaceModel

end SpatialAccess
