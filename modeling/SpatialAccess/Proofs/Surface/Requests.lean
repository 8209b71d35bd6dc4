import Mathlib.Data.List.ProdSigma
import SpatialAccess.Proofs.Surface.ClosestNodes
import SpatialAccess.Proofs.Surface.Independence

/-!
# What a router is asked

A surface is computed with a router that writes down what it is asked. The list of requests shows how
many trees a surface takes.

* `SurfaceModel.recordedAnswer`: the answer of the router, on record.
* `SurfaceModel.Asks`: what a recorded computation gives and what it asks, with one rule per step.
  `SurfaceModel.asks_treesBy`, `SurfaceModel.asks_groupValuesBy`, **`SurfaceModel.asks_computeBy`**:
  a group asks for its node in every routed mode, and a surface does so for one group after the other.
* `SurfaceModel.nodup_modes_of_compute`: a surface over some points is not computed if a mode is
  listed twice.
* **`SurfaceModel.trees_asked_once`**: groups by node, and one tree for each of them and each mode.
-/

namespace SpatialAccess

variable {α β γ : Type}

namespace SurfaceModel

/-- The modes of the settings that follow the network. -/
def routedModes (m : SurfaceModel α) : List Mode :=
  m.settings.modes.filter Mode.isRouted

/-! ## Keeping a record -/

/-- A computation that keeps a record of the trees that it asks for, also when it fails. -/
abbrev Recorded (α β : Type) := ExceptT (SurfaceError α) (StateM (List (NodeId × Mode))) β

/-- The answer of the router of a model, and what it was asked. -/
def recordedAnswer (m : SurfaceModel α) (origin : NodeId) (mode : Mode) :
    Recorded α (LeastCostTree α) := do
  modify (· ++ [(origin, mode)])
  liftM (m.answer origin mode)

/-- A recorded computation ends in a given way and asks for given trees; if it fails, it has asked for
a beginning of them. -/
def Asks (x : Recorded α β) (outcome : Except (SurfaceError α) β)
    (requests : List (NodeId × Mode)) : Prop :=
  ∀ record, ∃ made, ExceptT.exec x record = (outcome, record ++ made) ∧ made <+: requests ∧
    ∀ b, outcome = .ok b → made = requests

theorem asks_liftM (x : Except (SurfaceError α) β) : Asks (liftM x) x [] := by
  intro record
  refine ⟨[], ?_, List.prefix_rfl, fun _ _ => rfl⟩
  rw [List.append_nil]
  cases x <;> rfl

theorem asks_recordedAnswer (m : SurfaceModel α) (origin : NodeId) (mode : Mode) :
    Asks (m.recordedAnswer origin mode) (m.answer origin mode) [(origin, mode)] := by
  intro record
  refine ⟨[(origin, mode)], ?_, List.prefix_rfl, fun _ _ => rfl⟩
  rw [recordedAnswer, ExceptT.exec_bind]
  cases m.answer origin mode <;> rfl

/-- One computation after the other asks for the trees of both. -/
theorem Asks.bind {x : Recorded α β} {f : β → Recorded α γ} {outcome : Except (SurfaceError α) β}
    {g : β → Except (SurfaceError α) γ} {requests requests' : List (NodeId × Mode)}
    (hx : Asks x outcome requests) (hf : ∀ b, outcome = .ok b → Asks (f b) (g b) requests') :
    Asks (x >>= f) (outcome >>= g) (requests ++ requests') := by
  intro record
  obtain ⟨made, hexec, hbegin, hall⟩ := hx record
  rw [ExceptT.exec_bind, hexec]
  cases outcome with
  | error e => exact ⟨made, rfl, hbegin.trans (List.prefix_append _ _), fun _ h => nomatch h⟩
  | ok b =>
    obtain ⟨made', hexec', hbegin', hall'⟩ := hf b rfl (record ++ made)
    obtain rfl := hall b rfl
    refine ⟨made ++ made', ?_, (List.prefix_append_right_inj made).2 hbegin', fun c hc => ?_⟩
    · rw [← List.append_assoc]
      exact hexec'
    · rw [hall' c hc]

/-- What follows a computation may ask for no trees. -/
theorem Asks.bind_quiet {x : Recorded α β} {f : β → Recorded α γ}
    {outcome : Except (SurfaceError α) β} {g : β → Except (SurfaceError α) γ}
    {requests : List (NodeId × Mode)} (hx : Asks x outcome requests)
    (hf : ∀ b, Asks (f b) (g b) []) : Asks (x >>= f) (outcome >>= g) requests := by
  rw [← List.append_nil requests]
  exact hx.bind fun b _ => hf b

/-- **A list of computations** asks for the trees of one after the other. -/
theorem asks_mapM {f : β → Recorded α γ} {g : β → Except (SurfaceError α) γ}
    {requests : β → List (NodeId × Mode)} {xs : List β}
    (h : ∀ x ∈ xs, Asks (f x) (g x) (requests x)) :
    Asks (xs.mapM f) (xs.mapM g) (xs.flatMap requests) := by
  induction xs with
  | nil => exact asks_liftM (.ok [])
  | cons x xs ih =>
    obtain ⟨hx, hxs⟩ := List.forall_mem_cons.1 h
    rw [List.mapM_cons, List.mapM_cons, List.flatMap_cons]
    exact hx.bind fun y _ => (ih hxs).bind_quiet fun ys => asks_liftM (.ok (y :: ys))

theorem asks_mapM_quiet {f : β → Recorded α γ} {g : β → Except (SurfaceError α) γ} {xs : List β}
    (h : ∀ x, Asks (f x) (g x) []) : Asks (xs.mapM f) (xs.mapM g) [] := by
  have hall : Asks (xs.mapM f) (xs.mapM g) (xs.flatMap fun _ => []) := asks_mapM fun x _ => h x
  rwa [List.flatMap_eq_nil_iff.2 fun _ _ => rfl] at hall

/-! ## The trees of a surface -/

/-- The trees from a node are asked for in every routed mode. -/
theorem asks_treesBy (m : SurfaceModel α) (origin : NodeId) :
    Asks (m.treesBy m.recordedAnswer origin) (m.trees origin) (m.routedModes.map (origin, ·)) := by
  have hrequests : m.routedModes.map (origin, ·) =
      m.settings.modes.flatMap fun mode => if mode.isRouted then [(origin, mode)] else [] := by
    rw [routedModes]
    induction m.settings.modes with
    | nil => rfl
    | cons mode modes ih => by_cases h : mode.isRouted <;> simp [h, ih]
  rw [hrequests]
  refine asks_mapM fun mode _ => ?_
  unfold treeBy?
  by_cases hrouted : mode.isRouted
  · rw [if_pos hrouted, if_pos hrouted, if_pos hrouted, map_eq_pure_bind, map_eq_pure_bind]
    exact (asks_recordedAnswer m origin mode).bind_quiet fun tree => asks_liftM (.ok (some tree))
  · rw [if_neg hrouted, if_neg hrouted, if_neg hrouted]
    exact asks_liftM (.ok none)

variable [Number α] {m : SurfaceModel α} {set : OpportunitySet α} {facilities : Facilities α}

/-- A group asks for the trees from its node. -/
theorem asks_groupValuesBy {node : NodeId} (h : node ∈ closestNodes m.grid.points.toList) :
    Asks (m.groupValuesBy m.recordedAnswer set (numbersAt m.grid.points.toList node))
      (m.groupValues set (numbersAt m.grid.points.toList node)) (m.routedModes.map (node, ·)) := by
  have hmembers : ∀ i ∈ numbersAt m.grid.points.toList node,
      ∃ p, m.grid.points[i]? = some p ∧ p.node = node := by
    intro i hi
    simpa only [Array.getElem?_toList] using mem_numbersAt.1 hi
  have hne := numbersAt_ne_nil h
  rw [groupValues, groupValuesBy_eq m.answer hne hmembers,
    groupValuesBy_eq m.recordedAnswer hne hmembers]
  refine (asks_treesBy m node).bind_quiet fun trees => ?_
  exact asks_mapM_quiet fun member => (asks_liftM _).bind_quiet fun row => asks_liftM (.ok _)

/-- The values of all points take the trees from every closest node. -/
theorem asks_allValuesBy (m : SurfaceModel α) (set : OpportunitySet α) :
    Asks (m.allValuesBy m.recordedAnswer set) (m.allValues set)
      (closestNodes m.grid.points.toList ×ˢ m.routedModes) := by
  rw [allValues, allValuesBy, allValuesBy, nodeGroups_eq, List.mapM_map, List.mapM_map]
  exact (asks_mapM fun node hnode => asks_groupValuesBy hnode).bind_quiet fun _ => asks_liftM (.ok _)

/-- **A surface asks for the trees from every closest node** in every routed mode, once each. -/
theorem asks_computeBy (m : SurfaceModel α) (set : OpportunitySet α) (facilities : Facilities α) :
    Asks (m.computeBy m.recordedAnswer set facilities) (m.compute set facilities)
      (closestNodes m.grid.points.toList ×ˢ m.routedModes) :=
  (asks_allValuesBy m set).bind_quiet fun values => asks_liftM (m.fillIn set facilities values)

/-! ## Modes listed twice -/

open Surface

omit [Number α] in
/-- Of one point no mode can be set twice, nor one that was set before. -/
theorem nodup_of_foldlM_insert {points : Array (MeasuringPoint α)} {modes : List Mode}
    {s s' : Surface α} (hs : Frame points modes s) {point : PointId} {cells : List (Mode × α)}
    (h : cells.foldlM (fun s (mode, value) => s.insert point mode value) s = .ok s') :
    (cells.map Prod.fst).Nodup ∧ ∀ mode ∈ cells.map Prod.fst, s.get? point mode = none := by
  induction cells generalizing s with
  | nil => exact ⟨List.nodup_nil, List.forall_mem_nil _⟩
  | cons cell cells ih =>
    obtain ⟨mode, value⟩ := cell
    rw [List.foldlM_cons] at h
    obtain ⟨s₁, hinsert, hrest⟩ := Except.bind_eq_ok.1 h
    obtain ⟨hframe, hknows⟩ := hs.insert hinsert
    obtain ⟨hnodup, hnone⟩ := ih hframe hrest
    obtain ⟨_, -, -, hempty, -⟩ := insert_eq_ok_iff.1 hinsert
    rw [List.map_cons, List.nodup_cons, List.forall_mem_cons]
    refine ⟨⟨fun hmode => ?_, hnodup⟩, hempty, fun mode' hmode' => ?_⟩
    · have hset : s₁.get? point mode = some value :=
        (hknows (point, mode, value)).2 (.inl ⟨rfl, rfl, rfl⟩)
      rw [hnone mode hmode] at hset
      cases hset
    · -- what was set before is still there
      rw [Option.eq_none_iff_forall_ne_some]
      intro v hv
      have hset : s₁.get? point mode' = some v := (hknows (point, mode', v)).2 (.inr hv)
      rw [hnone mode' hmode'] at hset
      cases hset

/-- A surface over some points is not computed if a mode is listed twice. -/
theorem nodup_modes_of_compute {s : Surface α} (h : m.compute set facilities = .ok s)
    {point : MeasuringPoint α} (hpoint : point ∈ m.grid.points) : m.settings.modes.Nodup := by
  obtain ⟨rows, hrows, h⟩ := Except.bind_eq_ok.1 h
  obtain ⟨filled, hfilled, -⟩ := Except.bind_eq_ok.1 h
  have hvalues := mapM_pointValues_of_allValues hrows
  obtain ⟨first, others, hpoints⟩ := List.exists_cons_of_ne_nil
    (List.ne_nil_of_mem (Array.mem_toList_iff.2 hpoint))
  rw [hpoints] at hvalues hfilled
  obtain ⟨row, rest, hrow, -, hlist⟩ :=
    List.forall₂_cons_left_iff.1 (Except.mapM_eq_ok_iff.1 hvalues)
  rw [hlist, List.zip_cons_cons, List.foldlM_cons] at hfilled
  obtain ⟨_, hinsert, -⟩ := Except.bind_eq_ok.1 hfilled
  have hnodup : ((m.settings.modes.zip row).map Prod.fst).Nodup :=
    (nodup_of_foldlM_insert (frame_blank set.activityType) hinsert).1
  have hlength : m.settings.modes.length ≤ row.length := (length_of_pointValues hrow).ge
  rwa [List.map_fst_zip hlength] at hnodup

/-! ## How many trees -/

theorem nodup_requests_of_compute {s : Surface α} (h : m.compute set facilities = .ok s) :
    (closestNodes m.grid.points.toList ×ˢ m.routedModes).Nodup := by
  cases hnodes : closestNodes m.grid.points.toList with
  | nil => exact List.nodup_nil
  | cons node nodes =>
    obtain ⟨p, hp, -⟩ := mem_closestNodes.1 (hnodes ▸ List.mem_cons_self : node ∈ closestNodes _)
    have hmodes := nodup_modes_of_compute h (Array.mem_toList_iff.1 hp)
    rw [← hnodes]
    exact (nodup_closestNodes _).product (hmodes.filter _)

/-- **One tree for each closest node and each routed mode.** Points are grouped by the nodes closest
to them. A surface that is computed has asked for just one tree from each of these nodes in each
routed mode of the settings, and for no other one; so for as many as there are groups, times routed
modes. If it fails, it has asked for a beginning of them, and never for public transport. The record
of the requests makes no difference to what comes out. -/
theorem trees_asked_once :
    (∀ points : List (MeasuringPoint α), GroupedByNode points (nodeGroups points)) ∧
    ∀ (m : SurfaceModel α) (set : OpportunitySet α) (facilities : Facilities α),
      ∃ asked, ExceptT.exec (m.computeBy m.recordedAnswer set facilities) [] =
          (m.compute set facilities, asked) ∧
        asked <+: closestNodes m.grid.points.toList ×ˢ m.routedModes ∧
        (∀ node, (node, .transit) ∉ asked) ∧
        ∀ s, m.compute set facilities = .ok s →
          (∀ node mode, asked.count (node, mode) =
            if (∃ p ∈ m.grid.points, p.node = node) ∧ mode ∈ m.settings.modes ∧ mode.isRouted then 1
            else 0) ∧
          asked.length = (nodeGroups m.grid.points.toList).length * m.routedModes.length := by
  refine ⟨groupedByNode_nodeGroups, fun m set facilities => ?_⟩
  obtain ⟨asked, hexec, hbegin, hall⟩ := asks_computeBy m set facilities []
  refine ⟨asked, hexec, hbegin, fun node hnode => ?_, fun s hs => ?_⟩
  · have hmode := (List.mem_product.1 (hbegin.subset hnode)).2
    cases (List.mem_filter.1 hmode).2
  · obtain rfl := hall s hs
    refine ⟨fun node mode => ?_, ?_⟩
    · rw [(nodup_requests_of_compute hs).count]
      simp only [List.mem_product, mem_closestNodes, Array.mem_toList_iff, routedModes,
        List.mem_filter]
    · rw [List.length_product, nodeGroups_eq, List.length_map]

/-- Three places along a street, two of them closest to its end, with public transport listed between
two routed modes. -/
theorem trees_asked_once_street :
    let street : Network ℝ := NetworkBuilder.build {
      nodes := #[{ label := "a", coord := ⟨0, 0⟩ }, { label := "b", coord := ⟨100, 0⟩ }]
      links := #[{ label := "a_b", source := ⟨0⟩, target := ⟨1⟩, length := 100, speed := 10 }] }
    let settings : SurfaceSettings ℝ := { SurfaceSettings.plain 50 ⟨-1, 1⟩ with
      modes := [.freeSpeed, .transit, .walk] }
    let places : Array (MeasuringPoint ℝ) := #[⟨⟨0⟩, ⟨90, 0⟩, ⟨1⟩, 10⟩, ⟨⟨1⟩, ⟨5, 0⟩, ⟨0⟩, 5⟩,
      ⟨⟨2⟩, ⟨110, 0⟩, ⟨1⟩, 10⟩]
    let shops : OpportunitySet ℝ := ⟨"shop", [⟨⟨0⟩, ⟨110, 0⟩, ⟨1⟩, 10, 5⟩]⟩
    let m : SurfaceModel ℝ := {
      settings
      network := street
      router := Network.leastCosts settings.speeds
      grid := { box := ⟨0, 0, 150, 0⟩, cell := 50, columns := 3, rows := 1, points := places } }
    nodeGroups places.toList = [[1], [0, 2]] ∧
    ∃ s asked, m.compute shops {} = .ok s ∧
      ExceptT.exec (m.computeBy m.recordedAnswer shops {}) [] = (.ok s, asked) ∧
      asked.length = 4 ∧ asked.count (⟨1⟩, .walk) = 1 ∧ asked.count (⟨1⟩, .transit) = 0 := by
  intro street settings places shops m
  have hids : m.grid.Numbered := by
    rintro (_ | _ | _ | k) point hpoint <;> cases hpoint <;> rfl
  have hnodes : ∀ point ∈ m.grid.points.toList, point.node.index < street.nodes.size := by
    simp only [m, places, List.forall_mem_cons]
    exact ⟨by decide, by decide, by decide, List.forall_mem_nil _⟩
  have hvalues : ∀ point ∈ m.grid.points.toList, ∃ row, m.pointValues shops point = .ok row :=
    fun point hpoint => exists_pointValues_real (m := m) rfl (hnodes point hpoint)
  obtain ⟨rows, hrows⟩ := Except.exists_mapM_eq_ok_iff.2 hvalues
  obtain ⟨s, hs⟩ : ∃ s, m.compute shops {} = .ok s :=
    ⟨_, (compute_eq_ok_iff (by decide) hids).2 ⟨rows, hrows, rfl⟩⟩
  have hgroups : nodeGroups places.toList = [[1], [0, 2]] := by
    simp [nodeGroups, places, List.mergeSort, List.MergeSort.Internal.splitInTwo, List.splitBy,
      List.splitBy.loop]
  obtain ⟨-, hall⟩ := trees_asked_once (α := ℝ)
  obtain ⟨asked, hexec, -, -, hcounts⟩ := hall m shops {}
  obtain ⟨hcount, hlength⟩ := hcounts s hs
  refine ⟨hgroups, s, asked, hs, hs ▸ hexec, ?_, ?_, ?_⟩
  · rw [hlength, hgroups]
    rfl
  · rw [hcount, if_pos ⟨⟨_, Array.mem_toList_iff.1 List.mem_cons_self, rfl⟩, by decide, rfl⟩]
  · rw [hcount, if_neg]
    rintro ⟨-, -, hrouted⟩
    cases hrouted

end SurfaceModel

end SpatialAccess
