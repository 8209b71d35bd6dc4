import SpatialAccess.Network.Basic

/-!
# The node closest to a point

* `Network.exists_snap?`, `Network.exists_attach?`: in a network with nodes one of them is closest, and
  there is a beeline to it.
* `Network.index_lt_of_snap?`, `Network.index_lt_of_attach?`: it is a node of the network.
-/

namespace SpatialAccess.Network

variable {α : Type} [Number α] {n : Network α}

theorem foldl_closest_mem (others : List (NodeId × α)) (first : NodeId × α) :
    others.foldl (fun best next => if next.2 < best.2 then next else best) first ∈
      first :: others := by
  induction others generalizing first with
  | nil => exact List.mem_singleton_self first
  | cons next others ih =>
    rw [List.foldl_cons]
    split
    · exact List.mem_cons_of_mem first (ih next)
    · obtain h | h := List.mem_cons.1 (ih first)
      · rw [h]
        exact List.mem_cons_self
      · exact List.mem_cons_of_mem first (List.mem_cons_of_mem next h)

theorem index_lt_of_mem_distancesSq {p : Point α} {entry : NodeId × α}
    (h : entry ∈ n.distancesSq p) : entry.1.index < n.nodes.size := by
  obtain ⟨⟨node, i⟩, hi, rfl⟩ := List.mem_map.1 h
  have := (List.mem_zipIdx_iff_getElem?.1 hi)
  obtain ⟨hlt, -⟩ := List.getElem?_eq_some_iff.1 this
  simpa using hlt

/-- The closest node is a node of the network. -/
theorem index_lt_of_snap? {p : Point α} {node : NodeId} (h : n.snap? p = some node) :
    node.index < n.nodes.size := by
  unfold snap? at h
  split at h
  · cases h
  · next first others hd =>
    cases h
    exact index_lt_of_mem_distancesSq (hd ▸ foldl_closest_mem others first)

theorem index_lt_of_attach? {p : Point α} {node : NodeId} {access : α}
    (h : n.attach? p = some (node, access)) : node.index < n.nodes.size := by
  obtain ⟨node', hsnap, h⟩ := Option.bind_eq_some_iff.1 h
  obtain ⟨coord, -, h⟩ := Option.bind_eq_some_iff.1 h
  cases h
  exact index_lt_of_snap? hsnap

/-- In a network with nodes one of them is closest. -/
theorem exists_snap? (h : n.isEmpty = false) (p : Point α) : ∃ node, n.snap? p = some node := by
  unfold snap?
  split
  · next hd =>
    have hlength : (n.distancesSq p).length = n.nodes.size := by simp [distancesSq]
    rw [isEmpty, Array.isEmpty_eq_false_iff, ← Array.size_pos_iff, ← hlength, hd] at h
    cases h
  · exact ⟨_, rfl⟩

theorem exists_attach? (h : n.isEmpty = false) (p : Point α) :
    ∃ node access, n.attach? p = some (node, access) := by
  obtain ⟨node, hsnap⟩ := exists_snap? h p
  have hlt : node.index < n.nodes.size := index_lt_of_snap? hsnap
  have hcoord : n.nodeCoord? node = some n.nodes[node.index].coord := by
    rw [nodeCoord?, node?, Array.getElem?_eq_getElem hlt]
    rfl
  refine ⟨node, p.distance n.nodes[node.index].coord, ?_⟩
  rw [attach?, hsnap]
  simp only [Option.bind_eq_bind, Option.bind_some, hcoord]
  rfl

end SpatialAccess.Network
