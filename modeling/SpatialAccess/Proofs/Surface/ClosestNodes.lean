import Mathlib.Data.Finset.Sort
import SpatialAccess.Proofs.Groups
import SpatialAccess.Surface.Compute

/-!
# Groups of points by their closest nodes

The numbers of the points are sorted by node, and a number joins the group before it if that has the
same node. Since sorting brings equal nodes together and keeps the order of their numbers, there is
one group for each node.

* `closestNodes`: the nodes that points are closest to. `numbersAt`: the numbers of the points that
  are closest to a node.
* **`nodeGroups_eq`**: the groups are the numbers at one of these nodes after the other.
* `nodeGroups_flatten_perm`, `node_of_mem_nodeGroups`: the groups share out the points, and the points
  of a group are closest to the same node.
* `GroupedByNode`: groups that share out points by node. **`groupedByNode_nodeGroups`**: these do.
-/

namespace SpatialAccess

variable {α : Type}

theorem Id.eq_mk_iff {e : Entity} {id : Id e} {k : ℕ} : id = ⟨k⟩ ↔ id.index = k :=
  ⟨fun h => congrArg Id.index h, fun h => Id.ext_index h⟩

/-- The nodes that points are closest to, each once and in ascending order. -/
def closestNodes (points : List (MeasuringPoint α)) : List NodeId :=
  (points.map fun p => p.node.index).toFinset.sort.map Id.mk

/-- The numbers of the points that are closest to a node. -/
def numbersAt (points : List (MeasuringPoint α)) (node : NodeId) : List ℕ :=
  (points.zipIdx.filter fun (p, _) => p.node = node).map Prod.snd

variable {points : List (MeasuringPoint α)} {node : NodeId}

theorem mem_closestNodes : node ∈ closestNodes points ↔ ∃ p ∈ points, p.node = node := by
  obtain ⟨k⟩ := node
  simp [closestNodes, Id.eq_mk_iff]

theorem pairwise_closestNodes (points : List (MeasuringPoint α)) :
    (closestNodes points).Pairwise (·.index < ·.index) :=
  List.pairwise_map.2 (Finset.sortedLT_sort _).pairwise

theorem nodup_closestNodes (points : List (MeasuringPoint α)) : (closestNodes points).Nodup :=
  (pairwise_closestNodes points).imp fun {a b} hlt (heq : a = b) => by
    rw [heq] at hlt
    exact Nat.lt_irrefl _ hlt

theorem mem_numbersAt {i : ℕ} :
    i ∈ numbersAt points node ↔ ∃ p, points[i]? = some p ∧ p.node = node := by
  simp [numbersAt, List.mem_zipIdx_iff_getElem?]

theorem numbersAt_ne_nil (h : node ∈ closestNodes points) : numbersAt points node ≠ [] := by
  obtain ⟨p, hp, hnode⟩ := mem_closestNodes.1 h
  obtain ⟨i, hi⟩ := List.mem_iff_getElem?.1 hp
  exact List.ne_nil_of_mem (mem_numbersAt.2 ⟨p, hi, hnode⟩)

theorem pairwise_numbersAt (points : List (MeasuringPoint α)) (node : NodeId) :
    (numbersAt points node).Pairwise (· < ·) := by
  have hall : (points.zipIdx.map Prod.snd).Pairwise (· < ·) := by
    rw [List.zipIdx_map_snd]
    exact List.pairwise_lt_range' 1
  exact hall.sublist (List.filter_sublist.map _)

/-- **The groups of points** are the numbers at one closest node after the other. -/
theorem nodeGroups_eq (points : List (MeasuringPoint α)) :
    nodeGroups points = (closestNodes points).map (numbersAt points) := by
  let numbered := points.zipIdx.map fun (p, i) => (p.node.index, i)
  let sorted := numbered.mergeSort fun a b => a.1 ≤ b.1
  have hkeys : numbered.map Prod.fst = points.map fun p => p.node.index := by
    rw [List.map_map]
    conv_rhs => rw [← List.zipIdx_map_fst 0 points, List.map_map]
    rfl
  have hmem : ∀ k, k ∈ (points.map fun p => p.node.index).toFinset.sort ↔ ∃ x ∈ sorted, x.1 = k := by
    intro k
    rw [Finset.mem_sort, List.mem_toFinset, ← hkeys, List.mem_map]
    simp only [sorted, List.mem_mergeSort]
  have hruns : (sorted.splitBy fun a b => a.1 == b.1) =
      (points.map fun p => p.node.index).toFinset.sort.map fun k => sorted.filter (·.1 = k) :=
    splitBy_eq_map_filter (pairwise_mergeSort_key numbered) (Finset.sortedLT_sort _).pairwise hmem
  have hgroup : ∀ k, (sorted.filter (·.1 = k)).map Prod.snd = numbersAt points ⟨k⟩ := by
    intro k
    rw [filter_mergeSort, numbersAt, List.filter_map, List.map_map]
    simp only [Function.comp_def, Id.eq_mk_iff]
  calc nodeGroups points = (sorted.splitBy fun a b => a.1 == b.1).map (List.map Prod.snd) := rfl
    _ = (closestNodes points).map (numbersAt points) := by
      rw [hruns, closestNodes, List.map_map, List.map_map]
      exact List.map_congr_left fun k _ => hgroup k

/-- The points of a group are closest to the same node. -/
theorem node_of_mem_nodeGroups {group : List ℕ} (h : group ∈ nodeGroups points) :
    group ≠ [] ∧ ∃ node, ∀ i ∈ group, ∃ p, points[i]? = some p ∧ p.node = node := by
  rw [nodeGroups_eq] at h
  obtain ⟨node, hnode, rfl⟩ := List.mem_map.1 h
  exact ⟨numbersAt_ne_nil hnode, node, fun i hi => mem_numbersAt.1 hi⟩

/-! ## What the groups share out -/

/-- **The groups share out the points.** -/
theorem nodeGroups_flatten_perm (points : List (MeasuringPoint α)) :
    (nodeGroups points).flatten.Perm (List.range points.length) := by
  rw [nodeGroups, ← List.map_flatten, List.flatten_splitBy]
  refine ((List.mergeSort_perm _ _).map _).trans ?_
  rw [List.map_map, List.range_eq_range', ← List.zipIdx_map_snd 0 points]
  exact List.Perm.refl _

theorem mem_flatten_nodeGroups_iff {points : Array (MeasuringPoint α)} {i : Nat} :
    i ∈ (nodeGroups points.toList).flatten ↔ i < points.size := by
  rw [(nodeGroups_flatten_perm _).mem_iff, List.mem_range, Array.length_toList]

/-- Groups share out the numbers of points by node: every number is in one of them, once; two
numbers share a group just if their points are closest to the same node; no group is empty; and both
the nodes of the groups and the numbers in each of them ascend. -/
structure GroupedByNode (points : List (MeasuringPoint α)) (groups : List (List ℕ)) : Prop where
  once : ∀ i, groups.flatten.count i = if i < points.length then 1 else 0
  together : ∀ i j (hi : i < points.length) (hj : j < points.length),
    (∃ group ∈ groups, i ∈ group ∧ j ∈ group) ↔ points[i].node = points[j].node
  nonempty : ∀ group ∈ groups, group ≠ []
  nodes_ascend : groups.Pairwise fun group later => ∀ i ∈ group, ∀ j ∈ later,
    ∃ p q, points[i]? = some p ∧ points[j]? = some q ∧ p.node.index < q.node.index
  numbers_ascend : ∀ group ∈ groups, group.Pairwise (· < ·)

/-- **Points are grouped by their closest nodes.** -/
theorem groupedByNode_nodeGroups (points : List (MeasuringPoint α)) :
    GroupedByNode points (nodeGroups points) where
  once i := by
    rw [(nodeGroups_flatten_perm points).count_eq, List.nodup_range.count]
    simp only [List.mem_range]
  together i j hi hj := by
    rw [nodeGroups_eq]
    constructor
    · rintro ⟨group, hgroup, hmem, hmem'⟩
      obtain ⟨node, -, rfl⟩ := List.mem_map.1 hgroup
      obtain ⟨p, hp, hnode⟩ := mem_numbersAt.1 hmem
      obtain ⟨q, hq, hnode'⟩ := mem_numbersAt.1 hmem'
      rw [(List.getElem?_eq_some_iff.1 hp).2, (List.getElem?_eq_some_iff.1 hq).2, hnode, hnode']
    · intro hsame
      refine ⟨numbersAt points points[i].node, List.mem_map_of_mem ?_, ?_, ?_⟩
      · exact mem_closestNodes.2 ⟨_, List.getElem_mem hi, rfl⟩
      · exact mem_numbersAt.2 ⟨_, List.getElem?_eq_getElem hi, rfl⟩
      · exact mem_numbersAt.2 ⟨_, List.getElem?_eq_getElem hj, hsame.symm⟩
  nonempty group hgroup := (node_of_mem_nodeGroups hgroup).1
  nodes_ascend := by
    rw [nodeGroups_eq, List.pairwise_map]
    refine (pairwise_closestNodes points).imp fun {node node'} hlt i hi j hj => ?_
    obtain ⟨p, hp, rfl⟩ := mem_numbersAt.1 hi
    obtain ⟨q, hq, rfl⟩ := mem_numbersAt.1 hj
    exact ⟨p, q, hp, hq, hlt⟩
  numbers_ascend group hgroup := by
    rw [nodeGroups_eq] at hgroup
    obtain ⟨node, -, rfl⟩ := List.mem_map.1 hgroup
    exact pairwise_numbersAt points node

end SpatialAccess
