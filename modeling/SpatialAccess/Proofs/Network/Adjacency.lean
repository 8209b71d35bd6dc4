import Mathlib.Algebra.Order.Ring.Nat
import SpatialAccess.Network.Basic
import SpatialAccess.Proofs.Groups

/-!
# The links that leave a node

Links are sorted by their source, and the places where the links of a node begin are running sums of
the numbers of links. So a slice of the sorted links has the links of one node.

* `NetworkBuilder.outStart_build`: where the links of a node begin.
* **`NetworkBuilder.out_build`**: the links that leave a node are those with this source, in order.
-/

namespace SpatialAccess

/-! ## Places -/

namespace NetworkBuilder

variable {α : Type} {b : NetworkBuilder α}

theorem getElem?_runningSums {total : ℕ} {ns : List ℕ} {i : ℕ} (h : i ≤ ns.length) :
    (runningSums total ns)[i]? = some (total + (ns.take i).sum) := by
  induction ns generalizing total i with
  | nil =>
    obtain rfl : i = 0 := by simpa using h
    rfl
  | cons n ns ih =>
    cases i with
    | zero => rfl
    | succ i =>
      rw [runningSums, List.getElem?_cons_succ, ih (Nat.le_of_succ_le_succ h), List.take_succ_cons,
        List.sum_cons, Nat.add_assoc]

theorem getElem?_foldl_modify {links : List (Link α)} {degrees : Array ℕ} {u d : ℕ}
    (h : degrees[u]? = some d) :
    (links.foldl (fun degrees l => degrees.modify l.source.index (· + 1)) degrees)[u]? =
      some (d + links.countP (·.source.index = u)) := by
  induction links generalizing degrees d with
  | nil => simpa using h
  | cons l links ih =>
    rw [List.foldl_cons, List.countP_cons]
    by_cases hl : l.source.index = u
    · have hmodify : (degrees.modify l.source.index (· + 1))[u]? = some (d + 1) := by
        simp [Array.getElem?_modify, hl, h]
      rw [ih hmodify, if_pos (by simpa using hl)]
      congr 1
      omega
    · have hmodify : (degrees.modify l.source.index (· + 1))[u]? = some d := by
        simp [Array.getElem?_modify, hl, h]
      rw [ih hmodify, if_neg (by simpa using hl), Nat.add_zero]

theorem getElem?_outDegrees {u : ℕ} (h : u < b.nodes.size) :
    b.outDegrees[u]? = some (b.links.toList.countP (·.source.index = u)) := by
  have hzero : (Array.replicate b.nodes.size 0)[u]? = some 0 := by simp [h]
  rw [outDegrees, ← Array.foldl_toList, getElem?_foldl_modify hzero, Nat.zero_add]

theorem size_outDegrees : b.outDegrees.size = b.nodes.size := by
  rw [outDegrees, ← Array.foldl_toList]
  refine List.foldlRecOn (motive := fun degrees : Array ℕ => degrees.size = b.nodes.size) _ _ ?_ ?_
  · exact Array.size_replicate
  · intro degrees hsize l _
    rw [Array.size_modify, hsize]

theorem sum_take_outDegrees {u : ℕ} (h : u ≤ b.nodes.size) :
    (b.outDegrees.toList.take u).sum = b.links.toList.countP (·.source.index < u) := by
  induction u with
  | zero => simp
  | succ u ih =>
    have hget := getElem?_outDegrees (b := b) h
    rw [List.take_add_one, List.sum_append, ih (Nat.le_of_succ_le h), Array.getElem?_toList, hget,
      countP_lt_succ]
    rfl

/-- **The links of a node begin behind those of the nodes before it.** -/
theorem outStart_build {u : ℕ} (h : u ≤ b.nodes.size) :
    b.build.outStart[u]? = some (b.links.toList.countP (·.source.index < u)) := by
  have hlength : u ≤ b.outDegrees.toList.length := by rwa [Array.length_toList, size_outDegrees]
  rw [build, List.getElem?_toArray, getElem?_runningSums hlength, sum_take_outDegrees h,
    Nat.zero_add]

/-- The sources of the links, in the order of the links. -/
theorem map_source_linkIds : b.build.linkIds.map b.source = b.links.toList.map (·.source.index) := by
  apply List.ext_getElem?
  intro i
  simp only [Network.linkIds, build, List.map_map, List.getElem?_map, Array.getElem?_toList]
  by_cases h : i < b.links.size
  · simp [source, h]
  · simp [Nat.le_of_not_lt h]

theorem countP_source (p : ℕ → Bool) :
    b.build.linkIds.countP (fun k => p (b.source k)) =
      b.links.toList.countP fun l => p l.source.index := by
  have h := congrArg (List.countP p) (map_source_linkIds (b := b))
  rwa [List.countP_map, List.countP_map] at h

/-- **The links that leave a node are those that have it as their source, in order.** -/
theorem out_build {node : NodeId} (h : node.index < b.nodes.size) :
    b.build.out node = b.build.linkIds.filter (b.source · = node.index) := by
  have hstart := outStart_build (b := b) (Nat.le_of_lt h)
  have hstop := outStart_build (b := b) (Nat.succ_le_of_lt h)
  rw [countP_lt_succ] at hstop
  have hsorted : (b.build.linkIds.mergeSort fun k l => b.source k ≤ b.source l).Pairwise
      (b.source · ≤ b.source ·) := pairwise_mergeSort_key _
  have hperm : ∀ p : ℕ → Bool, (b.build.linkIds.mergeSort fun k l => b.source k ≤ b.source l).countP
      (fun k => p (b.source k)) = b.links.toList.countP fun l => p l.source.index := fun p => by
    rw [(List.mergeSort_perm _ _).countP_eq, countP_source]
  have hslice := take_drop_eq_filter hsorted node.index
  rw [hperm (· < node.index), hperm (· = node.index), filter_mergeSort] at hslice
  simp only [Network.out, hstart, hstop]
  rw [Array.toList_extract, List.extract_eq_take_drop, Nat.add_sub_cancel_left]
  exact hslice

end NetworkBuilder

/-! ## Joined networks -/

namespace Network

variable {α : Type} {n : Network α}

/-- Every link joins two nodes, and of every node the links that leave it are known. -/
structure Joined (n : Network α) : Prop where
  source_lt : ∀ k l, n.link? k = some l → l.source.index < n.nodes.size
  target_lt : ∀ k l, n.link? k = some l → l.target.index < n.nodes.size
  out_eq : ∀ node : NodeId, node.index < n.nodes.size →
    n.out node = n.linkIds.filter fun k => (n.link? k).any fun l => l.source = node

theorem mem_linkIds_iff {k : LinkId} : k ∈ n.linkIds ↔ ∃ l, n.link? k = some l := by
  simp only [linkIds, link?, List.mem_map, List.mem_range, Array.getElem?_eq_some_iff]
  constructor
  · rintro ⟨i, hi, rfl⟩
    exact ⟨_, hi, rfl⟩
  · rintro ⟨_, hi, -⟩
    exact ⟨k.index, hi, rfl⟩

theorem Joined.mem_out_iff (h : n.Joined) {node : NodeId} (hnode : node.index < n.nodes.size)
    {k : LinkId} : k ∈ n.out node ↔ ∃ l, n.link? k = some l ∧ l.source = node := by
  rw [h.out_eq node hnode, List.mem_filter, mem_linkIds_iff, Option.any_eq_true]
  constructor
  · rintro ⟨-, l, hl, hsource⟩
    exact ⟨l, hl, of_decide_eq_true hsource⟩
  · rintro ⟨l, hl, hsource⟩
    exact ⟨⟨l, hl⟩, l, hl, decide_eq_true hsource⟩

/-- **A network that was built from links between its nodes is joined.** -/
theorem joined_build {b : NetworkBuilder α}
    (h : ∀ l ∈ b.links, l.source.index < b.nodes.size ∧ l.target.index < b.nodes.size) :
    b.build.Joined where
  source_lt k l hl := (h l (Array.mem_of_getElem? hl)).1
  target_lt k l hl := (h l (Array.mem_of_getElem? hl)).2
  out_eq node hnode := by
    rw [NetworkBuilder.out_build hnode]
    refine List.filter_congr fun k hk => ?_
    obtain ⟨l, hl⟩ := mem_linkIds_iff.1 hk
    have hl' : b.links[k.index]? = some l := hl
    have hsource : b.source k = l.source.index := by simp [NetworkBuilder.source, hl']
    rw [hsource, hl, Option.any_some]
    exact decide_eq_decide.2 ⟨Id.ext_index, congrArg Id.index⟩

theorem joined_setCongested [Number α] {n' : Network α} {times : Array α} (h : n.Joined)
    (hn : n.setCongested times = .ok n') : n'.Joined := by
  unfold setCongested at hn
  split at hn
  · cases hn
    exact ⟨h.source_lt, h.target_lt, h.out_eq⟩
  · cases hn

end Network

end SpatialAccess
