import SpatialAccess.Proofs.Network.Adjacency

/-!
# Slices of the sorted links

A network is built by calls that add nodes, links and roads. If every call names nodes that it was
given before, the links of the network are sliced by their source without gaps and overlaps.

* `BuilderCall`: what a builder can be asked for. `NetworkBuilder.afterCalls`: the nodes that it has
  issued, and the builder, behind some calls.
* `BuilderCall.NamesIssued`: the calls name only nodes that were issued before.
  `NetworkBuilder.Keeps.run`: what a call keeps of a builder.
* `Network.Sliced`: the slices lie one behind the other, and each has the links of its node.
  `Network.sliced_build`: so it is if the links join nodes of the builder.
* **`NetworkBuilder.sliced_afterCalls`**: every network that is built call by call is sliced.
-/

namespace SpatialAccess

variable {α : Type}

/-! ## Sliced networks -/

/-- The links are sorted by source and sliced without gaps and overlaps, one slice for every node. -/
structure Network.Sliced (n : Network α) : Prop where
  /-- There is a start for every node and one more, -/
  size_outStart : n.outStart.size = n.nodes.size + 1
  /-- they go from nothing to all links, -/
  outStart_zero : n.outStart[0]? = some 0
  outStart_last : n.outStart[n.nodes.size]? = some n.links.size
  /-- and none lies before an earlier one. -/
  outStart_le : ∀ i j start start' : ℕ, i ≤ j → n.outStart[i]? = some start →
    n.outStart[j]? = some start' → start ≤ start'
  size_outLinks : n.outLinks.size = n.links.size
  /-- What leaves a node is a slice of the links that does not reach beyond them; -/
  out_eq : ∀ node : NodeId, node.index < n.nodes.size → ∃ start stop,
    n.outStart[node.index]? = some start ∧ n.outStart[node.index + 1]? = some stop ∧
      start ≤ stop ∧ stop ≤ n.outLinks.size ∧ n.out node = (n.outLinks.extract start stop).toList
  /-- it has just the links with this source, in ascending order. -/
  mem_out_iff : ∀ node : NodeId, node.index < n.nodes.size → ∀ k, k ∈ n.out node ↔
    ∃ l, n.link? k = some l ∧ l.source = node
  pairwise_out : ∀ node : NodeId, node.index < n.nodes.size →
    (n.out node).Pairwise fun k k' => k.index < k'.index
  /-- Over all nodes every link is there once. -/
  flatMap_out_perm : ((List.range n.nodes.size).flatMap fun i => n.out ⟨i⟩).Perm n.linkIds

namespace NetworkBuilder

variable {b : NetworkBuilder α}

theorem length_runningSums (total : ℕ) (ns : List ℕ) :
    (runningSums total ns).length = ns.length + 1 := by
  induction ns generalizing total with
  | nil => rfl
  | cons n ns ih => rw [runningSums, List.length_cons, ih, List.length_cons]

theorem size_outStart_build : b.build.outStart.size = b.nodes.size + 1 := by
  rw [build, List.size_toArray, length_runningSums, Array.length_toList, size_outDegrees]

theorem size_outLinks_build : b.build.outLinks.size = b.links.size := by
  simp [build]

/-- The slice of a node begins behind those of the nodes before it, and ends where the next one
begins. -/
theorem exists_slice {node : NodeId} (h : node.index < b.nodes.size) :
    ∃ start stop, b.build.outStart[node.index]? = some start ∧
      b.build.outStart[node.index + 1]? = some stop ∧ start ≤ stop ∧
      stop ≤ b.build.outLinks.size ∧
      b.build.out node = (b.build.outLinks.extract start stop).toList := by
  have hstart := outStart_build (b := b) (Nat.le_of_lt h)
  have hstop := outStart_build (b := b) (Nat.succ_le_of_lt h)
  refine ⟨_, _, hstart, hstop, ?_, ?_, ?_⟩
  · rw [countP_lt_succ]
    exact Nat.le_add_right _ _
  · rw [size_outLinks_build, ← Array.length_toList]
    exact List.countP_le_length
  · simp only [Network.out, hstart, hstop]

end NetworkBuilder

namespace Network

open NetworkBuilder

theorem pairwise_linkIds (n : Network α) : n.linkIds.Pairwise fun k k' => k.index < k'.index :=
  List.pairwise_map.2 List.pairwise_lt_range

/-- **A network whose links join nodes of its builder is sliced.** -/
theorem sliced_build {b : NetworkBuilder α}
    (h : ∀ l ∈ b.links, l.source.index < b.nodes.size ∧ l.target.index < b.nodes.size) :
    b.build.Sliced where
  size_outStart := size_outStart_build
  outStart_zero := by
    rw [outStart_build (Nat.zero_le _)]
    simp
  outStart_last := by
    have hall : ∀ l ∈ b.links.toList, decide (l.source.index < b.nodes.size) = true := fun l hl =>
      decide_eq_true (h l (Array.mem_toList_iff.1 hl)).1
    have hlast := outStart_build (b := b) (Nat.le_refl b.nodes.size)
    rwa [List.countP_eq_length.2 hall, Array.length_toList] at hlast
  outStart_le := by
    intro i j start start' hij hi hj
    have hlt : j < b.nodes.size + 1 :=
      size_outStart_build (b := b) ▸ (Array.getElem?_eq_some_iff.1 hj).1
    rw [outStart_build (by omega)] at hi hj
    cases hi
    cases hj
    exact List.countP_mono_left fun l _ hl => decide_eq_true (by simp at hl; omega)
  size_outLinks := size_outLinks_build
  out_eq _ hnode := exists_slice hnode
  mem_out_iff _ hnode _ := (joined_build h).mem_out_iff hnode
  pairwise_out node hnode := by
    rw [out_build hnode]
    exact (pairwise_linkIds _).filter _
  flatMap_out_perm := by
    have hout : ((List.range b.nodes.size).flatMap fun i => b.build.out ⟨i⟩) =
        (List.range b.nodes.size).flatMap fun i => b.build.linkIds.filter (b.source · = i) :=
      List.flatMap_congr fun i hi => out_build (List.mem_range.1 hi)
    have hperm := flatMap_filter_perm b.source (List.nodup_range (n := b.nodes.size))
      b.build.linkIds
    have hall : b.build.linkIds.filter (b.source · ∈ List.range b.nodes.size) = b.build.linkIds := by
      refine List.filter_eq_self.2 fun k hk => ?_
      obtain ⟨l, hl⟩ := mem_linkIds_iff.1 hk
      have hl' : b.links[k.index]? = some l := hl
      have hlt := (h l (Array.mem_of_getElem? hl')).1
      simpa [NetworkBuilder.source, hl'] using hlt
    show ((List.range b.nodes.size).flatMap fun i => b.build.out ⟨i⟩).Perm _
    rw [hout]
    rwa [hall] at hperm

end Network

/-! ## Calls -/

/-- What a builder can be asked for. -/
inductive BuilderCall (α : Type) where
  | addNode (label : String) (coord : Point α)
  | addLink (link : Link α)
  | addRoad (source target : NodeId) (length speed : α)

namespace BuilderCall

/-- The nodes that a call names. -/
def ends : BuilderCall α → List NodeId
  | addNode _ _ => []
  | addLink link => [link.source, link.target]
  | addRoad source target _ _ => [source, target]

/-- The nodes that a call issues, and the builder behind it. -/
def run (b : NetworkBuilder α) : BuilderCall α → List NodeId × NetworkBuilder α
  | addNode label coord =>
    let (id, b) := b.addNode label coord
    ([id], b)
  | addLink link => ([], (b.addLink link).2)
  | addRoad source target length speed => ([], (b.addRoad source target length speed).2)

end BuilderCall

namespace NetworkBuilder

/-- The nodes that a builder has issued, and the builder, behind some calls. -/
def afterCalls (calls : List (BuilderCall α)) : List NodeId × NetworkBuilder α :=
  calls.foldl (fun s call => (s.1 ++ (call.run s.2).1, (call.run s.2).2)) ([], {})

theorem afterCalls_concat (calls : List (BuilderCall α)) (call : BuilderCall α) :
    afterCalls (calls ++ [call]) =
      ((afterCalls calls).1 ++ (call.run (afterCalls calls).2).1,
        (call.run (afterCalls calls).2).2) := by
  rw [afterCalls, List.foldl_append]
  rfl

/-- Calls name only nodes that were issued before. -/
def NamesIssued (calls : List (BuilderCall α)) : Prop :=
  ∀ i call, calls[i]? = some call → ∀ node ∈ call.ends, node ∈ (afterCalls (calls.take i)).1

theorem NamesIssued.of_concat {calls : List (BuilderCall α)} {call : BuilderCall α}
    (h : NamesIssued (calls ++ [call])) :
    NamesIssued calls ∧ ∀ node ∈ call.ends, node ∈ (afterCalls calls).1 := by
  constructor
  · intro i call' hcall
    have hlt : i < calls.length := (List.getElem?_eq_some_iff.1 hcall).1
    have hnext := h i call' (by rwa [List.getElem?_append_left hlt])
    rwa [List.take_append_of_le_length hlt.le] at hnext
  · have hlast := h calls.length call (by simp)
    rwa [List.take_left] at hlast

/-- The nodes that were issued are those of the builder, and its links join them. -/
structure Keeps (issued : List NodeId) (b : NetworkBuilder α) : Prop where
  mem_iff : ∀ node, node ∈ issued ↔ node.index < b.nodes.size
  ends_mem : ∀ l ∈ b.links, l.source ∈ issued ∧ l.target ∈ issued

theorem Keeps.addLink {issued : List NodeId} {b : NetworkBuilder α} (h : Keeps issued b)
    {l : Link α} (hl : l.source ∈ issued ∧ l.target ∈ issued) : Keeps issued (b.addLink l).2 where
  mem_iff := h.mem_iff
  ends_mem l' hl' := by
    obtain hold | rfl := Array.mem_push.1 hl'
    · exact h.ends_mem l' hold
    · exact hl

/-- **A call that names only issued nodes keeps this.** -/
theorem Keeps.run {issued : List NodeId} {b : NetworkBuilder α} (h : Keeps issued b)
    {call : BuilderCall α} (hcall : ∀ node ∈ call.ends, node ∈ issued) :
    Keeps (issued ++ (call.run b).1) (call.run b).2 := by
  cases call with
  | addNode label coord =>
    refine ⟨fun node => ?_, fun l hl => ?_⟩
    · simp only [BuilderCall.run, addNode, List.mem_append, List.mem_singleton, h.mem_iff,
        Array.size_push]
      constructor
      · rintro (hlt | rfl)
        · exact Nat.lt_succ_of_lt hlt
        · exact Nat.lt_succ_self _
      · intro hlt
        exact (Nat.lt_succ_iff_lt_or_eq.1 hlt).imp_right Id.ext_index
    · obtain ⟨hsource, htarget⟩ := h.ends_mem l hl
      exact ⟨List.mem_append_left _ hsource, List.mem_append_left _ htarget⟩
  | addLink l =>
    rw [BuilderCall.run, List.append_nil]
    exact h.addLink ⟨hcall _ (by simp [BuilderCall.ends]), hcall _ (by simp [BuilderCall.ends])⟩
  | addRoad source target length speed =>
    have hsource : source ∈ issued := hcall _ (by simp [BuilderCall.ends])
    have htarget : target ∈ issued := hcall _ (by simp [BuilderCall.ends])
    rw [BuilderCall.run, List.append_nil]
    exact (h.addLink ⟨hsource, htarget⟩).addLink ⟨htarget, hsource⟩

theorem keeps_afterCalls {calls : List (BuilderCall α)} (h : NamesIssued calls) :
    Keeps (afterCalls calls).1 (afterCalls calls).2 := by
  induction calls using List.reverseRecOn with
  | nil => exact ⟨by simp [afterCalls], by simp [afterCalls]⟩
  | append_singleton calls call ih =>
    obtain ⟨hcalls, hcall⟩ := h.of_concat
    rw [afterCalls_concat]
    exact (ih hcalls).run hcall

/-- **A network that is built call by call is sliced**, if every call names only nodes that were
issued before; and as long as there are fewer links than identifiers, the starts of its slices are
small enough for these. -/
theorem sliced_afterCalls {calls : List (BuilderCall α)} (h : NamesIssued calls) :
    let n := (afterCalls calls).2.build
    n.Sliced ∧ (n.links.size < Id.limit → ∀ start ∈ n.outStart, start < Id.limit) := by
  intro n
  have hkeeps := keeps_afterCalls h
  have hsliced : n.Sliced := Network.sliced_build fun l hl =>
    ⟨(hkeeps.mem_iff _).1 (hkeeps.ends_mem l hl).1, (hkeeps.mem_iff _).1 (hkeeps.ends_mem l hl).2⟩
  refine ⟨hsliced, fun hlinks start hstart => ?_⟩
  obtain ⟨i, hi⟩ := Array.mem_iff_getElem?.1 hstart
  have hlt : i < n.nodes.size + 1 := hsliced.size_outStart ▸ (Array.getElem?_eq_some_iff.1 hi).1
  exact Nat.lt_of_le_of_lt
    (hsliced.outStart_le i _ _ _ (Nat.le_of_lt_succ hlt) hi hsliced.outStart_last) hlinks

/-- A road between a square and a mill, a place that no link leads to, and a circle at the mill. -/
def millCalls : List (BuilderCall ℕ) :=
  [.addNode "square" ⟨0, 0⟩, .addNode "island" ⟨9, 9⟩, .addNode "mill" ⟨4, 0⟩,
    .addRoad ⟨0⟩ ⟨2⟩ 4 1, .addLink ⟨"circle", ⟨2⟩, ⟨2⟩, 1, 1⟩]

theorem namesIssued_mill : NamesIssued millCalls := by
  intro i call hcall
  rcases i with _ | _ | _ | _ | _ | i
  all_goals first | cases hcall; decide | cases hcall

/-- Two links leave the mill, one the square, and none the place that no link leads to. -/
theorem sliced_afterCalls_mill :
    ∃ n : Network ℕ, n = (afterCalls millCalls).2.build ∧ NamesIssued millCalls ∧ n.Sliced ∧
      n.links.size < Id.limit ∧ n.outStart = #[0, 1, 1, 3] ∧
      (∀ start ∈ n.outStart, start < Id.limit) :=
  have hlinks : (afterCalls millCalls).2.build.links.size < Id.limit := by decide
  have hsliced := sliced_afterCalls namesIssued_mill
  ⟨_, rfl, namesIssued_mill, hsliced.1, hlinks, by decide, hsliced.2 hlinks⟩

end NetworkBuilder

end SpatialAccess
