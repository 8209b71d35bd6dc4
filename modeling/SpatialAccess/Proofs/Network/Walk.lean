import SpatialAccess.Network.Routing
import SpatialAccess.Proofs.Network.Adjacency
import SpatialAccess.Proofs.Number.Laws

/-!
# Walks and their costs

* `Network.IsWalk`: links that lead from one node to another one.
* `LeastCosts.costFrom`: the cost after a list of links, added from the left.
* `LeastCosts.Reached`: a node and the cost of a walk to it. `Reached.nil`, `Reached.step`: the empty
  walk, and a walk that goes on over one more link.
* `LeastCosts.Priced`: every link has a cost that is not negative. `LeastCosts.le_costFrom`: then no
  walk is cheaper than its beginning.
* `NetworkBuilder.Yields`: the networks that come from a builder. `TravelSpeeds.exists_linkCost?`: in a
  routed mode every link of such a network has a cost.
-/

namespace SpatialAccess

variable {α : Type}

/-- Whether links lead from one node to another one. -/
def Network.IsWalk (n : Network α) : NodeId → List LinkId → NodeId → Prop
  | u, [], v => u = v
  | u, k :: ks, v => ∃ l, n.link? k = some l ∧ l.source = u ∧ n.IsWalk l.target ks v

theorem Network.isWalk_append {n : Network α} {u v : NodeId} {ks ks' : List LinkId} :
    n.IsWalk u (ks ++ ks') v ↔ ∃ w, n.IsWalk u ks w ∧ n.IsWalk w ks' v := by
  induction ks generalizing u with
  | nil =>
    constructor
    · intro h
      exact ⟨u, rfl, h⟩
    · rintro ⟨_, rfl, h⟩
      exact h
  | cons k ks ih =>
    simp only [List.cons_append, IsWalk, ih]
    constructor
    · rintro ⟨l, hl, hu, w, hw, hv⟩
      exact ⟨w, ⟨l, hl, hu, hw⟩, hv⟩
    · rintro ⟨w, ⟨l, hl, hu, hw⟩, hv⟩
      exact ⟨l, hl, hu, w, hw, hv⟩

namespace LeastCosts

variable [Number α] {costOf : LinkId → Option α} {n : Network α} {origin : NodeId}

/-- The cost after some links, added from the left to what there was before them. -/
def costFrom (costOf : LinkId → Option α) (start : α) (links : List LinkId) : Option α :=
  links.foldlM (fun cost link => (costOf link).map (cost + ·)) start

theorem costFrom_cons_eq_some {start c : α} {k : LinkId} {ks : List LinkId} :
    costFrom costOf start (k :: ks) = some c ↔
      ∃ w, costOf k = some w ∧ costFrom costOf (start + w) ks = some c := by
  simp only [costFrom, List.foldlM_cons, Option.bind_eq_bind, Option.bind_eq_some_iff,
    Option.map_eq_some_iff]
  constructor
  · rintro ⟨_, ⟨w, hw, rfl⟩, hc⟩
    exact ⟨w, hw, hc⟩
  · rintro ⟨w, hw, hc⟩
    exact ⟨_, ⟨w, hw, rfl⟩, hc⟩

theorem costFrom_concat {start c w : α} {k : LinkId} {ks : List LinkId}
    (hc : costFrom costOf start ks = some c) (hw : costOf k = some w) :
    costFrom costOf start (ks ++ [k]) = some (c + w) := by
  rw [costFrom] at hc ⊢
  simp [List.foldlM_append, hc, hw]

/-- Some walk leads to a node at this cost. -/
def Reached (costOf : LinkId → Option α) (n : Network α) (origin v : NodeId) (c : α) : Prop :=
  ∃ ks, n.IsWalk origin ks v ∧ costFrom costOf ((0 : Nat) : α) ks = some c

theorem Reached.nil : Reached costOf n origin origin ((0 : Nat) : α) :=
  ⟨[], rfl, rfl⟩

theorem Reached.step {u : NodeId} {c w : α} {k : LinkId} {l : Link α}
    (h : Reached costOf n origin u c) (hl : n.link? k = some l) (hu : l.source = u)
    (hw : costOf k = some w) : Reached costOf n origin l.target (c + w) := by
  obtain ⟨ks, hwalk, hc⟩ := h
  exact ⟨ks ++ [k], Network.isWalk_append.2 ⟨u, hwalk, l, hl, hu, rfl⟩, costFrom_concat hc hw⟩

/-- Every link has a cost, and none is negative or undefined. -/
def Priced (costOf : LinkId → Option α) (n : Network α) : Prop :=
  ∀ k l, n.link? k = some l → ∃ w, costOf k = some w ∧ ((0 : Nat) : α) ≤ w

theorem Priced.nonneg (h : Priced costOf n) {k : LinkId} {l : Link α} (hl : n.link? k = some l) {w : α}
    (hw : costOf k = some w) : ((0 : Nat) : α) ≤ w := by
  obtain ⟨w', hw', hnonneg⟩ := h k l hl
  obtain rfl : w' = w := Option.some.inj (hw'.symm.trans hw)
  exact hnonneg

/-- **No walk is cheaper than its beginning.** -/
theorem le_costFrom [CostNumber α] (hprice : Priced costOf n) {u v : NodeId} {ks : List LinkId}
    (hwalk : n.IsWalk u ks v) {start c : α} (hstart : ((0 : Nat) : α) ≤ start)
    (hc : costFrom costOf start ks = some c) : start ≤ c := by
  induction ks generalizing u start with
  | nil =>
    cases hc
    exact OrderedNumber.le_right hstart
  | cons k ks ih =>
    obtain ⟨l, hl, -, hrest⟩ := hwalk
    obtain ⟨w, hw, hc⟩ := costFrom_cons_eq_some.1 hc
    have hle : start ≤ start + w := CostNumber.le_add hstart (hprice.nonneg hl hw)
    exact OrderedNumber.le_trans hle (ih hrest (OrderedNumber.le_trans hstart hle) hc)

end LeastCosts

/-! ## Costs of links -/

/-- A network comes from a builder, perhaps with congested travel times. -/
inductive NetworkBuilder.Yields [Number α] (b : NetworkBuilder α) : Network α → Prop
  | build : b.Yields b.build
  | setCongested {n n' : Network α} {times : Array α} :
      b.Yields n → n.setCongested times = .ok n' → b.Yields n'

namespace NetworkBuilder.Yields

variable [Number α] {b : NetworkBuilder α} {n : Network α}

theorem joined (hb : ∀ l ∈ b.links, l.source.index < b.nodes.size ∧ l.target.index < b.nodes.size)
    (h : b.Yields n) : n.Joined := by
  induction h with
  | build => exact Network.joined_build hb
  | setCongested _ hn ih => exact Network.joined_setCongested ih hn

theorem size_congested (h : b.Yields n) {times : Array α} (ht : n.congested = some times) :
    times.size = n.links.size := by
  cases h with
  | build => cases ht
  | setCongested _ hn =>
    unfold Network.setCongested at hn
    split at hn
    · next hsize =>
      cases hn
      cases ht
      exact hsize
    · cases hn

/-- In a routed mode every link has a cost. -/
theorem exists_linkCost? (h : b.Yields n) (speeds : TravelSpeeds α) {mode : Mode}
    (hmode : mode.isRouted) {k : LinkId} {l : Link α} (hl : n.link? k = some l) :
    ∃ w, speeds.linkCost? n k mode = some w := by
  have hfree : n.freespeedTime? k = some (l.length / l.speed) := by
    rw [Network.freespeedTime?, hl]
    rfl
  cases mode with
  | freeSpeed => exact ⟨_, hfree⟩
  | car =>
    simp only [TravelSpeeds.linkCost?, Network.travelTime?]
    split
    · next times ht =>
      obtain ⟨hlt, -⟩ := Array.getElem?_eq_some_iff.1 hl
      exact ⟨_, Array.getElem?_eq_getElem (h.size_congested ht ▸ hlt)⟩
    · exact ⟨_, hfree⟩
  | walk => exact ⟨_, by rw [TravelSpeeds.linkCost?, hl]; rfl⟩
  | bike => exact ⟨_, by rw [TravelSpeeds.linkCost?, hl]; rfl⟩
  | transit => cases hmode

end NetworkBuilder.Yields

end SpatialAccess
