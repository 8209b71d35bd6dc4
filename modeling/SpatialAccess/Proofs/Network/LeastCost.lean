import SpatialAccess.Proofs.Network.Growth
import SpatialAccess.Proofs.Number.Double.Sum

/-!
# Trees hold least costs

* `LeastCosts.Growing.le_of_isWalk`: once nothing waits, no walk is cheaper than the label of its end.
* `LeastCosts.labels_spec`, `LeastCosts.label_le_of_reached`: labels are the least costs of walks.
* **`Network.leastCosts_spec`**: the tree from a node has the least cost of every node, and none for
  the nodes that no walk reaches at finite cost.
-/

namespace SpatialAccess

variable {α : Type} [Number α] [CostNumber α]

namespace LeastCosts

variable {costOf : LinkId → Option α} {n : Network α} {origin : NodeId}

open OrderedNumber

/-- **Once nothing waits, no walk is cheaper than the label of its end.** -/
theorem Growing.le_of_isWalk {S : List NodeId} {t : α} {s : State α} (hprice : Priced costOf n)
    (h : Growing costOf n origin S [] t s) (hqueue : s.queue = []) {u v : NodeId} {ks : List LinkId}
    (hwalk : n.IsWalk u ks v) {d start c : α} (hd : s.label? u = some d) (hle : d ≤ start)
    (hc : costFrom costOf start ks = some c) (hfinite : Number.isFinite c = true) :
    ∃ e, s.label? v = some e ∧ e ≤ c := by
  induction ks generalizing u d start with
  | nil =>
    obtain rfl : u = v := hwalk
    obtain rfl : start = c := Option.some.inj hc
    exact ⟨d, hd, hle⟩
  | cons k ks ih =>
    obtain ⟨l, hl, rfl, hrest⟩ := hwalk
    obtain ⟨w, hw, hc⟩ := costFrom_cons_eq_some.1 hc
    have hnonneg : ((0 : Nat) : α) ≤ w := hprice.nonneg hl hw
    have hd0 : ((0 : Nat) : α) ≤ d := (h.reached _ _ hd).1.nonneg hprice
    have hsum : d + w ≤ start + w := CostNumber.add_le_add hd0 hle hnonneg
    have hsum0 : ((0 : Nat) : α) ≤ d + w := le_trans hd0 (CostNumber.le_add hd0 hnonneg)
    have hstart : start + w ≤ c := le_costFrom hprice hrest (le_trans hsum0 hsum) hc
    -- a label that does not wait is settled, so the link has been looked at
    have hsettled : l.source ∈ S := by
      by_cases hmem : l.source ∈ S
      · exact hmem
      · exact absurd (h.queued _ _ hd hmem) (hqueue ▸ List.not_mem_nil)
    have hfinite' : Number.isFinite (d + w) = true :=
      CostNumber.isFinite_of_le hsum0 (le_trans hsum hstart) hfinite
    obtain ⟨e, he, hle'⟩ := h.relaxed k l d w List.not_mem_nil hl hsettled hw hd hfinite'
    exact ih hrest he (le_trans hle' hsum) hc

-- the functions are equal by unfolding; unfolding what they give for one network would run them
omit [CostNumber α] in
theorem labels_eq : labels (α := α) =
    fun costOf n origin => (grow costOf n (fuel n) (.initial n origin)).labels :=
  rfl

omit [CostNumber α] in
/-- The tree grows for longer than there are links to look at. -/
theorem exists_labels_eq_grow : ∃ steps, n.links.size + 1 ≤ steps ∧
    labels costOf n origin = (grow costOf n steps (.initial n origin)).labels :=
  ⟨fuel n, Nat.le_add_right _ _, congrFun (congrFun (congrFun labels_eq costOf) n) origin⟩

omit [Number α] [CostNumber α] in
theorem unsettledLinks_le : unsettledLinks n [] ≤ n.links.size := by
  have hlength : n.linkIds.length = n.links.size := by simp [Network.linkIds]
  exact hlength ▸ List.countP_le_length

/-- Labels are the least finite costs of walks. -/
theorem labels_spec (hprice : Priced costOf n) (hjoined : n.Joined)
    (horigin : origin.index < n.nodes.size) :
    ((labels costOf n origin)[origin.index]?).join = some ((0 : Nat) : α) ∧
    ∀ v : NodeId,
      (∀ d, ((labels costOf n origin)[v.index]?).join = some d →
        Number.isFinite d = true ∧ Reached costOf n origin v d) ∧
      ∀ c, Reached costOf n origin v c → Number.isFinite c = true →
        ∃ d, ((labels costOf n origin)[v.index]?).join = some d ∧ d ≤ c := by
  obtain ⟨steps, hsteps, hlabels⟩ : ∃ steps, n.links.size + 1 ≤ steps ∧
      labels costOf n origin = (grow costOf n steps (.initial n origin)).labels :=
    exists_labels_eq_grow
  have hinitial : Growing costOf n origin [] [] _ (.initial n origin) := Growing.initial horigin
  have hfuel : (State.initial (α := α) n origin).queue.length + unsettledLinks n [] ≤ steps := by
    have hlength : (State.initial (α := α) n origin).queue.length = 1 := rfl
    have hlinks := unsettledLinks_le (n := n)
    omega
  obtain ⟨S, t, h, hqueue⟩ := hinitial.grow hprice hjoined hfuel
  rw [hlabels]
  refine ⟨h.label_origin, fun v => ⟨fun d hd => (h.reached v d hd).symm, ?_⟩⟩
  rintro c ⟨ks, hwalk, hc⟩ hfinite
  exact h.le_of_isWalk hprice hqueue hwalk h.label_origin CostNumber.zero_le_zero hc hfinite

/-- No walk costs less than the label of its end, be its cost finite or not. -/
theorem label_le_of_reached (hprice : Priced costOf n) (hjoined : n.Joined)
    (horigin : origin.index < n.nodes.size) {v : NodeId} {d c : α}
    (hd : ((labels costOf n origin)[v.index]?).join = some d) (hc : Reached costOf n origin v c) :
    d ≤ c := by
  obtain ⟨-, hspec⟩ := labels_spec hprice hjoined horigin
  obtain ⟨hfinite, hreached⟩ := (hspec v).1 d hd
  have hnonneg : ((0 : Nat) : α) ≤ c := hc.nonneg hprice
  by_cases hfinite' : Number.isFinite c = true
  · obtain ⟨d', hd', hle⟩ := (hspec v).2 c hc hfinite'
    obtain rfl : d = d' := Option.some.inj (hd.symm.trans hd')
    exact hle
  · -- what is not finite is above everything finite
    obtain hle | hle := le_total (le_right (hreached.nonneg hprice)) (le_right hnonneg)
    · exact hle
    · exact absurd (CostNumber.isFinite_of_le hnonneg hle hfinite) hfinite'

end LeastCosts

open LeastCosts

/-- **A tree has the least cost of every node.** In a routed mode whose links have no negative or
undefined cost the tree from a node exists. Its cost of a node is that of some walk, added from the
left, and no walk costs less; there is none just if no walk costs anything finite. -/
theorem Network.leastCosts_spec {b : NetworkBuilder α}
    (hb : ∀ l ∈ b.links, l.source.index < b.nodes.size ∧ l.target.index < b.nodes.size)
    {n : Network α} (hn : b.Yields n) (speeds : TravelSpeeds α) {mode : Mode}
    (hmode : mode.isRouted = true)
    (hcosts : ∀ k w, speeds.linkCost? n k mode = some w → ((0 : Nat) : α) ≤ w) {origin : NodeId}
    (horigin : origin.index < n.nodes.size) :
    ∃ tree, leastCosts speeds n origin mode = .ok tree ∧
      tree.cost? origin = some ((0 : Nat) : α) ∧
      ∀ v,
        (∀ c, tree.cost? v = some c →
          (∃ ks, n.IsWalk origin ks v ∧
            costFrom (speeds.linkCost? n · mode) ((0 : Nat) : α) ks = some c) ∧
          ∀ ks c', n.IsWalk origin ks v →
            costFrom (speeds.linkCost? n · mode) ((0 : Nat) : α) ks = some c' → c ≤ c') ∧
        (tree.cost? v = none ↔ ∀ ks c, n.IsWalk origin ks v →
          costFrom (speeds.linkCost? n · mode) ((0 : Nat) : α) ks = some c →
            Number.isFinite c = false) := by
  have hprice : Priced (speeds.linkCost? n · mode) n := by
    intro k l hl
    obtain ⟨w, hw⟩ := hn.exists_linkCost? speeds hmode hl
    exact ⟨w, hw, hcosts k w hw⟩
  have hjoined : n.Joined := hn.joined hb
  obtain ⟨h0, hspec⟩ := labels_spec hprice hjoined horigin
  have htree : leastCosts speeds n origin mode =
      .ok { origin, mode, labels := labels (speeds.linkCost? n · mode) n origin } := by
    simp [leastCosts, hmode, Nat.not_le_of_lt horigin]
  have hcost : ∀ v c, LeastCostTree.cost? (α := α)
      { origin, mode, labels := labels (speeds.linkCost? n · mode) n origin } v = some c ↔
        ((labels (speeds.linkCost? n · mode) n origin)[v.index]?).join = some c := by
    intro v c
    rw [LeastCostTree.cost?, Option.filter_eq_some_iff]
    exact ⟨And.left, fun h => ⟨h, ((hspec v).1 c h).1⟩⟩
  refine ⟨_, htree, (hcost _ _).2 h0, fun v => ⟨fun c hc => ?_, ?_⟩⟩
  · obtain ⟨-, hreached⟩ := (hspec v).1 c ((hcost v c).1 hc)
    exact ⟨hreached, fun ks c' hwalk hc' =>
      label_le_of_reached hprice hjoined horigin ((hcost v c).1 hc) ⟨ks, hwalk, hc'⟩⟩
  · constructor
    · intro hnone ks c hwalk hc
      by_cases hfinite : Number.isFinite c = true
      · obtain ⟨d, hd, -⟩ := (hspec v).2 c ⟨ks, hwalk, hc⟩ hfinite
        rw [(hcost v d).2 hd] at hnone
        cases hnone
      · exact Bool.eq_false_iff.2 hfinite
    · intro hwalks
      rw [Option.eq_none_iff_forall_ne_some]
      intro c hc
      obtain ⟨hfinite, ks, hwalk, hc'⟩ := (hspec v).1 c ((hcost v c).1 hc)
      rw [hwalks ks c hwalk hc'] at hfinite
      cases hfinite

/-- Two streets side by side with a turning circle at their end, and a hut off the streets. -/
def NetworkBuilder.turningCircle : NetworkBuilder Float where
  nodes := #[⟨"gate", ⟨0, 0⟩⟩, ⟨"circle", ⟨100, 0⟩⟩, ⟨"hut", ⟨0, 100⟩⟩]
  links := #[⟨"street", ⟨0⟩, ⟨1⟩, 100, 10⟩, ⟨"lane", ⟨0⟩, ⟨1⟩, 100, 5⟩, ⟨"circle", ⟨1⟩, ⟨1⟩, 0, 5⟩]

/-- The wider of the two streets is the way to the circle. -/
theorem Network.leastCosts_spec_turningCircle :
    let b := NetworkBuilder.turningCircle
    ((∀ l ∈ b.links, l.source.index < b.nodes.size ∧ l.target.index < b.nodes.size) ∧
      b.Yields b.build ∧ Mode.freeSpeed.isRouted = true ∧
      (∀ k w, TravelSpeeds.standard.linkCost? b.build k .freeSpeed = some w →
        ((0 : Nat) : Float) ≤ w) ∧
      0 < b.build.nodes.size) ∧
    ∃ tree c, leastCosts .standard b.build ⟨0⟩ .freeSpeed = .ok tree ∧ tree.cost? ⟨1⟩ = some c ∧
      c ≤ 10 := by
  intro b
  have hb : ∀ l ∈ b.links, l.source.index < b.nodes.size ∧ l.target.index < b.nodes.size := by
    simp [b, NetworkBuilder.turningCircle]
  have hn : b.Yields b.build := .build
  have hmode : Mode.freeSpeed.isRouted = true := rfl
  have hcosts : ∀ k w, TravelSpeeds.standard.linkCost? b.build k .freeSpeed = some w →
      ((0 : Nat) : Float) ≤ w := by
    intro k w hw
    obtain ⟨l, hl, rfl⟩ := Option.map_eq_some_iff.1 hw
    have hmem : l ∈ b.links := Array.mem_of_getElem? hl
    simp only [b, NetworkBuilder.turningCircle, List.mem_toArray, List.mem_cons, List.not_mem_nil,
      or_false] at hmem
    obtain rfl | rfl | rfl := hmem <;> decide +kernel
  have horigin : (⟨0⟩ : NodeId).index < b.build.nodes.size := Nat.zero_lt_succ 2
  obtain ⟨tree, htree, -, hspec⟩ := leastCosts_spec hb hn .standard hmode hcosts horigin
  -- the street alone is a walk
  have hwalk : b.build.IsWalk ⟨0⟩ [⟨0⟩] ⟨1⟩ := ⟨_, rfl, rfl, rfl⟩
  have hcost : costFrom (TravelSpeeds.standard.linkCost? b.build · .freeSpeed)
      ((0 : Nat) : Float) [⟨0⟩] = some (((0 : Nat) : Float) + 100 / 10) := rfl
  have hsum : ((0 : Nat) : Float) + 100 / 10 = 10 := by decide +kernel
  rw [hsum] at hcost
  obtain hnone | ⟨c, hc⟩ := (tree.cost? ⟨1⟩).eq_none_or_eq_some
  · have hinfinite := (hspec ⟨1⟩).2.1 hnone _ _ hwalk hcost
    have hfinite : Number.isFinite (10 : Float) = true := by decide +kernel
    rw [hfinite] at hinfinite
    cases hinfinite
  · have hle : c ≤ 10 := ((hspec ⟨1⟩).1 c hc).2 _ _ hwalk hcost
    exact ⟨⟨hb, hn, hmode, hcosts, horigin⟩, tree, c, htree, hc, hle⟩

end SpatialAccess
