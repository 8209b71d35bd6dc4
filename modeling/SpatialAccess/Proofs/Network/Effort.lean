import SpatialAccess.Proofs.Network.LeastCost

/-!
# How much work a tree takes

Nothing marks a node as done. A node is not looked at twice because costs leave the queue in their
order, so that a later entry of a settled node is outdated; and an entry is only put into the queue
for a link of a node that is looked at.

* `LeastCosts.Turn`, `LeastCosts.turns`: what the loop does, turn by turn. `LeastCosts.settle_eq`: a
  turn looks at all links of its node or changes nothing.
* **`LeastCosts.popped_perm`**: what leaves the queue and what is left in it was in it at first or has
  been put into it.
* **`LeastCosts.Growing.turns`**: from any moment on, no node is expanded twice or after it was
  settled, and at most the links of nodes not yet settled put something into the queue.
* **`Network.leastCosts_effort`**: the loop ends after at most one turn more than there are links.
-/

namespace SpatialAccess

variable {α : Type} [Number α]

namespace LeastCosts

/-! ## What the loop does -/

/-- What is put into the queue when a link is looked at. -/
def pushed? (costOf : LinkId → Option α) (n : Network α) (cost : α) (s : State α) (k : LinkId) :
    Option (α × NodeId) :=
  match n.link? k, costOf k with
  | some l, some step =>
    match s.labels[l.target.index]? with
    | some label => if improves (cost + step) label then some (cost + step, l.target) else none
    | none => none
  | _, _ => none

/-- What is put into the queue when links are looked at one after the other. -/
def pushedBy (costOf : LinkId → Option α) (n : Network α) (cost : α) :
    List LinkId → State α → List (α × NodeId)
  | [], _ => []
  | k :: ks, s =>
    (pushed? costOf n cost s k).toList ++ pushedBy costOf n cost ks (relax costOf n cost s k)

/-- One turn of the loop. -/
structure Turn (α : Type) where
  /-- What leaves the queue. -/
  entry : α × NodeId
  /-- Whether the links that leave its node are looked at. -/
  expands : Bool
  /-- What is put into the queue. -/
  pushed : List (α × NodeId)

/-- The turn that settles an entry. -/
def turnOf (costOf : LinkId → Option α) (n : Network α) (entry : α × NodeId) (s : State α) : Turn α :=
  match s.labels[entry.2.index]?.join with
  | some label =>
    if label < entry.1 then { entry, expands := false, pushed := [] }
    else { entry, expands := true, pushed := pushedBy costOf n entry.1 (n.out entry.2) s }
  | none => { entry, expands := false, pushed := [] }

/-- The turns of the loop, at most `steps`. -/
def turns (costOf : LinkId → Option α) (n : Network α) : (steps : ℕ) → State α → List (Turn α)
  | 0, _ => []
  | steps + 1, s =>
    match s.queue with
    | [] => []
    | entry :: queue =>
      turnOf costOf n entry { s with queue } ::
        turns costOf n steps (settle costOf n entry { s with queue })

/-- What leaves the queue in the course of some turns. -/
def popped (history : List (Turn α)) : List (α × NodeId) :=
  history.map Turn.entry

/-- What is put into the queue in the course of some turns. -/
def pushed (history : List (Turn α)) : List (α × NodeId) :=
  history.flatMap Turn.pushed

/-- The nodes whose links are looked at in the course of some turns. -/
def expanded (history : List (Turn α)) : List NodeId :=
  (history.filter Turn.expands).map fun turn => turn.entry.2

variable {costOf : LinkId → Option α} {n : Network α} {cost : α} {s : State α}

theorem relax_eq_pushed? (k : LinkId) :
    relax costOf n cost s k =
      match pushed? costOf n cost s k with
      | some entry => s.relabel entry.2 entry.1
      | none => s := by
  unfold relax pushed?
  cases n.link? k with
  | none => rfl
  | some l =>
    cases costOf k with
    | none => rfl
    | some step =>
      simp only
      cases s.labels[l.target.index]? with
      | none => rfl
      | some label => by_cases h : improves (cost + step) label = true <;> simp [h, State.relabel]

theorem queue_relax_perm (k : LinkId) :
    (relax costOf n cost s k).queue.Perm ((pushed? costOf n cost s k).toList ++ s.queue) := by
  rw [relax_eq_pushed?]
  cases pushed? costOf n cost s k with
  | none => exact List.Perm.refl _
  | some entry => exact enqueue_perm entry s.queue

theorem queue_foldl_relax_perm (ks : List LinkId) (s : State α) :
    (ks.foldl (relax costOf n cost) s).queue.Perm (pushedBy costOf n cost ks s ++ s.queue) := by
  induction ks generalizing s with
  | nil => exact List.Perm.refl _
  | cons k ks ih =>
    have hfirst : (relax costOf n cost s k).queue.Perm
        ((pushed? costOf n cost s k).toList ++ s.queue) := queue_relax_perm k
    refine ((ih _).trans (hfirst.append_left _)).trans ?_
    rw [pushedBy, ← List.append_assoc]
    exact List.perm_append_comm.append_right _

/-- A link puts at most one entry into the queue. -/
theorem length_pushedBy_le (ks : List LinkId) (s : State α) :
    (pushedBy costOf n cost ks s).length ≤ ks.length := by
  induction ks generalizing s with
  | nil => exact Nat.le_refl _
  | cons k ks ih =>
    have hrest := ih (relax costOf n cost s k)
    have hfirst : (pushed? costOf n cost s k).toList.length ≤ 1 := Option.length_toList_le
    rw [pushedBy, List.length_append, List.length_cons]
    omega

/-- A turn looks at all links that leave its node, or it changes nothing. -/
theorem settle_eq (entry : α × NodeId) (s : State α) :
    settle costOf n entry s =
      if (turnOf costOf n entry s).expands then
        (n.out entry.2).foldl (relax costOf n entry.1) s
      else s := by
  obtain ⟨cost, node⟩ := entry
  simp only [settle, turnOf]
  cases s.labels[node.index]?.join with
  | none => rfl
  | some label => by_cases h : label < cost <;> simp [h]

theorem pushed_turnOf (entry : α × NodeId) (s : State α) :
    (turnOf costOf n entry s).pushed =
      if (turnOf costOf n entry s).expands then pushedBy costOf n entry.1 (n.out entry.2) s
      else [] := by
  unfold turnOf
  split
  · split <;> rfl
  · rfl

theorem entry_turnOf (entry : α × NodeId) (s : State α) :
    (turnOf costOf n entry s).entry = entry := by
  unfold turnOf
  split
  · split <;> rfl
  · rfl

theorem queue_settle_perm (entry : α × NodeId) (s : State α) :
    (settle costOf n entry s).queue.Perm ((turnOf costOf n entry s).pushed ++ s.queue) := by
  rw [settle_eq, pushed_turnOf]
  split
  · exact queue_foldl_relax_perm _ s
  · exact List.Perm.refl _

/-- **What leaves the queue and what is left in it** was in it at first or has been put into it. -/
theorem popped_perm (steps : ℕ) (s : State α) :
    (popped (turns costOf n steps s) ++ (grow costOf n steps s).queue).Perm
      (s.queue ++ pushed (turns costOf n steps s)) := by
  induction steps generalizing s with
  | zero =>
    rw [turns, grow]
    exact List.perm_append_comm
  | succ steps ih =>
    unfold turns grow
    cases hqueue : s.queue with
    | nil => simp [popped, pushed, hqueue]
    | cons entry queue =>
      have hturn : (settle costOf n entry { s with queue }).queue.Perm
          ((turnOf costOf n entry { s with queue }).pushed ++ queue) := queue_settle_perm ..
      have hrest := (ih (settle costOf n entry { s with queue })).trans (hturn.append_right _)
      rw [List.append_assoc] at hrest
      simp only [popped, pushed, List.map_cons, List.flatMap_cons, entry_turnOf, List.cons_append]
      exact (hrest.trans (List.perm_append_comm_assoc ..)).cons entry

/-! ## No node is expanded twice -/

section Growing

variable [CostNumber α] {origin : NodeId}

/-- One turn either passes over an outdated entry or settles a node that was not settled. Then at most
the links of the node put something into the queue. -/
theorem Growing.turn (hprice : Priced costOf n) (hjoined : n.Joined) {S : List NodeId} {t : α}
    {s : State α} (h : Growing costOf n origin S [] t s) {entry : α × NodeId} {queue : Queue α}
    (hqueue : s.queue = entry :: queue) :
    let turn := turnOf costOf n entry { s with queue }
    let s' := LeastCosts.settle costOf n entry { s with queue }
    (turn = ⟨entry, false, []⟩ ∧ Growing costOf n origin S [] t s') ∨
      (turn.expands = true ∧ entry.2 ∉ S ∧ Growing costOf n origin (entry.2 :: S) [] entry.1 s' ∧
        turn.pushed.length + unsettledLinks n (entry.2 :: S) ≤ unsettledLinks n S) := by
  obtain ⟨c, u⟩ := entry
  obtain ⟨d, hd, -⟩ := h.label_le (c, u) (hqueue ▸ List.mem_cons_self)
  have hd' : (s.labels[u.index]?).join = some d := hd
  intro turn s'
  by_cases houtdated : d < c
  · have hturn : turn = ⟨(c, u), false, []⟩ := by simp only [turn, turnOf, hd', if_pos houtdated]
    have hs' : s' = { s with queue } :=
      (settle_eq _ _).trans (if_neg (by rw [show turnOf _ _ _ _ = _ from hturn]; simp))
    exact .inl ⟨hturn, hs' ▸ h.drop hqueue hd houtdated⟩
  · have hturn : turn = ⟨(c, u), true, pushedBy costOf n c (n.out u) { s with queue }⟩ := by
      simp only [turn, turnOf, hd', if_neg houtdated]
    have hs' : s' = (n.out u).foldl (LeastCosts.relax costOf n c) { s with queue } :=
      (settle_eq _ _).trans (if_pos (by rw [show turnOf _ _ _ _ = _ from hturn]))
    obtain ⟨hu, hlabel, hsettle⟩ := h.settle hjoined hqueue hd houtdated
    have hsize : u.index < n.nodes.size := h.size_labels ▸ State.lt_of_label? hd
    obtain ⟨h', -⟩ := hsettle.foldl_relax hprice hjoined List.mem_cons_self hlabel
      fun k hk => (hjoined.mem_out_iff hsize).1 hk
    have hlinks := unsettledLinks_cons hjoined hu hsize
    have hpushed : (pushedBy costOf n c (n.out u) { s with queue }).length ≤ (n.out u).length :=
      length_pushedBy_le ..
    rw [hturn]
    exact .inr ⟨rfl, hu, hs' ▸ h', by simp only; omega⟩

/-- **No node is expanded twice**, none that was settled before, and at most the links of all others
put something into the queue. -/
theorem Growing.turns (hprice : Priced costOf n) (hjoined : n.Joined) (steps : ℕ) {S : List NodeId}
    {t : α} {s : State α} (h : Growing costOf n origin S [] t s) :
    (expanded (turns costOf n steps s)).Nodup ∧
      (∀ u ∈ expanded (turns costOf n steps s), u ∉ S) ∧
      (pushed (turns costOf n steps s)).length ≤ unsettledLinks n S := by
  -- over the turns: what is settled grows by the node of each turn that expands one
  induction steps generalizing S t s with
  | zero => exact ⟨List.nodup_nil, fun _ hu => absurd hu List.not_mem_nil, Nat.zero_le _⟩
  | succ steps ih =>
    unfold LeastCosts.turns
    split
    · exact ⟨List.nodup_nil, fun _ hu => absurd hu List.not_mem_nil, Nat.zero_le _⟩
    · next entry queue hqueue =>
      obtain ⟨hturn, h'⟩ | ⟨hexpands, hu, h', hlinks⟩ := h.turn hprice hjoined hqueue
      · rw [hturn]
        exact ih h'
      · obtain ⟨hnodup, hnew, hlength⟩ := ih h'
        have hexpanded : ∀ history, expanded (turnOf costOf n entry { s with queue } :: history) =
            entry.2 :: expanded history := by
          intro history
          rw [expanded, List.filter_cons_of_pos hexpands, List.map_cons, entry_turnOf]
          rfl
        rw [hexpanded]
        refine ⟨List.nodup_cons.2 ⟨fun hmem => hnew _ hmem List.mem_cons_self, hnodup⟩, ?_, ?_⟩
        · intro v hv
          obtain rfl | hv := List.mem_cons.1 hv
          · exact hu
          · exact fun hmem => hnew v hv (List.mem_cons_of_mem _ hmem)
        · rw [pushed, List.flatMap_cons, List.length_append]
          exact Nat.le_trans (Nat.add_le_add_left hlength _) hlinks

end Growing

/-! ## The end of the loop -/

/-- Once nothing waits, nothing happens any more. -/
theorem grow_of_queue_eq_nil (h : s.queue = []) (steps : ℕ) : grow costOf n steps s = s := by
  cases steps with
  | zero => rfl
  | succ steps => simp only [grow, h]

theorem grow_add (steps steps' : ℕ) (s : State α) :
    grow costOf n (steps + steps') s = grow costOf n steps' (grow costOf n steps s) := by
  induction steps generalizing s with
  | zero => rw [Nat.zero_add, grow]
  | succ steps ih =>
    rw [Nat.succ_add]
    cases hqueue : s.queue with
    | nil => simp only [grow_of_queue_eq_nil hqueue]
    | cons entry queue =>
      simp only [grow, hqueue]
      exact ih _

end LeastCosts

open LeastCosts

variable [CostNumber α]

/-- **The loop ends.** In a routed mode whose links have no negative or undefined cost, however long
the loop runs from a node: no node is expanded twice, what is put into the queue is at most one entry
more than there are links, the first one included, and so is what leaves it. After as many turns the
queue is empty, and the labels are those of the tree. -/
theorem Network.leastCosts_effort {b : NetworkBuilder α}
    (hb : ∀ l ∈ b.links, l.source.index < b.nodes.size ∧ l.target.index < b.nodes.size)
    {n : Network α} (hn : b.Yields n) (speeds : TravelSpeeds α) {mode : Mode}
    (hmode : mode.isRouted = true)
    (hcosts : ∀ k w, speeds.linkCost? n k mode = some w → ((0 : Nat) : α) ≤ w) {origin : NodeId}
    (horigin : origin.index < n.nodes.size) :
    let costOf := (speeds.linkCost? n · mode)
    let start : State α := .initial n origin
    (∀ steps,
      let history := turns costOf n steps start
      (expanded history).Nodup ∧
        1 + (pushed history).length ≤ n.links.size + 1 ∧
        (popped history).length ≤ n.links.size + 1 ∧
        (popped history ++ (grow costOf n steps start).queue).Perm
          ((((0 : Nat) : α), origin) :: pushed history)) ∧
    ∀ steps, n.links.size + 1 ≤ steps →
      (grow costOf n steps start).queue = [] ∧
        leastCosts speeds n origin mode =
          .ok { origin, mode, labels := (grow costOf n steps start).labels } := by
  intro costOf start
  have hprice : Priced costOf n := by
    intro k l hl
    obtain ⟨w, hw⟩ := hn.exists_linkCost? speeds hmode hl
    exact ⟨w, hw, hcosts k w hw⟩
  have hjoined : n.Joined := hn.joined hb
  have hstart : Growing costOf n origin [] [] ((0 : Nat) : α) start := Growing.initial horigin
  have hlinks : unsettledLinks n [] ≤ n.links.size := unsettledLinks_le
  constructor
  · intro steps history
    obtain ⟨hnodup, -, hpushed⟩ := hstart.turns hprice hjoined steps
    have hperm : (popped history ++ (grow costOf n steps start).queue).Perm
        ((((0 : Nat) : α), origin) :: pushed history) := popped_perm steps start
    have hlength := hperm.length_eq
    rw [List.length_append, List.length_cons] at hlength
    have hpushed' : (pushed history).length ≤ n.links.size := Nat.le_trans hpushed hlinks
    exact ⟨hnodup, by omega, by omega, hperm⟩
  · -- a longer run than that of `links.size + 1` turns comes to the same
    have hend : (grow costOf n (n.links.size + 1) start).queue = [] := by
      have hfuel : start.queue.length + unsettledLinks n [] ≤ n.links.size + 1 := by
        have hone : start.queue.length = 1 := rfl
        omega
      obtain ⟨_, _, -, hempty⟩ := hstart.grow hprice hjoined hfuel
      exact hempty
    have hgrow : ∀ steps, n.links.size + 1 ≤ steps →
        grow costOf n steps start = grow costOf n (n.links.size + 1) start := by
      intro steps hsteps
      rw [← Nat.add_sub_cancel' hsteps, grow_add, grow_of_queue_eq_nil hend]
    intro steps hsteps
    obtain ⟨steps', hsteps', hlabels⟩ : ∃ steps, n.links.size + 1 ≤ steps ∧
        labels costOf n origin = (grow costOf n steps start).labels := exists_labels_eq_grow
    rw [hgrow steps' hsteps'] at hlabels
    rw [hgrow steps hsteps, ← hlabels]
    exact ⟨hend, by simp [leastCosts, hmode, Nat.not_le_of_lt horigin, costOf]⟩

/-- Two ways to a roundabout, the slower one first, and a lane on it that leads nowhere else; on the
roundabout nothing costs anything. -/
def NetworkBuilder.roundabout : NetworkBuilder Float where
  nodes := #[⟨"gate", ⟨0, 0⟩⟩, ⟨"north", ⟨100, 0⟩⟩, ⟨"south", ⟨100, 0⟩⟩]
  links := #[⟨"lane", ⟨0⟩, ⟨1⟩, 100, 5⟩, ⟨"street", ⟨0⟩, ⟨1⟩, 100, 10⟩, ⟨"west", ⟨1⟩, ⟨2⟩, 0, 5⟩,
    ⟨"east", ⟨2⟩, ⟨1⟩, 0, 5⟩, ⟨"spin", ⟨2⟩, ⟨2⟩, 0, 5⟩]

/-- At the roundabout the loop ends after six turns at the latest. -/
theorem Network.leastCosts_effort_roundabout :
    let b := NetworkBuilder.roundabout
    let costOf := (TravelSpeeds.standard.linkCost? b.build · .freeSpeed)
    ((∀ l ∈ b.links, l.source.index < b.nodes.size ∧ l.target.index < b.nodes.size) ∧
      b.Yields b.build ∧ Mode.freeSpeed.isRouted = true ∧
      (∀ k w, TravelSpeeds.standard.linkCost? b.build k .freeSpeed = some w →
        ((0 : Nat) : Float) ≤ w) ∧
      0 < b.build.nodes.size) ∧
    (∀ steps, (expanded (turns costOf b.build steps (.initial b.build ⟨0⟩))).Nodup) ∧
    (grow costOf b.build 6 (.initial b.build ⟨0⟩)).queue = [] := by
  intro b costOf
  have hb : ∀ l ∈ b.links, l.source.index < b.nodes.size ∧ l.target.index < b.nodes.size := by
    simp [b, NetworkBuilder.roundabout]
  have hn : b.Yields b.build := .build
  have hmode : Mode.freeSpeed.isRouted = true := rfl
  have hcosts : ∀ k w, TravelSpeeds.standard.linkCost? b.build k .freeSpeed = some w →
      ((0 : Nat) : Float) ≤ w := by
    intro k w hw
    obtain ⟨l, hl, rfl⟩ := Option.map_eq_some_iff.1 hw
    have hmem : l ∈ b.links := Array.mem_of_getElem? hl
    simp only [b, NetworkBuilder.roundabout, List.mem_toArray, List.mem_cons, List.not_mem_nil,
      or_false] at hmem
    obtain rfl | rfl | rfl | rfl | rfl := hmem <;> decide +kernel
  have horigin : (⟨0⟩ : NodeId).index < b.build.nodes.size := Nat.zero_lt_succ 2
  obtain ⟨hturns, hend⟩ := leastCosts_effort hb hn .standard hmode hcosts horigin
  exact ⟨⟨hb, hn, hmode, hcosts, horigin⟩, fun steps => (hturns steps).1,
    (hend 6 (Nat.le_refl _)).1⟩

end SpatialAccess
