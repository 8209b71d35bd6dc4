import SpatialAccess.Proofs.Network.Queue
import SpatialAccess.Proofs.Network.Walk

/-!
# How a tree of least costs grows

Nodes are settled by rising cost. At any moment every link that leaves a settled node has been
looked at, and an entry waits for every node that has a label but is not settled.

* `LeastCosts.Growing`: what holds while a tree grows. `Growing.initial`: it holds at first.
* `Growing.Lowers`: a cost that is below the label of a node, with one lemma per part of `Growing`.
* `Growing.relax`, `Growing.foldl_relax`: looking at links keeps it.
* `Growing.drop`, `Growing.settle`: passing over an outdated entry and settling a node keep it.
  `Growing.first_current`: what the first entry tells of its node.
* **`Growing.grow`**: when nothing waits any more all links have been looked at, and that is so
  after at most one entry more than there are links.
-/

namespace SpatialAccess.LeastCosts

variable {α : Type} [Number α]

/-! ## Labels -/

namespace State

/-- The tentative cost of a node. -/
def label? (s : State α) (v : NodeId) : Option α :=
  s.labels[v.index]?.join

/-- A state in which a node has a lower cost. -/
def relabel (s : State α) (v : NodeId) (cost : α) : State α :=
  { labels := s.labels.set! v.index (some cost), queue := enqueue (cost, v) s.queue }

/-- The state before anything is settled: only the origin has a label, and it waits. -/
def initial (n : Network α) (origin : NodeId) : State α where
  labels := (Array.replicate n.nodes.size none).set! origin.index (some ((0 : Nat) : α))
  queue := [(((0 : Nat) : α), origin)]

variable {s : State α} {v : NodeId} {cost : α}

omit [Number α] in
theorem lt_of_label? {d : α} (h : s.label? v = some d) : v.index < s.labels.size := by
  obtain ⟨hlt, -⟩ := Array.getElem?_eq_some_iff.1 (Option.join_eq_some_iff.1 h)
  exact hlt

theorem label?_relabel_self (h : v.index < s.labels.size) :
    (s.relabel v cost).label? v = some cost := by
  simp [label?, relabel, h]

theorem label?_relabel_of_ne {u : NodeId} (h : u ≠ v) :
    (s.relabel v cost).label? u = s.label? u := by
  have hindex : v.index ≠ u.index := fun heq => h (Id.ext_index heq.symm)
  simp [label?, relabel, hindex]

theorem mem_queue_relabel {e : α × NodeId} :
    e ∈ (s.relabel v cost).queue ↔ e = (cost, v) ∨ e ∈ s.queue := by
  rw [relabel, (enqueue_perm _ _).mem_iff, List.mem_cons]

/-- Whether an entry is one of a node and not above the label of the node. -/
def isCurrent (s : State α) (v : NodeId) (e : α × NodeId) : Bool :=
  decide (e.2 = v) && !(s.label? v).any fun d => decide (d < e.1)

theorem isCurrent_iff {e : α × NodeId} :
    s.isCurrent v e = true ↔ e.2 = v ∧ ∀ d, s.label? v = some d → ¬d < e.1 := by
  simp only [isCurrent, Bool.and_eq_true, decide_eq_true_eq, Bool.not_eq_true', Option.any_eq_false,
    decide_eq_false_iff_not]

theorem countP_queue_relabel (p : α × NodeId → Bool) :
    (s.relabel v cost).queue.countP p = s.queue.countP p + if p (cost, v) then 1 else 0 := by
  rw [relabel, (enqueue_perm _ _).countP_eq, List.countP_cons]

theorem countP_isCurrent_relabel_of_ne {u : NodeId} (h : u ≠ v) :
    (s.relabel v cost).queue.countP ((s.relabel v cost).isCurrent u) =
      s.queue.countP (s.isCurrent u) := by
  have hcongr :
      s.queue.countP ((s.relabel v cost).isCurrent u) = s.queue.countP (s.isCurrent u) := by
    refine List.countP_congr fun e _ => ?_
    rw [isCurrent_iff, isCurrent_iff, label?_relabel_of_ne h]
  have hother : ¬(s.relabel v cost).isCurrent u (cost, v) = true :=
    fun hcurrent => h (isCurrent_iff.1 hcurrent).1.symm
  rw [countP_queue_relabel, hcongr, if_neg hother, Nat.add_zero]

/-- A label that falls outdates all older entries of its node. -/
theorem countP_isCurrent_relabel_self (hlt : v.index < s.labels.size)
    (hqueue : ∀ e ∈ s.queue, e.2 = v → cost < e.1) :
    (s.relabel v cost).queue.countP ((s.relabel v cost).isCurrent v) ≤ 1 := by
  have hzero : s.queue.countP ((s.relabel v cost).isCurrent v) = 0 := by
    refine List.countP_eq_zero.2 fun e he hcurrent => ?_
    obtain ⟨hev, hnot⟩ := isCurrent_iff.1 hcurrent
    exact hnot _ (label?_relabel_self hlt) (hqueue e he hev)
  rw [countP_queue_relabel, hzero, Nat.zero_add]
  split <;> omega

end State

theorem improves_none {cost : α} [CostNumber α] (h : ((0 : Nat) : α) ≤ cost) :
    improves cost none = Number.isFinite cost := by
  simp [improves, OrderedNumber.not_lt_of_le h]

theorem improves_some {cost label : α} : improves cost (some label) = true ↔ cost < label :=
  decide_eq_true_iff

theorem relax_eq {costOf : LinkId → Option α} {n : Network α} {s : State α} {k : LinkId} {l : Link α}
    {cost w : α} (hl : n.link? k = some l) (hw : costOf k = some w)
    (htarget : l.target.index < s.labels.size) :
    relax costOf n cost s k =
      if improves (cost + w) (s.label? l.target) then s.relabel l.target (cost + w) else s := by
  simp only [relax, hl, hw, State.label?, Array.getElem?_eq_getElem htarget, Option.join_some]
  rfl

/-! ## What holds while a tree grows -/

/-- The nodes of `S` are settled, none at more than `t`, and of the links that leave them only those
of `pending` have not been looked at. -/
structure Growing (costOf : LinkId → Option α) (n : Network α) (origin : NodeId) (S : List NodeId)
    (pending : List LinkId) (t : α) (s : State α) : Prop where
  size_labels : s.labels.size = n.nodes.size
  /-- Labels are finite costs of walks. -/
  reached : ∀ v d, s.label? v = some d → Reached costOf n origin v d ∧ Number.isFinite d = true
  label_origin : s.label? origin = some ((0 : Nat) : α)
  sorted : Sorted s.queue
  /-- No entry is below the label of its node, -/
  label_le : ∀ e ∈ s.queue, ∃ d, s.label? e.2 = some d ∧ d ≤ e.1
  /-- and every label that is not settled waits as an entry. -/
  queued : ∀ v d, s.label? v = some d → v ∉ S → (d, v) ∈ s.queue
  /-- All other entries are outdated. -/
  countP_current_le : ∀ v, s.queue.countP (s.isCurrent v) ≤ if v ∈ S then 0 else 1
  settled_le : ∀ v ∈ S, ∃ d, s.label? v = some d ∧ d ≤ t
  le_queue : ∀ e ∈ s.queue, t ≤ e.1
  /-- No link from a settled node leads to a lower label any more. -/
  relaxed : ∀ k l c w, k ∉ pending → n.link? k = some l → l.source ∈ S → costOf k = some w →
    s.label? l.source = some c → Number.isFinite (c + w) = true →
      ∃ d, s.label? l.target = some d ∧ d ≤ c + w

variable [CostNumber α] {costOf : LinkId → Option α} {n : Network α} {origin : NodeId}

open OrderedNumber

theorem Reached.nonneg (hprice : Priced costOf n) {v : NodeId} {c : α}
    (h : Reached costOf n origin v c) : ((0 : Nat) : α) ≤ c := by
  obtain ⟨ks, hwalk, hc⟩ := h
  exact le_costFrom hprice hwalk CostNumber.zero_le_zero hc

namespace Growing

variable {S : List NodeId} {pending : List LinkId} {t : α} {s : State α}

/-- Only finite costs lower a label. -/
theorem isFinite_of_improves (h : Growing costOf n origin S pending t s) {v : NodeId} {c : α}
    (hc : ((0 : Nat) : α) ≤ c) (himproves : improves c (s.label? v) = true) :
    Number.isFinite c = true := by
  cases hlabel : s.label? v with
  | none => rwa [hlabel, improves_none hc] at himproves
  | some d =>
    rw [hlabel, improves_some] at himproves
    exact CostNumber.isFinite_of_le hc (le_of_lt himproves) (h.reached _ _ hlabel).2

/-- A link that does not lower the label of its target. -/
theorem skip {k : LinkId} {l : Link α} {w : α} (hprice : Priced costOf n)
    (h : Growing costOf n origin S (k :: pending) t s) (hl : n.link? k = some l)
    (hw : costOf k = some w) (hlabel : s.label? l.source = some t)
    (himproves : improves (t + w) (s.label? l.target) = false) :
    Growing costOf n origin S pending t s := by
  have ht : ((0 : Nat) : α) ≤ t := (h.reached _ _ hlabel).1.nonneg hprice
  have hle : t ≤ t + w := CostNumber.le_add ht (hprice.nonneg hl hw)
  refine { h with relaxed := ?_ }
  intro k' l' c w' hk' hl' hsource hw' hc hfinite
  by_cases hkk : k' = k
  · subst hkk
    obtain rfl : l' = l := Option.some.inj (hl'.symm.trans hl)
    obtain rfl : w' = w := Option.some.inj (hw'.symm.trans hw)
    obtain rfl : c = t := Option.some.inj (hc.symm.trans hlabel)
    cases htarget : s.label? l'.target with
    | none =>
      rw [htarget, improves_none (le_trans ht hle), hfinite] at himproves
      cases himproves
    | some d =>
      have hself : d ≤ d := le_right ((h.reached _ _ htarget).1.nonneg hprice)
      rw [htarget, Bool.eq_false_iff, ne_eq, improves_some] at himproves
      exact ⟨d, rfl, le_of_not_lt (le_right hle) hself himproves⟩
  · exact h.relaxed k' l' c w' (by simp [hkk, hk']) hl' hsource hw' hc hfinite

/-- A cost, not below `t`, that is below the label of a node. -/
structure Lowers (t : α) (s : State α) (v : NodeId) (cost : α) : Prop where
  lt_size : v.index < s.labels.size
  le : t ≤ cost
  lt_label : ∀ d, s.label? v = some d → cost < d

namespace Lowers

variable {u v : NodeId} {cost : α}

omit [CostNumber α] in
theorem label?_self (h : Lowers t s v cost) : (s.relabel v cost).label? v = some cost :=
  State.label?_relabel_self h.lt_size

omit [CostNumber α] in
theorem eq_or_label? (h : Lowers t s v cost) {d : α}
    (hd : (s.relabel v cost).label? u = some d) : u = v ∧ d = cost ∨ s.label? u = some d := by
  by_cases hu : u = v
  · rw [hu, h.label?_self] at hd
    exact .inl ⟨hu, (Option.some.inj hd).symm⟩
  · exact .inr ((State.label?_relabel_of_ne hu).symm.trans hd)

/-- No label rises. -/
theorem exists_label_le (h : Lowers t s v cost) {d bound : α} (hd : s.label? u = some d)
    (hbound : d ≤ bound) : ∃ d', (s.relabel v cost).label? u = some d' ∧ d' ≤ bound := by
  by_cases hu : u = v
  · subst hu
    exact ⟨cost, h.label?_self, le_trans (le_of_lt (h.lt_label d hd)) hbound⟩
  · exact ⟨d, (State.label?_relabel_of_ne hu).trans hd, hbound⟩

variable (hlower : Lowers t s v cost) (h : Growing costOf n origin S pending t s)

include hlower h

theorem notMem : v ∉ S := by
  intro hv
  obtain ⟨d, hd, hdt⟩ := h.settled_le v hv
  exact not_lt_of_le (le_trans hdt hlower.le) (hlower.lt_label d hd)

theorem label?_of_mem (hu : u ∈ S) : (s.relabel v cost).label? u = s.label? u :=
  State.label?_relabel_of_ne fun heq => hlower.notMem h (heq ▸ hu)

theorem label_le : ∀ e ∈ (s.relabel v cost).queue,
    ∃ d, (s.relabel v cost).label? e.2 = some d ∧ d ≤ e.1 := by
  intro e he
  obtain rfl | he := State.mem_queue_relabel.1 he
  · exact ⟨cost, hlower.label?_self, le_right hlower.le⟩
  · obtain ⟨d, hd, hde⟩ := h.label_le e he
    exact hlower.exists_label_le hd hde

omit [CostNumber α] in
theorem queued {d : α} (hd : (s.relabel v cost).label? u = some d) (hu : u ∉ S) :
    (d, u) ∈ (s.relabel v cost).queue := by
  obtain ⟨rfl, rfl⟩ | hd := hlower.eq_or_label? hd
  · exact State.mem_queue_relabel.2 (.inl rfl)
  · exact State.mem_queue_relabel.2 (.inr (h.queued u d hd hu))

theorem countP_current_le (u : NodeId) :
    (s.relabel v cost).queue.countP ((s.relabel v cost).isCurrent u) ≤ if u ∈ S then 0 else 1 := by
  by_cases hu : u = v
  · have hqueue : ∀ e ∈ s.queue, e.2 = v → cost < e.1 := by
      intro e he hev
      obtain ⟨d, hd, hde⟩ := h.label_le e he
      exact lt_of_lt_of_le (hlower.lt_label d (hev ▸ hd)) hde
    rw [hu, if_neg (hlower.notMem h)]
    exact State.countP_isCurrent_relabel_self hlower.lt_size hqueue
  · rw [State.countP_isCurrent_relabel_of_ne hu]
    exact h.countP_current_le u

end Lowers

/-- A link that lowers the label of its target. -/
theorem lowers {k : LinkId} {l : Link α} {w : α} (hprice : Priced costOf n)
    (h : Growing costOf n origin S (k :: pending) t s) (hl : n.link? k = some l)
    (hw : costOf k = some w) (hlabel : s.label? l.source = some t)
    (htarget : l.target.index < n.nodes.size)
    (himproves : improves (t + w) (s.label? l.target) = true) :
    Lowers t s l.target (t + w) where
  lt_size := h.size_labels ▸ htarget
  le := CostNumber.le_add ((h.reached _ _ hlabel).1.nonneg hprice) (hprice.nonneg hl hw)
  lt_label := by
    intro d hd
    rwa [hd, improves_some] at himproves

/-- Lowering a label keeps what holds, and the link that does it has been looked at. -/
theorem relabel {k : LinkId} {l : Link α} {w : α} (hprice : Priced costOf n)
    (h : Growing costOf n origin S (k :: pending) t s) (hl : n.link? k = some l)
    (hw : costOf k = some w) (hlabel : s.label? l.source = some t)
    (htarget : l.target.index < n.nodes.size)
    (himproves : improves (t + w) (s.label? l.target) = true) :
    Growing costOf n origin S pending t (s.relabel l.target (t + w)) := by
  have hlower := h.lowers hprice hl hw hlabel htarget himproves
  have hnonneg : ((0 : Nat) : α) ≤ t + w :=
    le_trans ((h.reached _ _ hlabel).1.nonneg hprice) hlower.le
  constructor
  case size_labels =>
    rw [← h.size_labels, State.relabel, Array.set!_eq_setIfInBounds, Array.size_setIfInBounds]
  case reached =>
    intro v d hd
    obtain ⟨rfl, rfl⟩ | hd := hlower.eq_or_label? hd
    · exact ⟨(h.reached _ _ hlabel).1.step hl rfl hw, h.isFinite_of_improves hnonneg himproves⟩
    · exact h.reached v d hd
  case label_origin =>
    have hne : origin ≠ l.target := fun heq =>
      not_lt_of_le hnonneg (hlower.lt_label _ (heq ▸ h.label_origin))
    rw [State.label?_relabel_of_ne hne, h.label_origin]
  case sorted =>
    exact sorted_enqueue (le_right hlower.le) (fun e he => le_right (h.le_queue e he)) h.sorted
  case label_le => exact hlower.label_le h
  case queued => exact fun v d hd hv => hlower.queued h hd hv
  case countP_current_le => exact hlower.countP_current_le h
  case settled_le =>
    intro v hv
    obtain ⟨d, hd, hdt⟩ := h.settled_le v hv
    exact hlower.exists_label_le hd hdt
  case le_queue =>
    intro e he
    obtain rfl | he := State.mem_queue_relabel.1 he
    · exact hlower.le
    · exact h.le_queue e he
  case relaxed =>
    intro k' l' c v hk' hl' hsource hv hc hfinite
    rw [hlower.label?_of_mem h hsource] at hc
    by_cases hkk : k' = k
    · subst hkk
      obtain rfl : l' = l := Option.some.inj (hl'.symm.trans hl)
      obtain rfl : v = w := Option.some.inj (hv.symm.trans hw)
      obtain rfl : c = t := Option.some.inj (hc.symm.trans hlabel)
      exact ⟨_, hlower.label?_self, le_right hlower.le⟩
    · obtain ⟨d, hd, hdle⟩ := h.relaxed k' l' c v (by simp [hkk, hk']) hl' hsource hv hc hfinite
      exact hlower.exists_label_le hd hdle

/-- **Looking at a link keeps what holds.** -/
theorem relax {k : LinkId} {l : Link α} (hprice : Priced costOf n)
    (hjoined : n.Joined) (h : Growing costOf n origin S (k :: pending) t s)
    (hl : n.link? k = some l) (hsource : l.source ∈ S) (hlabel : s.label? l.source = some t) :
    let s' := LeastCosts.relax costOf n t s k
    Growing costOf n origin S pending t s' ∧ s'.label? l.source = some t ∧
      s'.queue.length ≤ s.queue.length + 1 := by
  obtain ⟨w, hw, -⟩ := hprice k l hl
  have htarget : l.target.index < n.nodes.size := hjoined.target_lt k l hl
  simp only [relax_eq hl hw (h.size_labels ▸ htarget)]
  by_cases himproves : improves (t + w) (s.label? l.target) = true
  · have hne : l.source ≠ l.target := fun heq =>
      (h.lowers hprice hl hw hlabel htarget himproves).notMem h (heq ▸ hsource)
    rw [if_pos himproves]
    refine ⟨h.relabel hprice hl hw hlabel htarget himproves, ?_, ?_⟩
    · rw [State.label?_relabel_of_ne hne, hlabel]
    · exact Nat.le_of_eq (enqueue_perm _ _).length_eq
  · rw [if_neg himproves]
    exact ⟨h.skip hprice hl hw hlabel (Bool.eq_false_iff.2 himproves), hlabel, Nat.le_succ _⟩

/-- Looking at all links that leave a node keeps what holds. -/
theorem foldl_relax {u : NodeId} (hprice : Priced costOf n) (hjoined : n.Joined)
    (h : Growing costOf n origin S pending t s) (hu : u ∈ S) (hlabel : s.label? u = some t)
    (hpending : ∀ k ∈ pending, ∃ l, n.link? k = some l ∧ l.source = u) :
    let s' := pending.foldl (LeastCosts.relax costOf n t) s
    Growing costOf n origin S [] t s' ∧ s'.queue.length ≤ s.queue.length + pending.length := by
  induction pending generalizing s with
  | nil => exact ⟨h, Nat.le_refl _⟩
  | cons k pending ih =>
    obtain ⟨l, hl, rfl⟩ := hpending k List.mem_cons_self
    obtain ⟨h', hlabel', hlength⟩ := h.relax hprice hjoined hl hu hlabel
    obtain ⟨h'', hlength'⟩ := ih h' hlabel' fun k hk => hpending k (List.mem_cons_of_mem _ hk)
    refine ⟨h'', Nat.le_trans hlength' ?_⟩
    rw [List.length_cons]
    omega

/-! ## Settling -/

/-- An outdated entry can be passed over. -/
theorem drop {e : α × NodeId} {queue : Queue α} (h : Growing costOf n origin S [] t s)
    (hqueue : s.queue = e :: queue) {d : α} (hd : s.label? e.2 = some d) (houtdated : d < e.1) :
    Growing costOf n origin S [] t { s with queue } := by
  have hmem : ∀ e' ∈ queue, e' ∈ s.queue := fun e' he' => hqueue ▸ List.mem_cons_of_mem e he'
  constructor
  case size_labels => exact h.size_labels
  case reached => exact h.reached
  case label_origin => exact h.label_origin
  case sorted => exact (List.pairwise_cons.1 (hqueue ▸ h.sorted)).2
  case label_le => exact fun e' he' => h.label_le e' (hmem e' he')
  case queued =>
    intro v d' hd' hv
    have hwaits := h.queued v d' hd' hv
    rw [hqueue] at hwaits
    obtain rfl | hwaits := List.mem_cons.1 hwaits
    · obtain rfl : d = d' := Option.some.inj (hd.symm.trans hd')
      exact absurd (le_of_lt houtdated) (not_le_of_lt houtdated)
    · exact hwaits
  case countP_current_le =>
    intro v
    have hcount := h.countP_current_le v
    rw [hqueue, List.countP_cons] at hcount
    exact Nat.le_trans (Nat.le_add_right _ _) hcount
  case settled_le => exact h.settled_le
  case le_queue => exact fun e' he' => h.le_queue e' (hmem e' he')
  case relaxed => exact h.relaxed

/-- An entry that is first and not outdated is the one current entry of its node: the node is not
settled yet, and its label is what the entry says. -/
theorem first_current {u : NodeId} {c : α} {queue : Queue α}
    (h : Growing costOf n origin S [] t s) (hqueue : s.queue = (c, u) :: queue) {d : α}
    (hd : s.label? u = some d) (hcurrent : ¬d < c) :
    u ∉ S ∧ queue.countP (s.isCurrent u) = 0 ∧ s.label? u = some c := by
  have hentry : s.isCurrent u (c, u) = true := by
    refine State.isCurrent_iff.2 ⟨rfl, fun d' hd' => ?_⟩
    obtain rfl : d = d' := Option.some.inj (hd.symm.trans hd')
    exact hcurrent
  have hcount := h.countP_current_le u
  rw [hqueue, List.countP_cons, if_pos hentry] at hcount
  have hu : u ∉ S := by
    intro hu
    rw [if_pos hu] at hcount
    omega
  have hzero : queue.countP (s.isCurrent u) = 0 := by
    rw [if_neg hu] at hcount
    omega
  refine ⟨hu, hzero, ?_⟩
  -- the label waits, and no other entry than the first one is current
  have hwaits := h.queued u d hd hu
  rw [hqueue] at hwaits
  obtain heq | hwaits := List.mem_cons.1 hwaits
  · rw [hd, (Prod.mk.inj heq).1]
  · refine absurd (State.isCurrent_iff.2 ⟨rfl, fun d' hd' => ?_⟩)
      (List.countP_eq_zero.1 hzero (d, u) hwaits)
    obtain rfl : d = d' := Option.some.inj (hd.symm.trans hd')
    exact fun hlt => not_le_of_lt hlt (le_of_lt hlt)

/-- **A node whose entry is first and not outdated can be settled.** -/
theorem settle {u : NodeId} {c : α} {queue : Queue α} (hjoined : n.Joined)
    (h : Growing costOf n origin S [] t s) (hqueue : s.queue = (c, u) :: queue) {d : α}
    (hd : s.label? u = some d) (hcurrent : ¬d < c) :
    u ∉ S ∧ s.label? u = some c ∧
      Growing costOf n origin (u :: S) (n.out u) c { s with queue } := by
  obtain ⟨hu, hzero, hlabel⟩ := h.first_current hqueue hd hcurrent
  have hmem : ∀ e ∈ queue, e ∈ s.queue := fun e he => hqueue ▸ List.mem_cons_of_mem _ he
  have hfirst : t ≤ c := h.le_queue (c, u) (hqueue ▸ List.mem_cons_self)
  refine ⟨hu, hlabel, ?_⟩
  obtain ⟨hc, hsorted⟩ := List.pairwise_cons.1 (hqueue ▸ h.sorted)
  constructor
  case size_labels => exact h.size_labels
  case reached => exact h.reached
  case label_origin => exact h.label_origin
  case sorted => exact hsorted
  case label_le => exact fun e he => h.label_le e (hmem e he)
  case queued =>
    intro v d' hd' hv
    rw [List.mem_cons, not_or] at hv
    have hwaits := h.queued v d' hd' hv.2
    rw [hqueue] at hwaits
    obtain heq | hwaits := List.mem_cons.1 hwaits
    · exact absurd (Prod.mk.inj heq).2 hv.1
    · exact hwaits
  case countP_current_le =>
    intro v
    by_cases hv : v = u
    · rw [hv]
      exact Nat.le_trans (Nat.le_of_eq hzero) (Nat.zero_le _)
    · have hcount := h.countP_current_le v
      rw [hqueue, List.countP_cons] at hcount
      simp only [List.mem_cons, hv, false_or]
      exact Nat.le_trans (Nat.le_add_right _ _) hcount
  case settled_le =>
    intro v hv
    obtain rfl | hv := List.mem_cons.1 hv
    · exact ⟨c, hlabel, le_right hfirst⟩
    · obtain ⟨d', hd', hdt⟩ := h.settled_le v hv
      exact ⟨d', hd', le_trans hdt hfirst⟩
  case le_queue => exact hc
  case relaxed =>
    intro k l c' w hk hl hsource
    obtain hlu | hsource := List.mem_cons.1 hsource
    · have hsize : u.index < n.nodes.size := hlu ▸ hjoined.source_lt k l hl
      exact absurd ((hjoined.mem_out_iff hsize).2 ⟨l, hl, hlu⟩) hk
    · exact h.relaxed k l c' w List.not_mem_nil hl hsource

end Growing

/-! ## The whole tree -/

/-- How many links leave nodes that are not settled. -/
def unsettledLinks (n : Network α) (S : List NodeId) : Nat :=
  n.linkIds.countP fun k => (n.link? k).any fun l => l.source ∉ S

omit [Number α] [CostNumber α] in
theorem unsettledLinks_cons (hjoined : n.Joined) {S : List NodeId} {u : NodeId} (hu : u ∉ S)
    (hsize : u.index < n.nodes.size) :
    unsettledLinks n (u :: S) + (n.out u).length = unsettledLinks n S := by
  rw [hjoined.out_eq u hsize, ← List.countP_eq_length_filter, unsettledLinks, unsettledLinks]
  induction n.linkIds with
  | nil => rfl
  | cons k ks ih =>
    rw [List.countP_cons, List.countP_cons, List.countP_cons, ← ih]
    cases n.link? k with
    | none => simp
    | some l =>
      by_cases hlu : l.source = u
      · simp [hlu, hu]
        omega
      · by_cases hl : l.source ∈ S
        · simp [hlu, hl]
        · simp [hlu, hl]
          omega

/-- What holds before anything is settled. -/
theorem Growing.initial (horigin : origin.index < n.nodes.size) :
    Growing costOf n origin [] [] ((0 : Nat) : α) (.initial n origin) := by
  have hlabel : ∀ v d, (State.initial (α := α) n origin).label? v = some d ↔
      v = origin ∧ d = ((0 : Nat) : α) := by
    intro v d
    by_cases hv : v = origin
    · simp [State.label?, State.initial, hv, horigin, eq_comm]
    · have hindex : origin.index ≠ v.index := fun heq => hv (Id.ext_index heq.symm)
      by_cases hlt : v.index < n.nodes.size <;>
        simp [State.label?, State.initial, hv, hindex, hlt]
  constructor
  case size_labels => simp [State.initial]
  case reached =>
    intro v d hd
    obtain ⟨rfl, rfl⟩ := (hlabel v d).1 hd
    exact ⟨Reached.nil, CostNumber.isFinite_zero⟩
  case label_origin => exact (hlabel _ _).2 ⟨rfl, rfl⟩
  case sorted => exact List.pairwise_singleton _ _
  case label_le =>
    intro e he
    obtain rfl := List.mem_singleton.1 he
    exact ⟨_, (hlabel _ _).2 ⟨rfl, rfl⟩, CostNumber.zero_le_zero⟩
  case queued =>
    intro v d hd _
    obtain ⟨rfl, rfl⟩ := (hlabel v d).1 hd
    exact List.mem_singleton_self _
  case countP_current_le =>
    intro v
    exact List.countP_le_length
  case settled_le => exact fun v hv => absurd hv List.not_mem_nil
  case le_queue =>
    intro e he
    obtain rfl := List.mem_singleton.1 he
    exact CostNumber.zero_le_zero
  case relaxed => exact fun _ _ _ _ _ _ hsource => absurd hsource List.not_mem_nil

/-- **The tree grows until nothing waits.** -/
theorem Growing.grow (hprice : Priced costOf n) (hjoined : n.Joined) {fuel : Nat}
    {S : List NodeId} {t : α} {s : State α} (h : Growing costOf n origin S [] t s)
    (hfuel : s.queue.length + unsettledLinks n S ≤ fuel) :
    ∃ S' t', Growing costOf n origin S' [] t' (LeastCosts.grow costOf n fuel s) ∧
      (LeastCosts.grow costOf n fuel s).queue = [] := by
  induction fuel generalizing S t s with
  | zero =>
    have hempty : s.queue = [] := List.eq_nil_of_length_eq_zero (by omega)
    exact ⟨S, t, h, hempty⟩
  | succ fuel ih =>
    unfold LeastCosts.grow
    split
    · next hempty => exact ⟨S, t, h, hempty⟩
    · next entry queue hqueue =>
      obtain ⟨c, u⟩ := entry
      obtain ⟨d, hd, -⟩ := h.label_le (c, u) (hqueue ▸ List.mem_cons_self)
      have hd' : (s.labels[u.index]?).join = some d := hd
      have hlength : s.queue.length = queue.length + 1 := by rw [hqueue, List.length_cons]
      simp only [LeastCosts.settle, hd']
      split
      · next houtdated =>
        exact ih (h.drop hqueue hd houtdated) (by simp only; omega)
      · next hcurrent =>
        obtain ⟨hu, hlabel, hsettle⟩ := h.settle hjoined hqueue hd hcurrent
        have hsize : u.index < n.nodes.size := h.size_labels ▸ State.lt_of_label? hd
        have hlinks := unsettledLinks_cons hjoined hu hsize
        obtain ⟨h', hlength'⟩ := hsettle.foldl_relax hprice hjoined List.mem_cons_self hlabel
          fun k hk => (hjoined.mem_out_iff hsize).1 hk
        exact ih h' (by simp only at hlength'; omega)

end SpatialAccess.LeastCosts
