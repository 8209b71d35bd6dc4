import SpatialAccess.Network.Basic

/-!
# Middles of links

The middle of a link lies between its ends, but nobody checks that these are nodes.

* `Network.Dangles`: a link that is there has an end that is no node. `Network.not_dangles`: no link
  does if all links join nodes.
* `Network.middle?_eq_none_iff`: looking up a middle breaks off just at such a link.
  `Network.midpoint?_eq_some_iff`: the middles that are found.
* `Network.BreaksOff`: looking up the middles of several links, one after the other, breaks off.
-/

namespace SpatialAccess.Network

variable {α : Type} {network : Network α} {id : LinkId}

/-- A link is there, but one of its ends is no node. -/
def Dangles (network : Network α) (id : LinkId) : Prop :=
  ∃ l, network.link? id = some l ∧
    (network.nodeCoord? l.source = none ∨ network.nodeCoord? l.target = none)

theorem not_dangles (hends : ∀ l ∈ network.links,
    l.source.index < network.nodes.size ∧ l.target.index < network.nodes.size) (id : LinkId) :
    ¬network.Dangles id := by
  rintro ⟨l, hl, hnone⟩
  obtain ⟨hsource, htarget⟩ := hends l (Array.mem_of_getElem? hl)
  simp [nodeCoord?, node?, hsource, htarget] at hnone

variable [Number α]

theorem middle?_of_link?_eq_none (h : network.link? id = none) :
    network.middle? id = some none := by
  rw [middle?, h]

theorem middle?_of_link?_eq_some {l : Link α} (h : network.link? id = some l) :
    network.middle? id = (network.nodeCoord? l.source).bind fun a =>
      (network.nodeCoord? l.target).map fun b => some (a.midpoint b) := by
  rw [middle?, h]
  cases hsource : network.nodeCoord? l.source <;> cases htarget : network.nodeCoord? l.target <;>
    simp [hsource, htarget]

theorem middle?_eq_none_iff : network.middle? id = none ↔ network.Dangles id := by
  unfold Dangles
  cases hl : network.link? id with
  | none => simp [middle?_of_link?_eq_none hl]
  | some l =>
    rw [middle?_of_link?_eq_some hl]
    cases hsource : network.nodeCoord? l.source <;> simp [hsource]

theorem middle?_eq_some_none_iff : network.middle? id = some none ↔ network.link? id = none := by
  cases hl : network.link? id with
  | none => simp [middle?_of_link?_eq_none hl]
  | some l => simp [middle?_of_link?_eq_some hl, Option.bind_eq_some_iff]

theorem midpoint?_eq_none_iff :
    network.midpoint? id = none ↔ network.link? id = none ∨ network.Dangles id := by
  rw [← middle?_eq_some_none_iff, ← middle?_eq_none_iff, midpoint?, or_comm,
    Option.join_eq_none_iff]

/-! ## Several links -/

/-- All middles are found up to a link that dangles. -/
inductive BreaksOff (network : Network α) : List LinkId → Prop where
  | here {link : LinkId} {links : List LinkId} :
      network.Dangles link → BreaksOff network (link :: links)
  | behind {link : LinkId} {links : List LinkId} {middle : Point α} :
      network.midpoint? link = some middle → BreaksOff network links →
        BreaksOff network (link :: links)

theorem not_breaksOff (hends : ∀ l ∈ network.links,
    l.source.index < network.nodes.size ∧ l.target.index < network.nodes.size)
    (links : List LinkId) : ¬network.BreaksOff links := by
  intro h
  induction h with
  | here hdangles => exact not_dangles hends _ hdangles
  | behind _ _ ih => exact ih

end SpatialAccess.Network
