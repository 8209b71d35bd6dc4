import SpatialAccess.Proofs.Network.Reading
import SpatialAccess.Proofs.Network.Walk
import SpatialAccess.Proofs.Number.Double.Quotient

/-!
# Costs of networks that were read

A reader refuses a link whose free speed is not above zero, but nothing else about its numbers: an
undefined speed is not at most zero, and lengths are not looked at.

* `NetworkReader.Holds.lt_or_isNaN`: a link that was read has a positive speed, or an undefined one.
* `Link.Timed`: a link that takes a time which is neither negative nor undefined.
  `Link.Timed.cost_nonneg`: so it is in every routed mode.
* **`Network.priced_of_ofDocument`**: if all links of a network that was read are like that, least
  costs can be found in it.
* `Network.unpriced_roadDocument`: documents of roads that are not like that are read as well.
-/

namespace SpatialAccess

/-! ## Speeds that were read -/

section

variable {α : Type} [Number α]

theorem Network.exists_holds_of_ofDocument {bytes : Markup.Bytes} {n : Network α}
    (h : ofDocument bytes = .ok n) :
    ∃ es, ∃ r : NetworkReader α, r.Holds es ∧ r.builder.build = n := by
  obtain ⟨-, htags⟩ := ofDocument_eq_ok_iff.1 h
  obtain ⟨es, -, r, hr, hn⟩ := exists_holds_of_ofTags htags
  exact ⟨es, r, hr, hn⟩

/-- A link that was read has a positive speed, or an undefined one. -/
theorem NetworkReader.Holds.lt_or_isNaN [CostNumber α] {r : NetworkReader α}
    {es : List (NetworkEntry α)} (h : r.Holds es) {l : Link α} (hl : l ∈ r.builder.links) :
    ((0 : ℕ) : α) < l.speed ∨ Number.isNaN l.speed = true := by
  obtain ⟨w, hw, hjoins⟩ := WrittenLink.exists_joins h.joins (Array.mem_toList_iff.2 hl)
  have hspeed : ¬l.speed ≤ ((0 : ℕ) : α) := hjoins.speed ▸ h.allowed.speed w hw
  cases hnan : Number.isNaN l.speed with
  | true => exact .inr rfl
  | false =>
    have hnumber : l.speed ≤ l.speed := OrderedNumber.isNaN_eq_false_iff.1 hnan
    exact .inl (OrderedNumber.lt_of_not_le hnumber CostNumber.zero_le_zero hspeed)

end

/-! ## Times of links -/

/-- A link takes a time which is neither negative nor undefined: its speed is a number, its length
is not negative, and the length and the speed it is covered at are not both infinite. -/
structure Link.Timed (speeds : TravelSpeeds Float) (l : Link Float) : Prop where
  speed : Number.isNaN l.speed = false
  length : ((0 : ℕ) : Float) ≤ l.length
  finite : Number.isFinite l.length = true ∨
    (Number.isFinite l.speed = true ∧ Number.isFinite speeds.walk = true ∧
      Number.isFinite speeds.bike = true)

namespace Network

variable {speeds : TravelSpeeds Float} {n : Network Float}

theorem linkCost?_nonneg (hwalk : ((0 : ℕ) : Float) < speeds.walk)
    (hbike : ((0 : ℕ) : Float) < speeds.bike) (hcongested : n.congested = none) {k : LinkId}
    {l : Link Float} (hl : n.link? k = some l) (hspeed : ((0 : ℕ) : Float) < l.speed)
    (htimed : l.Timed speeds) {mode : Mode} (hmode : mode.isRouted = true) :
    ∃ w, speeds.linkCost? n k mode = some w ∧ ((0 : ℕ) : Float) ≤ w := by
  have hfree : n.freespeedTime? k = some (l.length / l.speed) := by
    rw [freespeedTime?, hl]
    rfl
  have hnonneg : ((0 : ℕ) : Float) ≤ l.length / l.speed :=
    Double.zero_le_div htimed.length hspeed (htimed.finite.imp_right And.left)
  cases mode with
  | freeSpeed => exact ⟨_, hfree, hnonneg⟩
  | car =>
    refine ⟨_, ?_, hnonneg⟩
    rw [TravelSpeeds.linkCost?, travelTime?, hcongested]
    exact hfree
  | walk =>
    refine ⟨l.length / speeds.walk, by rw [TravelSpeeds.linkCost?, hl]; rfl, ?_⟩
    exact Double.zero_le_div htimed.length hwalk (htimed.finite.imp_right fun h => h.2.1)
  | bike =>
    refine ⟨l.length / speeds.bike, by rw [TravelSpeeds.linkCost?, hl]; rfl, ?_⟩
    exact Double.zero_le_div htimed.length hbike (htimed.finite.imp_right fun h => h.2.2)
  | transit => cases hmode

/-- **Least costs can be found in a network that was read** if all its links take a time which is
neither negative nor undefined. Of every network that was read it is known only that no link has a
speed of zero or less. -/
theorem priced_of_ofDocument {bytes : Markup.Bytes} {n : Network Float}
    (h : ofDocument bytes = .ok n) {speeds : TravelSpeeds Float}
    (hwalk : ((0 : ℕ) : Float) < speeds.walk) (hbike : ((0 : ℕ) : Float) < speeds.bike) :
    (∀ l ∈ n.links, ((0 : ℕ) : Float) < l.speed ∨ Number.isNaN l.speed = true) ∧
    ((∀ l ∈ n.links, l.Timed speeds) →
      (∀ l ∈ n.links, ((0 : ℕ) : Float) < l.speed) ∧ n.Joined ∧
        ∀ mode, mode.isRouted = true → LeastCosts.Priced (speeds.linkCost? n · mode) n) := by
  obtain ⟨es, r, hr, rfl⟩ := exists_holds_of_ofDocument h
  have hspeed : ∀ l ∈ r.builder.links, ((0 : ℕ) : Float) < l.speed ∨ Number.isNaN l.speed = true :=
    fun l hl => hr.lt_or_isNaN hl
  refine ⟨hspeed, fun htimed => ?_⟩
  have hpositive : ∀ l ∈ r.builder.links, ((0 : ℕ) : Float) < l.speed := by
    intro l hl
    refine (hspeed l hl).resolve_right ?_
    rw [(htimed l hl).speed]
    exact Bool.false_ne_true
  refine ⟨hpositive, joined_build hr.lists.ends_lt, fun mode hmode k l hl => ?_⟩
  have hmem : l ∈ r.builder.links := Array.mem_of_getElem? hl
  exact linkCost?_nonneg hwalk hbike rfl hl (hpositive l hmem) (htimed l hmem) hmode

/-! ## Roads -/

/-- The document of a road between two nodes, with the texts of its length and its free speed. -/
def roadDocument (length speed : String) : Markup.Bytes :=
  Markup.ascii ("<network><node id='1' x='0' y='0'/><node id='2' x='3' y='4'/>" ++
    "<link id='l' from='1' to='2' length='" ++ length ++ "' freespeed='" ++ speed ++ "'/></network>")

def roadEntries (length speed : Float) : List (NetworkEntry Float) :=
  [.node ⟨"1", ⟨0, 0⟩⟩, .node ⟨"2", ⟨3, 4⟩⟩, .link ⟨"l", "1", "2", length, speed⟩]

theorem allowed_roadEntries {length speed : Float} (h : ¬speed ≤ ((0 : ℕ) : Float)) :
    NetworkEntry.Allowed (roadEntries length speed) := by
  have hfirst : NetworkEntry.Allowed ([.node ⟨"1", ⟨0, 0⟩⟩] : List (NetworkEntry Float)) :=
    (NetworkEntry.allowed_concat_node_iff NetworkEntry.allowed_nil).2 (by decide)
  have hsecond : NetworkEntry.Allowed
      ([.node ⟨"1", ⟨0, 0⟩⟩, .node ⟨"2", ⟨3, 4⟩⟩] : List (NetworkEntry Float)) :=
    (NetworkEntry.allowed_concat_node_iff hfirst).2 (by decide)
  refine (NetworkEntry.allowed_concat_link_iff hsecond).2 ⟨List.not_mem_nil, ?_, ?_, h⟩
  · exact List.mem_cons_self
  · exact List.mem_cons_of_mem _ List.mem_cons_self

/-- A road is read unless it is known to be at a standstill. -/
theorem exists_ofDocument_road (lengthText speedText : String) (length speed : Float)
    (hread : (Markup.tokens (roadDocument lengthText speedText)).2 = .complete ∧
      (NetworkTag.ofDocument (roadDocument lengthText speedText)).mapM NetworkTag.written? =
        some (roadEntries length speed))
    (h : ¬speed ≤ ((0 : ℕ) : Float)) :
    ∃ (n : Network Float) (l : Link Float),
      ofDocument (roadDocument lengthText speedText) = .ok n ∧ n.links = #[l] ∧
        l.length = length ∧ l.speed = speed := by
  obtain ⟨htokens, htags⟩ := hread
  obtain ⟨n, hn⟩ := exists_ofTags_iff.2 ⟨_, htags, allowed_roadEntries h⟩
  obtain ⟨es, hes, r, hr, rfl⟩ := exists_holds_of_ofTags hn
  cases htags.symm.trans hes
  obtain ⟨l, ls, hjoins, hls, hlinks⟩ := List.forall₂_cons_left_iff.1 hr.joins
  cases List.forall₂_nil_left_iff.1 hls
  refine ⟨_, l, ofDocument_eq_ok_iff.2 ⟨htokens, hn⟩, ?_, hjoins.length, hjoins.speed⟩
  exact Array.toList_inj.1 hlinks

theorem freespeedTime?_of_links {n : Network Float} {l : Link Float} (h : n.links = #[l]) :
    n.freespeedTime? ⟨0⟩ = some (l.length / l.speed) := by
  rw [freespeedTime?, link?, h]
  rfl

/-- Five metres at ten metres a second are read, and least costs can be found. -/
theorem priced_roadDocument :
    ∃ n : Network Float, ofDocument (roadDocument "5" "10") = .ok n ∧
      (((0 : ℕ) : Float) < TravelSpeeds.standard.walk ∧
        ((0 : ℕ) : Float) < TravelSpeeds.standard.bike ∧ ∀ l ∈ n.links, l.Timed .standard) ∧
      LeastCosts.Priced (TravelSpeeds.standard.linkCost? n · .freeSpeed) n := by
  obtain ⟨n, l, hn, hlinks, hlength, hspeed⟩ :=
    exists_ofDocument_road "5" "10" 5 10 (by decide +kernel) (by decide +kernel)
  have hwalk : ((0 : ℕ) : Float) < TravelSpeeds.standard.walk := by decide +kernel
  have hbike : ((0 : ℕ) : Float) < TravelSpeeds.standard.bike := by decide +kernel
  have htimed : ∀ l ∈ n.links, l.Timed .standard := by
    rw [hlinks]
    intro l' hl'
    cases Array.mem_singleton.1 hl'
    refine ⟨?_, ?_, .inl ?_⟩
    · rw [hspeed]
      decide +kernel
    · rw [hlength]
      decide +kernel
    · rw [hlength]
      decide +kernel
  obtain ⟨-, h⟩ := priced_of_ofDocument hn hwalk hbike
  exact ⟨n, hn, ⟨hwalk, hbike, htimed⟩, (h htimed).2.2 .freeSpeed rfl⟩

/-- **A road of undefined free speed is read**, and so is one of negative length. -/
theorem unpriced_roadDocument :
    (∃ (n : Network Float) (l : Link Float), ofDocument (roadDocument "5" "NaN") = .ok n ∧
      l ∈ n.links ∧ ¬((0 : ℕ) : Float) < l.speed ∧
        ∃ w, TravelSpeeds.standard.linkCost? n ⟨0⟩ .freeSpeed = some w ∧
          Number.isNaN w = true) ∧
    ∃ (n : Network Float) (l : Link Float), ofDocument (roadDocument "-5" "10") = .ok n ∧
      l ∈ n.links ∧ ¬((0 : ℕ) : Float) ≤ l.length ∧
        ∃ w, TravelSpeeds.standard.linkCost? n ⟨0⟩ .freeSpeed = some w ∧
          w < ((0 : ℕ) : Float) := by
  constructor
  · obtain ⟨n, l, hn, hlinks, hlength, hspeed⟩ :=
      exists_ofDocument_road "5" "NaN" 5 Number.undefined (by decide +kernel) (by decide +kernel)
    have hcost := freespeedTime?_of_links hlinks
    rw [hlength, hspeed] at hcost
    refine ⟨n, l, hn, hlinks ▸ Array.mem_singleton.2 rfl, ?_, _, hcost, by decide +kernel⟩
    rw [hspeed]
    decide +kernel
  · obtain ⟨n, l, hn, hlinks, hlength, hspeed⟩ :=
      exists_ofDocument_road "-5" "10" (-5) 10 (by decide +kernel) (by decide +kernel)
    have hcost := freespeedTime?_of_links hlinks
    rw [hlength, hspeed] at hcost
    refine ⟨n, l, hn, hlinks ▸ Array.mem_singleton.2 rfl, ?_, _, hcost, by decide +kernel⟩
    rw [hlength]
    decide +kernel

end Network

end SpatialAccess
