import SpatialAccess.Proofs.Zone.Tiling

/-!
# Boxes around points

The box around points holds all of them if their coordinates are numbers, and so does the box with a
margin around it. In exact arithmetic the order of the points does not matter.

* `Point.IsDefined`: both coordinates of a point are numbers.
* **`Box.contains_of_ofPoints?`**, `Box.contains_padded`, `Box.ofPoints?_perm`: the box around
  points.
* `ZoneGrid.zoneOf?_of_order_one`: the only zone of a grid of order one holds its whole box.
-/

namespace SpatialAccess

section Holding

variable {α : Type} [Number α]

/-- Both coordinates are numbers. -/
def Point.IsDefined (p : Point α) : Prop :=
  Number.isNaN p.x = false ∧ Number.isNaN p.y = false

@[simp] theorem Point.isDefined_real (p : Point ℝ) : p.IsDefined :=
  ⟨Number.isNaN_real _, Number.isNaN_real _⟩

namespace Box

open OrderedNumber

theorem contains_extend [OrderedNumber α] {b : Box α} {p q : Point α} (h : b.contains q = true)
    (hp : p.IsDefined) : (b.extend p).contains q = true ∧ (b.extend p).contains p = true := by
  obtain ⟨⟨hminX, hmaxX⟩, hminY, hmaxY⟩ := contains_eq_true_iff.1 h
  have hx : p.x ≤ p.x := isNaN_eq_false_iff.1 hp.1
  have hy : p.y ≤ p.y := isNaN_eq_false_iff.1 hp.2
  -- a box that holds anything has numbers for edges
  have hminX' : b.minX ≤ b.minX := le_left hminX
  have hmaxX' : b.maxX ≤ b.maxX := le_right hmaxX
  have hminY' : b.minY ≤ b.minY := le_left hminY
  have hmaxY' : b.maxY ≤ b.maxY := le_right hmaxY
  simp only [contains_eq_true_iff, extend]
  exact ⟨⟨⟨le_trans (lower_le_left hminX') hminX, le_trans hmaxX (le_upper_left hmaxX')⟩,
      le_trans (lower_le_left hminY') hminY, le_trans hmaxY (le_upper_left hmaxY')⟩,
    ⟨lower_le_right hminX' hx, le_upper_right hmaxX' hx⟩,
    lower_le_right hminY' hy, le_upper_right hmaxY' hy⟩

theorem contains_foldl_extend [OrderedNumber α] {b : Box α} {q : Point α} (h : b.contains q = true)
    {ps : List (Point α)} (hps : ∀ p ∈ ps, p.IsDefined) :
    (ps.foldl extend b).contains q = true ∧ ∀ p ∈ ps, (ps.foldl extend b).contains p = true := by
  induction ps generalizing b q with
  | nil => exact ⟨h, List.forall_mem_nil _⟩
  | cons p ps ih =>
    obtain ⟨hp, hps⟩ := List.forall_mem_cons.1 hps
    obtain ⟨hq, hp⟩ := contains_extend h hp
    exact ⟨(ih hq hps).1, List.forall_mem_cons.2 (ih hp hps)⟩

/-- **The box around points holds all of them.** -/
theorem contains_of_ofPoints? [OrderedNumber α] {ps : List (Point α)} {b : Box α}
    (h : ofPoints? ps = some b) (hps : ∀ p ∈ ps, p.IsDefined) {p : Point α} (hp : p ∈ ps) :
    b.contains p = true := by
  cases ps with
  | nil => cases hp
  | cons q ps =>
    cases h
    obtain ⟨hq, hrest⟩ := List.forall_mem_cons.1 hps
    have hx : q.x ≤ q.x := isNaN_eq_false_iff.1 hq.1
    have hy : q.y ≤ q.y := isNaN_eq_false_iff.1 hq.2
    have hcontains : (⟨q.x, q.y, q.x, q.y⟩ : Box α).contains q = true :=
      contains_eq_true_iff.2 ⟨⟨hx, hx⟩, hy, hy⟩
    obtain ⟨hfirst, hothers⟩ := contains_foldl_extend hcontains hrest
    obtain rfl | hp := List.mem_cons.1 hp
    · exact hfirst
    · exact hothers p hp

/-- A margin around a box loses nothing. -/
theorem contains_padded [MarginNumber α] {b : Box α} {p : Point α} (h : b.contains p = true)
    {margin : α} (hmargin : ((0 : ℕ) : α) ≤ margin) (hfinite : Number.isFinite margin = true) :
    (b.padded margin).contains p = true := by
  obtain ⟨⟨hminX, hmaxX⟩, hminY, hmaxY⟩ := contains_eq_true_iff.1 h
  have hlow : ∀ {x : α}, x ≤ x → x - margin ≤ x := fun hx => MarginNumber.sub_le hx hmargin hfinite
  have hhigh : ∀ {x : α}, x ≤ x → x ≤ x + margin := fun hx => MarginNumber.le_add hx hmargin hfinite
  exact contains_eq_true_iff.2
    ⟨⟨le_trans (hlow (le_left hminX)) hminX, le_trans hmaxX (hhigh (le_right hmaxX))⟩,
      le_trans (hlow (le_left hminY)) hminY, le_trans hmaxY (hhigh (le_right hmaxY))⟩

end Box

end Holding

namespace Box

theorem le_of_ofPoints? {ps : List (Point ℝ)} {b : Box ℝ} (h : ofPoints? ps = some b) :
    b.minX ≤ b.maxX ∧ b.minY ≤ b.maxY := by
  cases ps with
  | nil => cases h
  | cons p ps =>
    obtain ⟨⟨hx, hx'⟩, hy, hy'⟩ := contains_eq_true_iff.1
      (contains_of_ofPoints? h (fun p _ => p.isDefined_real) List.mem_cons_self)
    exact ⟨hx.trans hx', hy.trans hy'⟩

/-! ## The order of points -/

theorem extend_real (b : Box ℝ) (p : Point ℝ) :
    b.extend p = ⟨min b.minX p.x, min b.minY p.y, max b.maxX p.x, max b.maxY p.y⟩ := by
  simp only [extend, Number.lower_real, Number.upper_real]

theorem extend_right_comm (b : Box ℝ) (p q : Point ℝ) :
    (b.extend p).extend q = (b.extend q).extend p := by
  simp only [extend_real, min_right_comm, max_right_comm]

instance : RightCommutative (extend : Box ℝ → Point ℝ → Box ℝ) :=
  ⟨extend_right_comm⟩

theorem ofPoints?_swap (p q : Point ℝ) (ps : List (Point ℝ)) :
    ofPoints? (p :: q :: ps) = ofPoints? (q :: p :: ps) := by
  simp only [ofPoints?, List.foldl_cons, extend_real, min_comm p.x, min_comm p.y, max_comm p.x,
    max_comm p.y]

/-- **The box around points does not depend on their order.** -/
theorem ofPoints?_perm {ps qs : List (Point ℝ)} (h : ps.Perm qs) : ofPoints? ps = ofPoints? qs := by
  induction h with
  | nil => rfl
  | cons p h _ => exact congrArg some (h.foldl_eq _)
  | swap p q ps => exact ofPoints?_swap q p ps
  | trans _ _ ih ih' => exact ih.trans ih'

end Box

namespace ZoneGrid

/-- Looking a point up in the zones and looking for a zone that holds it come to the same. -/
theorem Tiles.zoneOf?_eq_some_iff {g : ZoneGrid ℝ} (h : g.Tiles) {z : Zone ℝ} (hz : z ∈ g.zones)
    (p : Point ℝ) : g.zoneOf? p = some z.id ↔ z.contains p = true := by
  cases hbox : g.box.contains p with
  | false =>
    obtain ⟨hnone, hzone⟩ := h.outside p hbox
    simp [hnone z hz, hzone]
  | true =>
    obtain ⟨z', hz', hp, honly, hzone, -⟩ := h.inside p hbox
    rw [hzone, Option.some.injEq]
    constructor
    · intro hid
      have hsame := h.zone?_id z' hz'
      rw [hid, h.zone?_id z hz] at hsame
      rwa [Option.some.inj hsame]
    · intro hzp
      rw [honly z hz hzp]

/-- The only zone of a grid of order one holds all of its box. -/
theorem zoneOf?_of_order_one {g : ZoneGrid ℝ} (horder : g.order = 1) {p : Point ℝ}
    (hp : g.box.contains p = true) : g.zoneOf? p = some ⟨0⟩ := by
  have hcolumn : (g.xs.cell p.x).val < g.order := g.columns ▸ (g.xs.cell p.x).isLt
  have hrow : (g.ys.cell p.y).val < g.order := g.rows ▸ (g.ys.cell p.y).isLt
  rw [zoneOf?, if_pos hp, idAt, idOf, horder]
  congr 2
  omega

end ZoneGrid

end SpatialAccess
