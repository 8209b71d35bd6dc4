import Mathlib.Data.Nat.Init
import SpatialAccess.Proofs.Number.Laws
import SpatialAccess.Zone.Grid

/-!
# The cell of a value

A value is looked up on an axis by a guess that is corrected by the edges. On edges that never fall
the corrected cell does not depend on the guess.

* `Axis.NonDecreasing`: no edge is below the one before it.
* `Axis.Holds`: the cell of a value, told by its two edges; the first cell has no lower end and the
  last one no upper end. `Axis.holds_unique`: there is one such cell.
* `Axis.correct`: the correction from any cell. **`Axis.holds_correct`**: it ends at that cell.
  **`Axis.cell_le_cell`**: the cell does not go down when the value goes up.
* **`Axis.within_iff`**: between the ends of the axis that cell is the only one whose interval, closed
  above in the last cell only, has the value in it.
-/

namespace SpatialAccess.Axis

variable {α : Type} [Number α]

/-- No edge is below the one before it. -/
def NonDecreasing (a : Axis α) : Prop :=
  ∀ k (h : k + 1 ≤ a.cells), a.edge k (Nat.le_of_succ_le h) ≤ a.edge (k + 1) h

/-- A value is in cell `k` as far as the edges between cells tell. -/
def Holds (a : Axis α) (v : α) (k : Fin a.cells) : Prop :=
  (k.val = 0 ∨ a.edge k (Nat.le_of_lt k.isLt) ≤ v) ∧
    (k.val + 1 = a.cells ∨ v < a.edge (k + 1) k.isLt)

/-- The cell that a value is moved to from cell `k`, down and then up. -/
def correct (a : Axis α) (v : α) (k : Fin a.cells) : Fin a.cells :=
  a.ascend v (a.descend v k.val k.isLt)

theorem cell_eq_correct (a : Axis α) (v : α) : a.cell v = a.correct v (a.guess v) := rfl

variable [OrderedNumber α]

open OrderedNumber

/-! ## Edges -/

namespace NonDecreasing

variable {a : Axis α}

theorem edge_le_self (h : a.NonDecreasing) {k : ℕ} (hk : k ≤ a.cells) : a.edge k hk ≤ a.edge k hk := by
  cases k with
  | zero => exact le_left (h 0 a.cells_pos)
  | succ k => exact le_right (h k hk)

theorem edge_le_edge (h : a.NonDecreasing) {i j : ℕ} (hij : i ≤ j) (hj : j ≤ a.cells) :
    a.edge i (Nat.le_trans hij hj) ≤ a.edge j hj := by
  induction j, hij using Nat.le_induction with
  | base => exact h.edge_le_self hj
  | succ j hij ih => exact le_trans (ih (Nat.le_of_succ_le hj)) (h j hj)

end NonDecreasing

/-! ## The one cell of a value -/

theorem holds_unique {a : Axis α} (h : a.NonDecreasing) {v : α} {i j : Fin a.cells}
    (hi : a.Holds v i) (hj : a.Holds v j) : i = j := by
  -- of two cells the lower one ends at or before the start of the higher one
  have absurd_lt : ∀ {i j : Fin a.cells}, a.Holds v i → a.Holds v j → ¬i < j := by
    intro i j hi hj hij
    have hij' : i.val + 1 ≤ j.val := hij
    have hv : v < a.edge (i + 1) i.isLt := hi.2.resolve_left (by omega)
    have hv' : a.edge j (Nat.le_of_lt j.isLt) ≤ v := hj.1.resolve_left (by omega)
    exact not_le_of_lt hv (le_trans (h.edge_le_edge hij' (Nat.le_of_lt j.isLt)) hv')
  have hij : ¬i.val < j.val := absurd_lt hi hj
  have hji : ¬j.val < i.val := absurd_lt hj hi
  exact Fin.ext (by omega)

/-- Going down ends at or above a lower edge, or in the first cell. -/
theorem descend_spec {a : Axis α} (h : a.NonDecreasing) {v : α} (hv : v ≤ v) (k : ℕ)
    (hk : k < a.cells) :
    (a.descend v k hk).val = 0 ∨
      a.edge (a.descend v k hk) (Nat.le_of_lt (a.descend v k hk).isLt) ≤ v := by
  induction k with
  | zero => exact .inl rfl
  | succ k ih =>
    unfold descend
    split
    · exact ih (Nat.lt_of_succ_lt hk)
    · next hlt => exact .inr (le_of_not_lt hv (h.edge_le_self _) hlt)

/-- Going up ends below an upper edge, or in the last cell, and no start is left below its lower
edge. -/
theorem ascend_spec {a : Axis α} (h : a.NonDecreasing) {v : α} (hv : v ≤ v) (k : Fin a.cells)
    (hk : k.val = 0 ∨ a.edge k (Nat.le_of_lt k.isLt) ≤ v) : a.Holds v (a.ascend v k) := by
  fun_induction ascend a v k with
  | case1 k hlast hle ih => exact ih (.inr hle)
  | case2 k hlast hle =>
    exact ⟨hk, .inr (lt_of_not_le (h.edge_le_self _) hv hle)⟩
  | case3 k hlast => exact ⟨hk, .inl (by omega)⟩

/-- **The correction ends at the cell of the value, wherever it starts.** -/
theorem holds_correct {a : Axis α} (h : a.NonDecreasing) {v : α} (hv : v ≤ v) (k : Fin a.cells) :
    a.Holds v (a.correct v k) :=
  ascend_spec h hv _ (descend_spec h hv k.val k.isLt)

theorem correct_eq_cell {a : Axis α} (h : a.NonDecreasing) {v : α} (hv : v ≤ v) (k : Fin a.cells) :
    a.correct v k = a.cell v :=
  holds_unique h (holds_correct h hv k) (holds_correct h hv (a.guess v))

/-- **A greater value is in no lower cell**, be it between the ends of the axis or beyond them. -/
theorem cell_le_cell {a : Axis α} (h : a.NonDecreasing) {u v : α} (huv : u ≤ v) :
    (a.cell u).val ≤ (a.cell v).val := by
  have hu : a.Holds u (a.cell u) := holds_correct h (le_left huv) (a.guess u)
  have hv : a.Holds v (a.cell v) := holds_correct h (le_right huv) (a.guess v)
  refine Nat.le_of_not_lt fun (hcells : (a.cell v).val + 1 ≤ (a.cell u).val) => ?_
  -- the greater value would be below an edge that the smaller one has reached
  have hbelow : v < a.edge (a.cell v + 1) (a.cell v).isLt := hv.2.resolve_left (by omega)
  have habove : a.edge (a.cell u) (Nat.le_of_lt (a.cell u).isLt) ≤ u := hu.1.resolve_left (by omega)
  exact not_le_of_lt hbelow
    (le_trans (h.edge_le_edge hcells (Nat.le_of_lt (a.cell u).isLt)) (le_trans habove huv))

/-! ## Intervals -/

theorem within_eq_true_iff {low high v : α} {closed : Bool} :
    Zone.within low high closed v = true ↔
      low ≤ v ∧ (v < high ∨ closed = true ∧ v ≤ high ∧ high ≤ v) := by
  simp only [Zone.within, Bool.and_eq_true, Bool.or_eq_true, decide_eq_true_eq, beq_iff_le_le]

/-- **A value is in the interval of a cell just if it is between the ends of the axis and that cell is
its own.** -/
theorem within_iff {a : Axis α} (h : a.NonDecreasing) {v : α} (k : Fin a.cells) :
    Zone.within (a.edge k (Nat.le_of_lt k.isLt)) (a.edge (k + 1) k.isLt)
        (k.val + 1 == a.cells) v = true ↔
      (a.first ≤ v ∧ v ≤ a.last) ∧ k = a.cell v := by
  have hlast : k.val + 1 = a.cells → a.edge (k + 1) k.isLt = a.last := by
    intro hk
    simp only [last, hk]
  rw [within_eq_true_iff, beq_iff_eq]
  constructor
  · rintro ⟨hlow, hhigh⟩
    have hv : v ≤ v := le_right hlow
    have hle : v ≤ a.edge (k + 1) k.isLt := hhigh.elim le_of_lt fun hc => hc.2.1
    refine ⟨⟨le_trans (h.edge_le_edge (Nat.zero_le _) _) hlow,
      le_trans hle (h.edge_le_edge k.isLt (Nat.le_refl _))⟩, ?_⟩
    refine holds_unique h ⟨.inr hlow, ?_⟩ (holds_correct h hv (a.guess v))
    exact hhigh.elim .inr fun hc => .inl hc.1
  · rintro ⟨⟨hfirst, hle⟩, rfl⟩
    obtain ⟨hlow, hhigh⟩ := holds_correct h (le_right hfirst) (a.guess v)
    rw [← cell_eq_correct] at hlow hhigh
    refine ⟨?_, ?_⟩
    · obtain hzero | hlow := hlow
      · simpa only [hzero, first] using hfirst
      · exact hlow
    · obtain hk | hlt := hhigh
      · rw [hlast hk]
        by_cases hge : a.last ≤ v
        · exact .inr ⟨hk, hle, hge⟩
        · exact .inl (lt_iff_le_not_le.2 ⟨hle, hge⟩)
      · exact .inl hlt

end SpatialAccess.Axis
