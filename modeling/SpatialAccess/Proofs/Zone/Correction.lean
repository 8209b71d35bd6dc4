import SpatialAccess.Proofs.Number.Double.Order
import SpatialAccess.Proofs.Zone.AxisCell

/-!
# Correcting a guess

The cell of a value is found from a guess by going down and then up. Both loops are said once more
with look-ups that may find nothing and with a number of turns that they may take, so that it shows
which edges they look at and when they are done.

* `Axis.descend?`, `Axis.ascend?`: the loops with bounded turns. `Axis.descend?_eq`,
  `Axis.ascend?_eq`: they need one turn for each cell that they pass, on any edges and for any value.
* `Axis.val_descend`: on edges that never fall, going down stops at the cell of the value or does not
  start. `Axis.val_ascend_descend`: going up then ends at that cell.
* **`Axis.cell_spec`**: the correction from any guess, and the cell that it ends at.
-/

namespace SpatialAccess.Axis

variable {α : Type} [Number α]

/-! ## The loops, turn by turn -/

/-- Goes down from cell `k`; nothing, if an edge is not there or the turns run out. -/
def descend? (a : Axis α) (v : α) : (turns k : ℕ) → Option ℕ
  | _, 0 => some 0
  | 0, k + 1 => do
    let edge ← a.edges[k + 1]?
    if v < edge then none else some (k + 1)
  | turns + 1, k + 1 => do
    let edge ← a.edges[k + 1]?
    if v < edge then a.descend? v turns k else some (k + 1)

/-- Goes up from cell `k`; nothing, if an edge is not there or the turns run out. -/
def ascend? (a : Axis α) (v : α) : (turns k : ℕ) → Option ℕ
  | 0, k =>
    if k + 1 < a.cells then do
      let edge ← a.edges[k + 1]?
      if edge ≤ v then none else some k
    else some k
  | turns + 1, k =>
    if k + 1 < a.cells then do
      let edge ← a.edges[k + 1]?
      if edge ≤ v then a.ascend? v turns (k + 1) else some k
    else some k

instance (a : Axis α) : Decidable a.NonDecreasing :=
  inferInstanceAs (Decidable (∀ k (h : k < a.cells),
    a.edge k (Nat.le_of_succ_le h) ≤ a.edge (k + 1) h))

section Turns

variable {a : Axis α} {v : α}

omit [Number α] in
theorem getElem?_edges {k : ℕ} (h : k ≤ a.cells) : a.edges[k]? = some (a.edge k h) := by
  have hk : k < a.edges.size := by
    have := a.two_le_size
    unfold cells at h
    omega
  rw [Array.getElem?_eq_getElem hk]
  rfl

theorem val_descend_le (k : ℕ) (hk : k < a.cells) : (a.descend v k hk).val ≤ k := by
  induction k with
  | zero => exact Nat.le_refl _
  | succ k ih =>
    unfold descend
    split
    · exact Nat.le_succ_of_le (ih _)
    · exact Nat.le_refl _

theorem le_val_ascend (k : Fin a.cells) : k.val ≤ (a.ascend v k).val := by
  fun_induction ascend a v k with
  | case1 k _ _ ih => exact Nat.le_of_succ_le ih
  | case2 | case3 => exact Nat.le_refl _

/-- **Going down** takes a turn for each cell that it passes, and finds all its edges. -/
theorem descend?_eq (turns k : ℕ) (hk : k < a.cells) :
    a.descend? v turns k =
      if k - a.descend v k hk ≤ turns then some (a.descend v k hk : ℕ) else none := by
  induction k generalizing turns with
  | zero => simp [descend?, descend]
  | succ k ih =>
    have hbelow := val_descend_le (v := v) k (Nat.lt_of_succ_lt hk)
    unfold descend
    cases turns with
    | zero =>
      simp only [descend?, getElem?_edges (Nat.le_of_lt hk), Option.bind_eq_bind, Option.bind_some]
      split
      · rw [if_neg (by omega)]
      · simp
    | succ turns =>
      simp only [descend?, getElem?_edges (Nat.le_of_lt hk), Option.bind_eq_bind, Option.bind_some]
      split
      · rw [ih turns (Nat.lt_of_succ_lt hk)]
        exact if_congr (by omega) rfl rfl
      · simp

/-- **Going up** takes a turn for each cell that it passes, and finds all its edges. -/
theorem ascend?_eq (turns : ℕ) (k : Fin a.cells) :
    a.ascend? v turns k =
      if a.ascend v k - k ≤ turns then some (a.ascend v k : ℕ) else none := by
  fun_induction ascend a v k generalizing turns with
  | case1 k hk hle ih =>
    have habove := le_val_ascend (v := v) ⟨k.val + 1, hk⟩
    have hedge := getElem?_edges (a := a) (Nat.le_of_lt hk)
    cases turns with
    | zero =>
      simp only [ascend?, if_pos hk, hedge, Option.bind_eq_bind, Option.bind_some, if_pos hle]
      rw [if_neg (by simp only at habove; omega)]
    | succ turns =>
      simp only [ascend?, if_pos hk, hedge, Option.bind_eq_bind, Option.bind_some, if_pos hle]
      rw [ih turns]
      exact if_congr (by simp only at habove ⊢; omega) rfl rfl
  | case2 k hk hle =>
    have hedge := getElem?_edges (a := a) (Nat.le_of_lt hk)
    cases turns <;> simp [ascend?, hk, hedge, hle]
  | case3 k hk => cases turns <;> simp [ascend?, hk]

/-- Going down stays where it is or stops below an edge that it came over. -/
theorem descend_eq_or_lt (k : ℕ) (hk : k < a.cells) :
    (a.descend v k hk).val = k ∨
      v < a.edge (a.descend v k hk + 1) (a.descend v k hk).isLt := by
  induction k with
  | zero => exact .inl rfl
  | succ k ih =>
    unfold descend
    split
    · next hlt =>
      obtain hstay | hbelow := ih (Nat.lt_of_succ_lt hk)
      · exact .inr (by simpa only [hstay] using hlt)
      · exact .inr hbelow
    · exact .inl rfl

end Turns

/-! ## Edges that never fall -/

variable [OrderedNumber α] {a : Axis α} {v : α}

open OrderedNumber

theorem holds_cell (h : a.NonDecreasing) (hv : v ≤ v) : a.Holds v (a.cell v) :=
  holds_correct h hv (a.guess v)

/-- **Going down** stops at the cell of the value, or stays where it is below that cell. -/
theorem val_descend (h : a.NonDecreasing) (hv : v ≤ v) (k : Fin a.cells) :
    (a.descend v k k.isLt).val = min k.val (a.cell v).val := by
  have hlow := descend_spec h hv k.val k.isLt
  have hle := val_descend_le (v := v) k.val k.isLt
  obtain hstay | hbelow := descend_eq_or_lt (v := v) k.val k.isLt
  · -- a start above the cell of the value would be above an edge that the value is below
    refine hstay.trans (min_eq_left (Nat.le_of_not_lt fun hlt => ?_)).symm
    have hcell : v < a.edge (a.cell v + 1) (a.cell v).isLt :=
      (holds_cell h hv).2.resolve_left (by omega)
    simp only [hstay] at hlow
    exact not_le_of_lt hcell
      (le_trans (h.edge_le_edge hlt (Nat.le_of_lt k.isLt)) (hlow.resolve_left (by omega)))
  · have hcell := holds_unique h ⟨hlow, .inr hbelow⟩ (holds_cell h hv)
    rw [hcell] at hle ⊢
    exact (min_eq_right hle).symm

/-- **Going up** from there ends at the cell of the value. -/
theorem val_ascend_descend (h : a.NonDecreasing) (hv : v ≤ v) (k : Fin a.cells) :
    (a.ascend v (a.descend v k k.isLt)).val = a.cell v :=
  congrArg Fin.val (correct_eq_cell h hv k)

/-- **The correction of a guess**, on edges that never fall and for any value that is a number,
however far beyond the edges. One cell has its lower edge at or below the value, if it is not the
first one, and its upper edge above it, if it is not the last one. From any guess the first loop goes
down by as many cells as the guess is above that cell, and the second loop then goes up by as many as
it was below: so one of them does not start, no edge is missing, and both end at that cell. A greater
value is in no lower cell. -/
theorem cell_spec (h : a.NonDecreasing) (hv : v ≤ v) :
    (∀ k, a.Holds v k ↔ k = a.cell v) ∧
    (∀ guess : Fin a.cells, a.correct v guess = a.cell v ∧
      a.descend? v (guess - a.cell v) guess = some (min guess.val (a.cell v).val) ∧
      a.ascend? v (a.cell v - guess) (min guess.val (a.cell v).val) = some (a.cell v).val) ∧
    ∀ u, u ≤ v → a.cell u ≤ a.cell v := by
  refine ⟨fun k => ⟨fun hk => holds_unique h hk (holds_cell h hv), ?_⟩,
    fun guess => ⟨correct_eq_cell h hv guess, ?_, ?_⟩, fun u huv => cell_le_cell h huv⟩
  · rintro rfl
    exact holds_cell h hv
  · rw [descend?_eq _ _ guess.isLt, val_descend h hv]
    exact if_pos (by omega)
  · rw [← val_descend h hv guess, ascend?_eq, val_ascend_descend h hv, val_descend h hv]
    exact if_pos (by omega)

/-- Four edges of which two are equal, and a value above all numbers. -/
theorem cell_spec_repeatedEdge :
    let a : Axis Float := { edges := #[0, 1, 1, 3], two_le_size := by decide }
    let infinity : Float := 1 / 0
    a.NonDecreasing ∧ infinity ≤ infinity ∧ (2 : Float) ≤ infinity ∧
      a.ascend? infinity 2 0 = some 2 ∧ a.cell 2 ≤ a.cell infinity := by
  intro a infinity
  have h : a.NonDecreasing := by decide +kernel
  have hv : infinity ≤ infinity := by decide +kernel
  have hle : (2 : Float) ≤ infinity := by decide +kernel
  have hcell : a.cell infinity = ⟨2, by decide⟩ := by decide +kernel
  obtain ⟨-, hloops, hmono⟩ := cell_spec h hv
  have hup := (hloops ⟨0, by decide⟩).2.2
  rw [hcell] at hup
  exact ⟨h, hv, hle, hup, hmono 2 hle⟩

end SpatialAccess.Axis
