import SpatialAccess.Proofs.Outcome
import SpatialAccess.Surface.Basic

/-!
# Setting values and densities

* `Surface.slot_lt`, `Surface.slot?_inj`, `Surface.exists_slot?_iff`: the places of modes in a row.
* `Surface.exec_insertM`, `Surface.exec_setDensityM`: what the calls that fill in a surface give and
  leave. `Surface.atomic_insertM`, `Surface.atomic_setDensityM`: refused ones change nothing.
* **`Surface.insertM_eq_error_iff`**, `Surface.setDensityM_eq_error_iff`: which calls are refused, and
  why. `Surface.insert_eq_ok_iff`, `Surface.setDensity_eq_ok_iff`: what becomes of the others.
-/

namespace SpatialAccess.Surface

variable {α : Type} {s s' : Surface α}

/-! ## Places of modes -/

theorem slot_lt {mode : Mode} {slot : ℕ} (h : s.slot? mode = some slot) :
    slot < s.modes.length := by
  obtain ⟨hlt, -⟩ := List.idxOf?_eq_some_iff.1 h
  exact hlt

theorem slot?_inj {mode mode' : Mode} {slot : ℕ} (h : s.slot? mode = some slot)
    (h' : s.slot? mode' = some slot) : mode = mode' := by
  obtain ⟨_, hmode, -⟩ := List.idxOf?_eq_some_iff.1 h
  obtain ⟨_, hmode', -⟩ := List.idxOf?_eq_some_iff.1 h'
  exact hmode.symm.trans hmode'

theorem exists_slot?_iff {mode : Mode} : (∃ slot, s.slot? mode = some slot) ↔ mode ∈ s.modes := by
  rw [← Option.isSome_iff_exists, slot?, List.isSome_idxOf?]

theorem get?_of_slot? (id : PointId) {mode : Mode} {slot : ℕ} (h : s.slot? mode = some slot) :
    s.get? id mode = (s.values[s.cell id slot]?).join := by
  rw [get?, h]
  rfl

/-! ## Values -/

section Insert

variable {point : PointId} {mode : Mode} {value : α}

theorem exec_insertM (s : Surface α) :
    (insertM point mode value).exec s =
      match s.slot? mode with
      | none => (.error (.modeNotEnabled mode), s)
      | some slot =>
        if s.points.size ≤ point.index then (.error (.unknownPoint point), s)
        else if (s.values[s.cell point slot]?).join.isSome then
          (.error (.duplicateValue point mode), s)
        else
          (.ok ⟨⟩, { s with values := s.values.setIfInBounds (s.cell point slot) (some value) }) := by
  rw [insertM, ExceptT.exec_get_bind]
  cases s.slot? mode with
  | none => rfl
  | some slot =>
    dsimp only
    rw [ExceptT.exec_get_bind]
    split
    · rfl
    · rw [ExceptT.exec_get_bind, ExceptT.exec_get_bind]
      split <;> rfl

theorem atomic_insertM : (insertM point mode value).Atomic := by
  intro s e he
  rw [exec_insertM] at he ⊢
  split
  · rfl
  · split
    · rfl
    · split
      · rfl
      · simp_all

/-- **A value is refused** for a mode that is not asked for, for a point that is not there, and where
there is a value already. -/
theorem insertM_eq_error_iff {e : SurfaceError α} :
    ((insertM point mode value).exec s).1 = .error e ↔
      (mode ∉ s.modes ∧ e = .modeNotEnabled mode) ∨
      (mode ∈ s.modes ∧ s.points.size ≤ point.index ∧ e = .unknownPoint point) ∨
      (mode ∈ s.modes ∧ point.index < s.points.size ∧ (∃ v, s.get? point mode = some v) ∧
        e = .duplicateValue point mode) := by
  rw [← exists_slot?_iff, exec_insertM]
  cases hslot : s.slot? mode with
  | none => simp [eq_comm]
  | some slot =>
    dsimp only
    rw [get?_of_slot? point hslot]
    by_cases hpoint : s.points.size ≤ point.index
    · simp [hpoint, Nat.not_lt.2 hpoint, eq_comm]
    · cases hvalue : (s.values[s.cell point slot]?).join with
      | none => simp [hpoint]
      | some v => simp [hpoint, Nat.lt_of_not_le hpoint, eq_comm]

theorem insert_eq_ok_iff : s.insert point mode value = .ok s' ↔
    ∃ slot, s.slot? mode = some slot ∧ point.index < s.points.size ∧ s.get? point mode = none ∧
      s' = { s with values := s.values.setIfInBounds (s.cell point slot) (some value) } := by
  rw [insert, ExceptT.leave_eq_ok_iff, exec_insertM]
  cases hslot : s.slot? mode with
  | none => simp
  | some slot =>
    dsimp only
    rw [get?_of_slot? point hslot]
    by_cases hpoint : s.points.size ≤ point.index
    · simp [hpoint, Nat.not_lt.2 hpoint]
    · cases hvalue : (s.values[s.cell point slot]?).join with
      | none => simp [hpoint, Nat.lt_of_not_le hpoint, eq_comm]
      | some v => simp [hpoint]

end Insert

/-! ## Densities -/

section Density

variable {density : Array α}

theorem exec_setDensityM (s : Surface α) :
    (setDensityM density).exec s =
      if density.size ≠ s.points.size then
        (.error (.data (.densityLength density.size s.points.size)), s)
      else (.ok ⟨⟩, { s with density }) := by
  rw [setDensityM, ExceptT.exec_get_bind]
  split <;> rfl

theorem atomic_setDensityM : (setDensityM density).Atomic := by
  intro s e he
  rw [exec_setDensityM] at he ⊢
  split
  · rfl
  · simp_all

theorem setDensityM_eq_error_iff {e : SurfaceError α} :
    ((setDensityM density).exec s).1 = .error e ↔
      density.size ≠ s.points.size ∧ e = .data (.densityLength density.size s.points.size) := by
  rw [exec_setDensityM]
  split <;> simp_all [eq_comm]

theorem setDensity_eq_ok_iff :
    s.setDensity density = .ok s' ↔ density.size = s.points.size ∧ s' = { s with density } := by
  rw [setDensity, ExceptT.leave_eq_ok_iff, exec_setDensityM]
  split <;> simp_all [eq_comm]

end Density

end SpatialAccess.Surface
