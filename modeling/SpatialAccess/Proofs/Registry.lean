import Mathlib.Data.List.Nodup
import SpatialAccess.Proofs.Outcome
import SpatialAccess.Registry

/-!
# Creating entities

* `Registry.add`: a registry with an entity at its end. **`Registry.exec_createM`**: creating adds an
  entity unless its label is taken or all identifiers are used up, and then it changes nothing.
* `Registry.Numbered`: entities carry their places as identifiers. New entities and changes that
  leave the identifiers alone keep this up.
* `Registry.Numbered.map_id`, `Registry.Numbered.pairwise_ids`, `Registry.Numbered.nodup_ids`: the
  identifiers of a numbered registry.
-/

namespace SpatialAccess

/-- Changing the last entry of an array. -/
theorem modify_push_size {β : Type} (xs : Array β) (x : β) (change : β → β) :
    (xs.push x).modify xs.size change = xs.push (change x) := by
  refine Array.ext_getElem? fun i => ?_
  rw [Array.getElem?_modify, Array.getElem?_push, Array.getElem?_push]
  by_cases hi : i = xs.size
  · simp [hi]
  · rw [if_neg (Ne.symm hi), if_neg hi, if_neg hi]

namespace Registry

variable {entity : Entity} {β : Type} {r r' : Registry entity β}

/-! ## One entity more -/

/-- A registry with an entity at its end, which has the next identifier. -/
def add (r : Registry entity β) (label : String) (new : Id entity → β) : Registry entity β where
  list := r.list.push (new ⟨r.size⟩)
  byLabel := r.byLabel.insert label ⟨r.size⟩

section Create

variable {kind kinds label : String} {new : Id entity → β}

/-- **Creating an entity** adds it, or is refused and changes nothing. -/
theorem exec_createM (r : Registry entity β) :
    (createM kind kinds label new).exec r =
      if r.byLabel.contains label then (.error (.duplicate kind label), r)
      else if r.size < Id.limit then (.ok ⟨r.size⟩, r.add label new)
      else (.error (.tooMany kinds), r) := by
  rw [createM, ExceptT.exec_get_bind]
  cases r.byLabel.contains label with
  | true => rfl
  | false =>
    by_cases hlimit : r.size < Id.limit
    · simp only [Bool.false_eq_true, if_false, hlimit, if_true]
      rw [ExceptT.exec_get_bind, Id.ofIndex?, if_pos hlimit]
      rfl
    · simp only [Bool.false_eq_true, if_false, hlimit]
      rw [ExceptT.exec_get_bind, Id.ofIndex?, if_neg hlimit]
      rfl

theorem atomic_createM : (createM kind kinds label new).Atomic := by
  intro r e he
  rw [exec_createM] at he ⊢
  split
  · rfl
  · split
    · simp_all
    · rfl

theorem createM_eq_ok_iff {id : Id entity} :
    (createM kind kinds label new).exec r = (.ok id, r') ↔
      r.byLabel.contains label = false ∧ r.size < Id.limit ∧ id = ⟨r.size⟩ ∧
        r' = r.add label new := by
  rw [exec_createM]
  cases r.byLabel.contains label with
  | true => simp
  | false =>
    by_cases hlimit : r.size < Id.limit <;> simp [hlimit, eq_comm]

theorem createM_eq_error_iff {e : CreateError} :
    ((createM kind kinds label new).exec r).1 = .error e ↔
      r.byLabel.contains label = true ∧ e = .duplicate kind label ∨
        r.byLabel.contains label = false ∧ Id.limit ≤ r.size ∧ e = .tooMany kinds := by
  rw [exec_createM]
  cases r.byLabel.contains label with
  | true => simp [eq_comm]
  | false =>
    by_cases hlimit : r.size < Id.limit
    · simp [hlimit, Nat.not_le.2 hlimit]
    · simp [hlimit, Nat.le_of_not_lt hlimit, eq_comm]

end Create

/-! ## Places as identifiers -/

/-- Entities carry their places as identifiers. -/
def Numbered (idOf : β → Id entity) (r : Registry entity β) : Prop :=
  ∀ (i : ℕ) (x : β), r.list[i]? = some x → (idOf x).index = i

namespace Numbered

variable {idOf : β → Id entity} (h : r.Numbered idOf)

include h

theorem push {x : β} (hx : (idOf x).index = r.size) (byLabel : Std.HashMap String (Id entity)) :
    ({ list := r.list.push x, byLabel } : Registry entity β).Numbered idOf := by
  intro i y hy
  rw [Array.getElem?_push] at hy
  split at hy
  · next hi =>
    cases hy
    rw [hi, hx, size]
  · exact h i y hy

theorem modify (i : ℕ) {change : β → β} (hchange : ∀ x, idOf (change x) = idOf x) :
    ({ r with list := r.list.modify i change } : Registry entity β).Numbered idOf := by
  intro j y hy
  rw [Array.getElem?_modify] at hy
  split at hy
  · obtain ⟨x, hx, rfl⟩ := Option.map_eq_some_iff.1 hy
    rw [hchange, h j x hx]
  · exact h j y hy

theorem map_id : r.list.toList.map idOf = (List.range r.size).map Id.mk := by
  refine List.ext_getElem (by simp [size]) fun i hi _ => ?_
  have hlt : i < r.list.size := by simpa using hi
  have hid := h i r.list[i] (Array.getElem?_eq_getElem hlt)
  simpa using Id.ext_index hid

theorem pairwise_ids : (r.list.toList.map idOf).Pairwise fun a b => a.index < b.index := by
  rw [h.map_id, List.pairwise_map]
  exact List.pairwise_lt_range

theorem nodup_ids : (r.list.toList.map idOf).Nodup := by
  rw [h.map_id]
  exact List.Nodup.map (fun _ _ heq => Id.mk.inj heq) List.nodup_range

/-- In a numbered registry entities are found under their own identifiers. -/
theorem getElem?_eq_some_iff {id : Id entity} {x : β} :
    r.list[id.index]? = some x ↔ x ∈ r.list ∧ idOf x = id := by
  constructor
  · intro hx
    exact ⟨Array.mem_of_getElem? hx, Id.ext_index (h _ x hx)⟩
  · rintro ⟨hx, rfl⟩
    obtain ⟨i, hi⟩ := Array.mem_iff_getElem?.1 hx
    rw [h i x hi, hi]

end Numbered

end Registry

end SpatialAccess
