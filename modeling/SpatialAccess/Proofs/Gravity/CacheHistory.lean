import Mathlib.Data.Finset.Card
import Mathlib.Data.List.DropRight
import SpatialAccess.Proofs.Gravity.CachedScore
import SpatialAccess.Proofs.Groups

/-!
# What a cache remembers

Whatever a cache forgets it forgets twice: its store is emptied, and what is stored later goes under
another version. Both have to keep step, or a look-up would miss what is in the store, and the size
would count what no look-up finds.

* `CacheCall`: what a cache can be asked for. `CacheCall.apply`: its answer, and what becomes of the
  cache.
* `CacheCall.lastLayout?`, `CacheCall.drops`, `CacheCall.dropCount`, `CacheCall.remembered`: what
  calls amount to, told from the calls alone.
* `UtilityCache.Follows`: a cache is what calls have made of it. **`UtilityCache.Follows.apply`**: a
  call keeps this up.
* `UtilityCache.Follows.size_eq`: the size counts persons, since the store holds one version only.
* **`UtilityCache.answers_after_calls`**: what a cache answers behind any calls.
-/

namespace SpatialAccess

variable {α : Type}

/-- What a cache can be asked for. -/
inductive CacheCall (α : Type) where
  | sync (layout : List LinkId)
  | invalidate
  | insert (person : PersonId) (value : α)
  | get (person : PersonId)

/-- What a cache answers. -/
inductive CacheAnswer (α : Type) where
  | done
  /-- Whether the layout was another one before. -/
  | changed (differs : Bool)
  | found (value : Option α)

namespace CacheCall

/-- The answer to a call, and what becomes of the cache. -/
def apply (c : UtilityCache α) : CacheCall α → CacheAnswer α × UtilityCache α
  | sync layout => (.changed (c.isStale layout), c.sync layout)
  | invalidate => (.done, c.invalidate)
  | insert person value => (.done, c.insert person value)
  | get person => (.found (c.get? person), c)

/-! ## What calls amount to -/

/-- The layout that a call makes the current one. -/
def layout? : CacheCall α → Option (List LinkId)
  | sync layout => some layout
  | invalidate | insert _ _ | get _ => none

/-- What a call has remembered. -/
def entry? : CacheCall α → Option (PersonId × α)
  | insert person value => some (person, value)
  | sync _ | invalidate | get _ => none

/-- The layout that calls have made the current one last. -/
def lastLayout? (calls : List (CacheCall α)) : Option (List LinkId) :=
  (calls.filterMap layout?).getLast?

/-- Whether a call has everything dropped, given the calls before it: one for a layout does if that is
not the layout of the last such call. -/
def drops (before : List (CacheCall α)) : CacheCall α → Bool
  | sync layout => lastLayout? before ≠ some layout
  | invalidate => true
  | insert _ _ | get _ => false

/-- Every call with the calls before it. -/
def placed (calls : List (CacheCall α)) : List (List (CacheCall α) × CacheCall α) :=
  calls.zipIdx.map fun (call, k) => (calls.take k, call)

/-- How often calls have had everything dropped. -/
def dropCount (calls : List (CacheCall α)) : ℕ :=
  (placed calls).countP fun (before, call) => call.drops before

/-- What calls have had remembered since they last had everything dropped. -/
def remembered (calls : List (CacheCall α)) : List (PersonId × α) :=
  ((placed calls).rtakeWhile fun (before, call) => !call.drops before).filterMap
    fun (_, call) => call.entry?

theorem lastLayout?_concat (calls : List (CacheCall α)) (call : CacheCall α) :
    lastLayout? (calls ++ [call]) = call.layout?.or (lastLayout? calls) := by
  rw [lastLayout?, List.filterMap_append, List.getLast?_append]
  cases call <;> rfl

theorem placed_concat (calls : List (CacheCall α)) (call : CacheCall α) :
    placed (calls ++ [call]) = placed calls ++ [(calls, call)] := by
  have hbefore : ∀ p ∈ calls.zipIdx, ((calls ++ [call]).take p.2, p.1) = (calls.take p.2, p.1) := by
    intro p hp
    rw [List.take_append_of_le_length (Nat.le_of_lt (List.mem_zipIdx' hp).1)]
  rw [placed, List.zipIdx_append, List.map_append, List.map_congr_left hbefore]
  simp [placed]

theorem dropCount_concat (calls : List (CacheCall α)) (call : CacheCall α) :
    dropCount (calls ++ [call]) = dropCount calls + if call.drops calls then 1 else 0 := by
  rw [dropCount, placed_concat, List.countP_append, List.countP_singleton, dropCount]

theorem remembered_concat (calls : List (CacheCall α)) (call : CacheCall α) :
    remembered (calls ++ [call]) =
      if call.drops calls then [] else remembered calls ++ call.entry?.toList := by
  rw [remembered, placed_concat]
  cases hdrops : call.drops calls with
  | true => simp [hdrops]
  | false =>
    rw [List.rtakeWhile_concat_pos _ _ _ (by simp [hdrops]), List.filterMap_append]
    cases call <;> rfl

end CacheCall

namespace UtilityCache

open CacheCall

/-- What becomes of a cache in the course of calls. -/
def after (c : UtilityCache α) (calls : List (CacheCall α)) : UtilityCache α :=
  calls.foldl (fun c call => (call.apply c).2) c

/-- A cache is what calls have made of it; all that it has in store belongs to its version. -/
structure Follows (c : UtilityCache α) (calls : List (CacheCall α)) : Prop where
  layout_eq : c.layout = lastLayout? calls
  version_eq : c.version = dropCount calls
  current : ∀ key ∈ c.values, key.2 = c.version
  get?_eq : ∀ person, c.get? person = lastValue? (remembered calls) person

variable {c c' : UtilityCache α} {calls : List (CacheCall α)}

theorem follows_nil : Follows ({} : UtilityCache α) [] where
  layout_eq := rfl
  version_eq := rfl
  current _ hkey := absurd hkey Std.HashMap.not_mem_empty
  get?_eq _ := Std.HashMap.getElem?_empty

theorem isStale_eq (c : UtilityCache α) (layout : List LinkId) :
    c.isStale layout = decide (c.layout ≠ some layout) := by
  rw [isStale, Bool.eq_iff_iff, bne_iff_ne, decide_eq_true_iff]

/-- A call that has everything dropped begins a version of which nothing is in store. -/
theorem Follows.drop (h : c.Follows calls) {call : CacheCall α} (hdrops : call.drops calls = true)
    (hlayout : c'.layout = call.layout?.or c.layout) (hversion : c'.version = c.version + 1)
    (hvalues : c'.values = {}) : c'.Follows (calls ++ [call]) where
  layout_eq := by rw [hlayout, lastLayout?_concat, h.layout_eq]
  version_eq := by rw [hversion, dropCount_concat, if_pos hdrops, h.version_eq]
  current key hkey := by
    rw [hvalues] at hkey
    exact absurd hkey Std.HashMap.not_mem_empty
  get?_eq person := by
    rw [remembered_concat, if_pos hdrops, get?, hvalues, Std.HashMap.getElem?_empty]
    rfl

/-- A call that has nothing dropped and nothing remembered changes nothing. -/
theorem Follows.keep (h : c.Follows calls) {call : CacheCall α} (hdrops : call.drops calls = false)
    (hlayout : call.layout?.or c.layout = c.layout) (hentry : call.entry? = none) :
    c.Follows (calls ++ [call]) where
  layout_eq := by rw [lastLayout?_concat, ← h.layout_eq, hlayout]
  version_eq := by rw [dropCount_concat, hdrops, h.version_eq]; rfl
  current := h.current
  get?_eq person := by rw [remembered_concat, hdrops, hentry, h.get?_eq]; simp

/-- To remember a value puts it in store under the current version. -/
theorem Follows.insert (h : c.Follows calls) (person : PersonId) (value : α) :
    (c.insert person value).Follows (calls ++ [.insert person value]) where
  layout_eq := by rw [lastLayout?_concat]; exact h.layout_eq
  version_eq := by rw [dropCount_concat]; exact h.version_eq
  current key hkey := by
    obtain hsame | hkey := Std.HashMap.mem_insert.1 hkey
    · rw [← eq_of_beq hsame]
      rfl
    · exact h.current key hkey
  get?_eq other := by
    rw [get?_insert, h.get?_eq, remembered_concat]
    exact (lastValue?_concat (remembered calls) (person, value) other).symm

/-- **A call keeps a cache in step with its calls.** -/
theorem Follows.apply (h : c.Follows calls) (call : CacheCall α) :
    (call.apply c).2.Follows (calls ++ [call]) := by
  cases call with
  | sync layout =>
    by_cases hlayout : c.layout = some layout
    · have hsame : c.sync layout = c := sync_of_layout_eq hlayout
      have hdrops : (CacheCall.sync layout).drops calls = false := by
        simp [drops, ← h.layout_eq, hlayout]
      simp only [CacheCall.apply, hsame]
      exact h.keep hdrops hlayout.symm rfl
    · have hother : c.sync layout = { c with layout := some layout }.invalidate := by
        rw [UtilityCache.sync, isStale_eq, if_pos (decide_eq_true hlayout)]
      have hdrops : (CacheCall.sync layout).drops calls = true := by
        simp [drops, ← h.layout_eq, hlayout]
      simp only [CacheCall.apply, hother]
      exact h.drop hdrops rfl rfl rfl
  | invalidate => exact h.drop rfl rfl rfl rfl
  | insert person value => exact h.insert person value
  | get person => exact h.keep rfl rfl rfl

/-- **A cache follows the calls that it was asked for**, from an empty one on. -/
theorem follows_after (calls : List (CacheCall α)) : (after {} calls).Follows calls := by
  induction calls using List.reverseRecOn with
  | nil => exact follows_nil
  | append_singleton calls call ih =>
    rw [after, List.foldl_concat]
    exact ih.apply call

/-! ## The size -/

theorem Follows.mem_iff (h : c.Follows calls) (person : PersonId) :
    (person, c.version) ∈ c.values ↔ person ∈ (remembered calls).map Prod.fst := by
  rw [Std.HashMap.mem_iff_isSome_getElem?, ← isSome_lastValue?_iff, ← h.get?_eq]
  rfl

/-- **The size of a cache** is the number of persons that have a value. -/
theorem Follows.size_eq (h : c.Follows calls) :
    c.size = ((remembered calls).map Prod.fst).toFinset.card := by
  -- of one version no two entries in store belong to the same person
  have hkeys : c.values.keys.Nodup := Std.HashMap.nodup_keys
  have hnodup : (c.values.keys.map Prod.fst).Nodup := by
    refine hkeys.map_on fun key hkey key' hkey' hperson => Prod.ext hperson ?_
    rw [h.current key (Std.HashMap.mem_keys.1 hkey), h.current key' (Std.HashMap.mem_keys.1 hkey')]
  have hpersons : (c.values.keys.map Prod.fst).toFinset =
      ((remembered calls).map Prod.fst).toFinset := by
    ext person
    rw [List.mem_toFinset, List.mem_toFinset, ← h.mem_iff, List.mem_map]
    constructor
    · rintro ⟨key, hkey, rfl⟩
      have hmem := Std.HashMap.mem_keys.1 hkey
      rwa [← h.current key hmem]
    · exact fun hmem => ⟨_, Std.HashMap.mem_keys.2 hmem, rfl⟩
  rw [← hpersons, List.toFinset_card_of_nodup hnodup, List.length_map, Std.HashMap.length_keys]
  rfl

/-- **What a cache answers.** Behind any calls, one for a layout is told that it was another one
before just if the last layout asked for differs, or if there was none. The version counts how often
everything was dropped, at such a change or on demand. The value of a person is the last one
remembered since then, if there is one, and the size counts the persons that have one. -/
theorem answers_after_calls (calls : List (CacheCall α)) :
    let c := after {} calls
    (∀ layout, ((CacheCall.sync layout).apply c).1 =
      .changed (decide (lastLayout? calls ≠ some layout))) ∧
    c.version = dropCount calls ∧
    (∀ person, ((CacheCall.get person).apply c).1 =
      .found (lastValue? (remembered calls) person)) ∧
    c.size = ((remembered calls).map Prod.fst).toFinset.card := by
  intro c
  have h : c.Follows calls := follows_after calls
  refine ⟨fun layout => ?_, h.version_eq, fun person => ?_, h.size_eq⟩
  · rw [← h.layout_eq, ← isStale_eq]
    rfl
  · rw [← h.get?_eq]
    rfl

/-- Two persons under one layout that is asked for twice, a value that is given anew, and a change of
the layout in between. -/
example :
    let calls : List (CacheCall ℕ) := [.sync [⟨0⟩], .insert ⟨4⟩ 1, .sync [⟨2⟩], .insert ⟨4⟩ 2,
      .insert ⟨5⟩ 3, .sync [⟨2⟩], .insert ⟨4⟩ 7]
    dropCount calls = 2 ∧ remembered calls = [(⟨4⟩, 2), (⟨5⟩, 3), (⟨4⟩, 7)] := by
  decide

end UtilityCache

end SpatialAccess
