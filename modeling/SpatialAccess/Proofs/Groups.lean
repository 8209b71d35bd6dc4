import Mathlib.Algebra.Order.Ring.Nat
import Mathlib.Data.List.Induction
import Mathlib.Data.List.Nodup
import Mathlib.Data.List.Sort
import Mathlib.Data.List.SplitBy
import Std.Data.TreeMap

/-!
# Lists told apart by a key

* `take_drop_eq_filter`: in a sorted list what has one key lies together, behind all that has a
  smaller key.
  `splitBy_eq_map_filter`: so its runs are its groups under the keys that it has.
* `filter_mergeSort`: sorting keeps the order of what has the same key. `mergeSort_eq_of_perm`: if
  no two items have the same key, there is one way to sort them.
* **`flatMap_filter_perm`**: the groups of a list under different keys have together what has one of
  these keys.
* `pairwise_idxOf_eraseDups`, `nodup_eraseDups`: the different items of a list come in the order in
  which they first appear.
* `toList_eq_filterMap_keys`: a map is listed by its look-ups under all its keys, in their order.
* `lastValue?`: the value that entries give to a key last. `lastValue?_concat`: an entry more.
  `isSome_lastValue?_iff`: which keys have one.
-/

namespace SpatialAccess

/-! ## Sorted lists -/

section Sorted

variable {β : Type} {key : β → ℕ} {xs : List β}

/-- A sorted list goes through smaller keys, one key, and greater keys. -/
theorem filter_append_filter_append_filter (h : xs.Pairwise (key · ≤ key ·)) (u : ℕ) :
    xs.filter (key · < u) ++ (xs.filter (key · = u) ++ xs.filter (u < key ·)) = xs := by
  induction xs with
  | nil => rfl
  | cons x xs ih =>
    obtain ⟨hx, hxs⟩ := List.pairwise_cons.1 h
    have ih := ih hxs
    obtain hlt | rfl | hgt := Nat.lt_trichotomy (key x) u
    · simpa [List.filter_cons, hlt, Nat.ne_of_lt hlt, Nat.lt_asymm hlt] using ih
    · have hless : xs.filter (key · < key x) = [] :=
        List.filter_eq_nil_iff.2 fun y hy => by simpa using hx y hy
      simpa [List.filter_cons, hless] using ih
    · have hless : xs.filter (key · < u) = [] :=
        List.filter_eq_nil_iff.2 fun y hy => by have := hx y hy; simp; omega
      have hsame : xs.filter (key · = u) = [] :=
        List.filter_eq_nil_iff.2 fun y hy => by have := hx y hy; simp; omega
      simpa [List.filter_cons, hgt, Nat.ne_of_gt hgt, Nat.lt_asymm hgt, hless, hsame] using ih

theorem take_drop_eq_filter (h : xs.Pairwise (key · ≤ key ·)) (u : ℕ) :
    (xs.drop (xs.countP (key · < u))).take (xs.countP (key · = u)) = xs.filter (key · = u) := by
  have hdrop := congrArg (List.drop (xs.filter (key · < u)).length)
    (filter_append_filter_append_filter h u)
  rw [List.drop_left] at hdrop
  rw [List.countP_eq_length_filter, List.countP_eq_length_filter, ← hdrop, List.take_left]

theorem decide_le_trans (x y z : β) (hxy : decide (key x ≤ key y) = true)
    (hyz : decide (key y ≤ key z) = true) : decide (key x ≤ key z) = true := by
  simp only [decide_eq_true_eq] at hxy hyz ⊢
  exact Nat.le_trans hxy hyz

theorem decide_le_total (x y : β) : (decide (key x ≤ key y) || decide (key y ≤ key x)) = true := by
  simpa using Nat.le_total (key x) (key y)

theorem pairwise_mergeSort_key (xs : List β) :
    (xs.mergeSort fun x y => key x ≤ key y).Pairwise (key · ≤ key ·) := by
  simpa only [decide_eq_true_eq] using List.pairwise_mergeSort decide_le_trans decide_le_total xs

/-- **Sorting keeps the order of what has the same key.** -/
theorem filter_mergeSort (xs : List β) (u : ℕ) :
    (xs.mergeSort fun x y => key x ≤ key y).filter (key · = u) = xs.filter (key · = u) := by
  have hsame : (xs.filter (key · = u)).Pairwise fun x y => decide (key x ≤ key y) = true := by
    rw [List.pairwise_filter]
    refine List.pairwise_of_forall fun x y hx hy => ?_
    simp only [decide_eq_true_eq] at hx hy ⊢
    omega
  have hsub := (List.sublist_mergeSort decide_le_trans decide_le_total hsame
    List.filter_sublist).filter (key · = u)
  rw [List.filter_filter] at hsub
  simp only [Bool.and_self] at hsub
  exact (hsub.eq_of_length ((List.mergeSort_perm xs _).filter _).length_eq.symm).symm

theorem countP_lt_succ (xs : List β) (u : ℕ) :
    xs.countP (key · < u + 1) = xs.countP (key · < u) + xs.countP (key · = u) := by
  induction xs with
  | nil => rfl
  | cons x xs ih =>
    simp only [List.countP_cons, ih, decide_eq_true_eq]
    obtain hlt | rfl | hgt := Nat.lt_trichotomy (key x) u
    · rw [if_pos hlt, if_pos (Nat.lt_succ_of_lt hlt), if_neg (Nat.ne_of_lt hlt)]
      omega
    · rw [if_pos rfl, if_pos (Nat.lt_succ_self _), if_neg (Nat.lt_irrefl _)]
      omega
    · rw [if_neg (Nat.not_lt.2 hgt), if_neg (Nat.ne_of_gt hgt), if_neg (Nat.lt_asymm hgt)]
      omega

/-- In a sorted list the groups under ascending keys follow each other, and between them they have
what has one of these keys. -/
theorem flatMap_filter_of_pairwise (h : xs.Pairwise (key · ≤ key ·)) {ks : List ℕ}
    (hks : ks.Pairwise (· < ·)) :
    (ks.flatMap fun k => xs.filter (key · = k)) = xs.filter (key · ∈ ks) := by
  induction ks with
  | nil => simp
  | cons k ks ih =>
    obtain ⟨hk, hks⟩ := List.pairwise_cons.1 hks
    -- what has one of the keys has none below the first one, and above it one of the others
    have hsplit := filter_append_filter_append_filter (h.filter (key · ∈ k :: ks)) k
    simp only [List.filter_filter] at hsplit
    have hless : (xs.filter fun x => decide (key x < k) && decide (key x ∈ k :: ks)) = [] :=
      List.filter_eq_nil_iff.2 fun x _ => by grind
    have hfirst : (xs.filter fun x => decide (key x = k) && decide (key x ∈ k :: ks)) =
        xs.filter (key · = k) :=
      List.filter_congr fun x _ => by grind
    have hothers : (xs.filter fun x => decide (k < key x) && decide (key x ∈ k :: ks)) =
        xs.filter (key · ∈ ks) :=
      List.filter_congr fun x _ => by grind
    rw [hless, hfirst, hothers] at hsplit
    rw [List.flatMap_cons, ih hks, ← hsplit, List.nil_append]

/-- **The runs of a sorted list** are its groups under the keys that it has, in their order. -/
theorem splitBy_eq_map_filter (h : xs.Pairwise (key · ≤ key ·)) {ks : List ℕ}
    (hks : ks.Pairwise (· < ·)) (hmem : ∀ k, k ∈ ks ↔ ∃ x ∈ xs, key x = k) :
    (xs.splitBy fun x y => key x == key y) = ks.map fun k => xs.filter (key · = k) := by
  have hflatten : (ks.map fun k => xs.filter (key · = k)).flatten = xs := by
    rw [← List.flatMap_def, flatMap_filter_of_pairwise h hks, List.filter_eq_self]
    exact fun x hx => decide_eq_true ((hmem _).2 ⟨x, hx, rfl⟩)
  have hkey : ∀ {k x}, x ∈ xs.filter (key · = k) → key x = k := fun hx =>
    of_decide_eq_true (List.mem_filter.1 hx).2
  have hne : ∀ k ∈ ks, xs.filter (key · = k) ≠ [] := by
    intro k hk
    obtain ⟨x, hx, hxk⟩ := (hmem k).1 hk
    exact List.ne_nil_of_mem (List.mem_filter.2 ⟨hx, decide_eq_true hxk⟩)
  rw [List.splitBy_eq_iff]
  refine ⟨hflatten.symm, fun hnil => ?_, fun group hgroup => ?_, ?_⟩
  · obtain ⟨k, hk, heq⟩ := List.mem_map.1 hnil
    exact hne k hk heq
  · obtain ⟨k, -, rfl⟩ := List.mem_map.1 hgroup
    refine (List.pairwise_of_forall_mem_list fun x hx y hy => ?_).isChain
    rw [hkey hx, hkey hy, beq_self_eq_true]
  · rw [List.isChain_map]
    refine (hks.imp_of_mem fun {k k'} hk hk' hlt => ?_).isChain
    refine ⟨hne k hk, hne k' hk', ?_⟩
    rw [hkey (List.getLast_mem _), hkey (List.head_mem _), beq_eq_false_iff_ne]
    exact Nat.ne_of_lt hlt

/-- There is one way to sort items by different keys. -/
theorem mergeSort_eq_of_perm {ys : List β} (h : xs.Perm ys) (hys : ys.Pairwise (key · < key ·)) :
    (xs.mergeSort fun x y => key x ≤ key y) = ys := by
  have hperm : (xs.mergeSort fun x y => key x ≤ key y).Perm ys := (List.mergeSort_perm _ _).trans h
  have hkeys : (ys.map key).Nodup := (List.pairwise_map.2 hys).imp Nat.ne_of_lt
  refine hperm.eq_of_pairwise (fun x y hx hy hxy hyx => ?_) (pairwise_mergeSort_key xs)
    (hys.imp Nat.le_of_lt)
  exact List.inj_on_of_nodup_map hkeys (hperm.subset hx) hy (Nat.le_antisymm hxy hyx)

end Sorted

/-! ## Groups -/

section Groups

variable {β κ : Type}

/-- **The groups of a list** under different keys have together what has one of these keys. -/
theorem flatMap_filter_perm [DecidableEq κ] (key : β → κ) {ks : List κ} (h : ks.Nodup)
    (xs : List β) :
    (ks.flatMap fun k => xs.filter (key · = k)).Perm (xs.filter (key · ∈ ks)) := by
  induction ks with
  | nil => simp
  | cons k ks ih =>
    obtain ⟨hk, hks⟩ := List.nodup_cons.1 h
    -- what has one of the keys has the first one, or it does not
    have hsplit := List.filter_append_perm (key · = k) (xs.filter (key · ∈ k :: ks))
    rw [List.filter_filter, List.filter_filter] at hsplit
    have hfirst : (xs.filter fun x => decide (key x = k) && decide (key x ∈ k :: ks)) =
        xs.filter (key · = k) :=
      List.filter_congr fun x _ => by grind
    have hothers : (xs.filter fun x => !decide (key x = k) && decide (key x ∈ k :: ks)) =
        xs.filter (key · ∈ ks) :=
      List.filter_congr fun x _ => by grind
    rw [hfirst, hothers] at hsplit
    rw [List.flatMap_cons]
    exact ((ih hks).append_left _).trans hsplit

/-! ## First appearances -/

theorem eraseDups_concat [DecidableEq β] (xs : List β) (x : β) :
    (xs ++ [x]).eraseDups = if x ∈ xs then xs.eraseDups else xs.eraseDups ++ [x] := by
  rw [List.eraseDups_append, List.removeAll, List.filter_singleton]
  by_cases hx : x ∈ xs
  · simp [hx]
  · simp [hx, List.eraseDups_cons]

/-- **The different items of a list** come in the order in which they first appear. -/
theorem pairwise_idxOf_eraseDups [DecidableEq β] (xs : List β) :
    xs.eraseDups.Pairwise fun x y => xs.idxOf x < xs.idxOf y := by
  induction xs using List.reverseRecOn with
  | nil => simp
  | append_singleton xs x ih =>
    have hmem : ∀ {y}, y ∈ xs.eraseDups → (xs ++ [x]).idxOf y = xs.idxOf y := fun hy =>
      List.idxOf_append_of_mem (List.mem_eraseDups.1 hy)
    have hold : xs.eraseDups.Pairwise fun y z => (xs ++ [x]).idxOf y < (xs ++ [x]).idxOf z :=
      ih.imp_of_mem fun hy hz hlt => by rwa [hmem hy, hmem hz]
    rw [eraseDups_concat]
    split
    · exact hold
    · next hx =>
      refine List.pairwise_append.2 ⟨hold, List.pairwise_singleton _ _, fun y hy z hz => ?_⟩
      rw [List.mem_singleton.1 hz, hmem hy, List.idxOf_append_of_notMem hx]
      exact Nat.lt_add_right _ (List.idxOf_lt_length_iff.2 (List.mem_eraseDups.1 hy))

theorem nodup_eraseDups [DecidableEq β] (xs : List β) : xs.eraseDups.Nodup :=
  (pairwise_idxOf_eraseDups xs).imp fun {x y} hlt (heq : x = y) => by
    rw [heq] at hlt
    exact Nat.lt_irrefl _ hlt

end Groups

/-! ## Maps -/

/-- **A map is listed by its look-ups** under keys that ascend, if all its keys are among them. -/
theorem toList_eq_filterMap_keys {β : Type} {map : Std.TreeMap ℕ β} {keys : List ℕ}
    (hkeys : keys.Pairwise (· < ·)) (h : ∀ k v, map[k]? = some v → k ∈ keys) :
    map.toList = keys.filterMap fun k => map[k]?.map fun v => (k, v) := by
  have hordered : map.toList.Pairwise (·.1 < ·.1) :=
    Std.TreeMap.ordered_keys_toList.imp fun h => Nat.compare_eq_lt.1 h
  have hlisted : (keys.filterMap fun k => map[k]?.map fun v => (k, v)).Pairwise (·.1 < ·.1) := by
    refine hkeys.filterMap _ fun k k' hlt e he e' he' => ?_
    obtain ⟨_, -, rfl⟩ := Option.map_eq_some_iff.1 he
    obtain ⟨_, -, rfl⟩ := Option.map_eq_some_iff.1 he'
    exact hlt
  have : Std.Irrefl fun e e' : ℕ × β => e.1 < e'.1 := ⟨fun e => Nat.lt_irrefl e.1⟩
  have : Std.Antisymm fun e e' : ℕ × β => e.1 < e'.1 :=
    ⟨fun _ _ hlt hgt => absurd hgt (Nat.lt_asymm hlt)⟩
  refine hordered.eq_of_mem_iff hlisted fun ⟨k, v⟩ => ?_
  rw [Std.TreeMap.mem_toList_iff_getElem?_eq_some, List.mem_filterMap]
  constructor
  · intro hv
    exact ⟨k, h k v hv, by rw [hv]; rfl⟩
  · rintro ⟨_, -, he⟩
    obtain ⟨_, hv, heq⟩ := Option.map_eq_some_iff.1 he
    cases heq
    exact hv

/-! ## Last values -/

section Last

variable {β κ : Type} [DecidableEq κ]

/-- The value that entries give to a key last. -/
def lastValue? (entries : List (κ × β)) (k : κ) : Option β :=
  ((entries.filter (·.1 = k)).getLast?).map Prod.snd

/-- The last entry tells the value of its key. -/
theorem lastValue?_concat (entries : List (κ × β)) (e : κ × β) (k : κ) :
    lastValue? (entries ++ [e]) k = if e.1 = k then some e.2 else lastValue? entries k := by
  rw [lastValue?, List.filter_append, List.getLast?_append]
  by_cases he : e.1 = k <;> simp [he, lastValue?]

/-- A key has a value just if there is an entry for it. -/
theorem isSome_lastValue?_iff {entries : List (κ × β)} {k : κ} :
    (lastValue? entries k).isSome = true ↔ k ∈ entries.map Prod.fst := by
  rw [lastValue?, Option.isSome_map, List.getLast?_isSome, Ne, List.filter_eq_nil_iff]
  simp

theorem mem_of_lastValue? {entries : List (κ × β)} {k : κ} {v : β}
    (h : lastValue? entries k = some v) : (k, v) ∈ entries := by
  obtain ⟨e, he, rfl⟩ := Option.map_eq_some_iff.1 h
  obtain ⟨hmem, hkey⟩ := List.mem_filter.1 (List.mem_of_getLast? he)
  exact of_decide_eq_true hkey ▸ hmem

end Last

end SpatialAccess
