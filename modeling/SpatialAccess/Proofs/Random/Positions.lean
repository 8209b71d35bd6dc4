import SpatialAccess.Proofs.Groups
import SpatialAccess.Random.Sample

/-!
# A number of distinct items

Whatever the words of the stream are, a sample of a given number has that many items and none of
them twice.

* `Draw.Always`: what a draw gives from every stream.
* `Draw.always_scaledWord`: a scaled word stays in its range.
* `Draw.Chosen`: distinct positions below a length. `Draw.always_drawFew`, `Draw.always_drawFront`,
  `Draw.always_shuffleDown`, `Draw.always_drawSparse`: each way of drawing gives them, so
  **`Draw.always_positions`** does.
* `takeAt_zipIdx`, `map_some_pick`: going through the items comes by every position, so what is
  picked is what stands at the positions.
* **`Draw.keepAmountBy_spec`**: a sample is a sublist whose length is the amount, or that of the whole
  list if it is shorter, and it has the items at the positions that were drawn.
-/

namespace SpatialAccess

namespace Draw

variable {β γ : Type}

/-- What holds of all that a draw gives, whatever the stream is. -/
def Always (x : Draw β) (P : β → Prop) : Prop :=
  ∀ s : Stream, P (x.run s).1

theorem always_pure {b : β} {P : β → Prop} (h : P b) : Always (pure b) P :=
  fun _ => h

theorem Always.bind {x : Draw β} {f : β → Draw γ} {P : β → Prop} {Q : γ → Prop} (hx : Always x P)
    (hf : ∀ b, P b → Always (f b) Q) : Always (x >>= f) Q :=
  fun s => hf _ (hx s) _

/-! ## Ranges -/

theorem always_halfWord : Always halfWord (· < 2 ^ 32) := by
  intro s
  have hword : s.next.1.toNat < 2 ^ 64 := s.next.1.toNat_lt
  show s.next.1.toNat / 2 ^ 32 < 2 ^ 32
  omega

theorem always_scaledWord {bits range : ℕ} {draw : Draw ℕ} (hdraw : Always draw (· < 2 ^ bits))
    (hrange : 0 < range) (accept : ℕ → Bool) (tries : ℕ) :
    Always (scaledWord bits range draw accept tries) (· < range) := by
  have hscaled : ∀ word < 2 ^ bits, word * range / 2 ^ bits < range := by
    intro word hword
    rw [Nat.div_lt_iff_lt_mul (Nat.two_pow_pos bits), Nat.mul_comm range]
    exact Nat.mul_lt_mul_of_pos_right hword hrange
  induction tries with
  | zero => exact hdraw.bind fun word hword => always_pure (hscaled word hword)
  | succ tries ih =>
    refine hdraw.bind fun word hword => ?_
    dsimp only
    split
    · exact always_pure (hscaled word hword)
    · exact ih

theorem always_upTo32 {low high : ℕ} (h : low ≤ high) :
    Always (upTo32 low high) fun t => low ≤ t ∧ t ≤ high := by
  refine (always_scaledWord always_halfWord (Nat.succ_pos _) _ _).bind fun t ht => always_pure ?_
  omega

theorem always_upTo64 {low high : ℕ} (h : low ≤ high) :
    Always (upTo64 low high) fun t => low ≤ t ∧ t ≤ high := by
  have hwhole : Always (do return (← word).toNat) (· < 2 ^ 64) := fun s => s.next.1.toNat_lt
  refine (always_scaledWord hwhole (Nat.succ_pos _) _ _).bind fun t ht => always_pure ?_
  omega

theorem always_below32 {range : ℕ} (h : 0 < range) : Always (below32 range) (· < range) :=
  always_scaledWord always_halfWord h _ _

/-! ## Positions -/

/-- Distinct positions below a length. -/
structure Chosen (length amount : ℕ) (positions : List ℕ) : Prop where
  nodup : positions.Nodup
  lt : ∀ t ∈ positions, t < length
  length_eq : positions.length = amount

theorem chosen_nil (length : ℕ) : Chosen length 0 [] :=
  ⟨List.nodup_nil, by simp, rfl⟩

theorem Chosen.perm {length amount : ℕ} {ts ts' : List ℕ} (h : Chosen length amount ts)
    (hperm : ts'.Perm ts) : Chosen length amount ts' :=
  ⟨hperm.nodup_iff.2 h.nodup, fun t ht => h.lt t (hperm.mem_iff.1 ht),
    hperm.length_eq.trans h.length_eq⟩

/-- A new position joins chosen ones, wherever it is put. -/
theorem Chosen.insert {length amount t : ℕ} {ts ts' : List ℕ} (h : Chosen length amount ts)
    (hperm : ts'.Perm (t :: ts)) (hnew : t ∉ ts) (ht : t < length) :
    Chosen length (amount + 1) ts' :=
  Chosen.perm ⟨List.nodup_cons.2 ⟨hnew, h.nodup⟩, List.forall_mem_cons.2 ⟨ht, h.lt⟩,
    congrArg Nat.succ h.length_eq⟩ hperm

theorem Chosen.mono {length length' amount : ℕ} {ts : List ℕ} (h : Chosen length amount ts)
    (hle : length ≤ length') : Chosen length' amount ts :=
  ⟨h.nodup, fun t ht => (h.lt t ht).trans_le hle, h.length_eq⟩

/-- As the upper ends grow by one each, an upper end is new wherever its position is taken. -/
theorem always_drawFew (keepOrder : Bool) (count low amount : ℕ) {taken : List ℕ}
    (h : Chosen low amount taken) :
    Always (drawFew keepOrder ((List.range' low count)) taken)
      (Chosen (low + count) (amount + count)) := by
  induction count generalizing low amount taken with
  | zero => exact always_pure h
  | succ count ih =>
    rw [List.range'_succ, drawFew]
    refine (always_upTo32 (Nat.zero_le low)).bind fun t ht => ?_
    have hlow : low ∉ taken := fun hmem => Nat.lt_irrefl _ (h.lt _ hmem)
    rw [show low + (count + 1) = low + 1 + count by omega,
      show amount + (count + 1) = amount + 1 + count by omega]
    refine ih (low + 1) (amount + 1) ?_
    -- a position that was drawn before gives way to the upper end, which no earlier draw could reach
    split
    · split
      · exact (h.mono (Nat.le_succ low)).insert (List.perm_insertIdx _ _ List.idxOf_le_length) hlow
          (Nat.lt_succ_self low)
      · exact (h.mono (Nat.le_succ low)).insert List.perm_append_comm hlow (Nat.lt_succ_self low)
    · next hnew =>
      exact (h.mono (Nat.le_succ low)).insert List.perm_append_comm (by simpa using hnew) (by omega)

theorem swapIfInBounds_perm (entries : Array ℕ) (i j : ℕ) :
    (entries.swapIfInBounds i j).Perm entries := by
  unfold Array.swapIfInBounds
  split
  · split
    · exact Array.swap_perm _ _
    · exact Array.Perm.refl _
  · exact Array.Perm.refl _

theorem always_shuffleDown (i : ℕ) (entries : Array ℕ) :
    Always (shuffleDown i entries) fun shuffled => shuffled.Perm entries := by
  induction i generalizing entries with
  | zero => exact always_pure (Array.Perm.refl _)
  | succ i ih =>
    refine (always_upTo32 (Nat.zero_le _)).bind fun j _ => ?_
    exact fun s => (ih _ s).trans (swapIfInBounds_perm entries _ j)

theorem always_drawFront (count i : ℕ) {entries : Array ℕ} (h : i + count ≤ entries.size) :
    Always (drawFront count i entries) fun shuffled => shuffled.Perm entries := by
  induction count generalizing i entries with
  | zero => exact always_pure (Array.Perm.refl _)
  | succ count ih =>
    refine (always_upTo32 (by omega)).bind fun j _ => ?_
    have hsize : (entries.swapIfInBounds i j).size = entries.size := by simp
    exact fun s => (ih (i + 1) (by omega) s).trans (swapIfInBounds_perm entries i j)

/-- Fewer positions than there are leave one that is not among them. -/
theorem Chosen.exists_not_mem {length amount : ℕ} {ts : List ℕ} (h : Chosen length amount ts)
    (hlt : amount < length) : ∃ t < length, t ∉ ts := by
  by_contra! hall
  have hsub : List.range length ⊆ ts := fun t ht => hall t (List.mem_range.1 ht)
  have hle := (List.subperm_of_subset List.nodup_range hsub).length_le
  rw [List.length_range, h.length_eq] at hle
  omega

theorem always_drawNew {length amount : ℕ} {taken : List ℕ} (h : Chosen length amount taken)
    (hlt : amount < length) (tries : ℕ) :
    Always (drawNew length taken tries) fun t => t < length ∧ t ∉ taken := by
  induction tries with
  | zero =>
    -- the tries are used up: the least position that is left is taken
    refine always_pure ?_
    obtain ⟨t, ht, hnew⟩ := h.exists_not_mem hlt
    cases hfind : (List.range length).find? fun i => !taken.contains i with
    | none =>
      rw [List.find?_eq_none] at hfind
      exact absurd (hfind t (List.mem_range.2 ht)) (by simpa using hnew)
    | some t' =>
      exact ⟨List.mem_range.1 (List.mem_of_find?_eq_some hfind),
        by simpa using List.find?_some hfind⟩
  | succ tries ih =>
    refine (always_below32 (Nat.zero_lt_of_lt hlt)).bind fun t ht => ?_
    split
    · exact ih
    · next hnew => exact always_pure ⟨ht, by simpa using hnew⟩

theorem always_drawSparse {length : ℕ} (count amount : ℕ) {taken : List ℕ}
    (h : Chosen length amount taken) (hle : amount + count ≤ length) :
    Always (drawSparse length count taken) (Chosen length (amount + count)) := by
  induction count generalizing amount taken with
  | zero => exact always_pure h
  | succ count ih =>
    refine (always_drawNew h (by omega) _).bind fun t ht => ?_
    rw [show amount + (count + 1) = amount + 1 + count by omega] at hle ⊢
    exact ih (amount + 1) (h.insert List.perm_append_comm ht.2 ht.1) hle

/-- **Positions that are drawn are distinct, in range and as many as asked for.** -/
theorem always_positions {length amount : ℕ} (h : amount ≤ length) :
    Always (positions length amount) (Chosen length amount) := by
  unfold positions
  split
  · refine (always_drawFront amount 0 (by simpa using h)).bind fun entries hperm => always_pure ?_
    have hperm' : entries.toList.Perm (List.range length) := by simpa using hperm.toList
    have htake : (entries.take amount).toList = entries.toList.take amount := by simp
    have hlength : entries.size = length := by simpa using hperm'.length_eq
    rw [htake]
    refine ⟨(List.take_sublist _ _).nodup (hperm'.nodup_iff.2 List.nodup_range), fun t ht => ?_, ?_⟩
    · exact List.mem_range.1 (hperm'.mem_iff.1 (List.mem_of_mem_take ht))
    · simp [hlength, h]
  split
  · have hends : (List.range amount).map (length - amount + ·) =
        List.range' (length - amount) amount := List.range'_eq_map_range.symm
    have hfew := always_drawFew (amount < 50) amount (length - amount) 0 (chosen_nil _)
    rw [← hends, Nat.sub_add_cancel h, Nat.zero_add] at hfew
    refine hfew.bind fun drawn hdrawn => ?_
    split
    · exact always_pure hdrawn
    · refine (always_shuffleDown _ _).bind fun shuffled hperm => always_pure (hdrawn.perm ?_)
      simpa using hperm.toList
  · have hsparse := always_drawSparse amount 0 (chosen_nil length) (by omega)
    rwa [Nat.zero_add] at hsparse

end Draw

/-! ## Items -/

section Items

variable {β : Type}

theorem takeAt_sublist (items : List (β × ℕ)) (ps : List ℕ) :
    (takeAt items ps).Sublist (items.map Prod.fst) := by
  induction items generalizing ps with
  | nil => exact List.Sublist.refl _
  | cons x items ih =>
    unfold takeAt
    split
    · exact (ih _).cons_cons x.1
    · exact (ih _).cons x.1

/-- **Going through the items comes by every position** that is left, as long as all of them are at
or behind the next item. -/
theorem takeAt_zipIdx (items : List β) (start : ℕ) {ps : List ℕ} (hps : ps.Pairwise (· < ·))
    (hrange : ∀ p ∈ ps, start ≤ p ∧ p < start + items.length) :
    (takeAt (items.zipIdx start) ps).map some = ps.map fun p => items[p - start]? := by
  induction items generalizing start ps with
  | nil =>
    obtain rfl : ps = [] := List.eq_nil_iff_forall_not_mem.2 fun p hp => by
      have := hrange p hp
      simp at this
      omega
    rfl
  | cons x items ih =>
    -- behind the first item: positions beyond it are found among the items that follow
    have hnext : ∀ qs : List ℕ, qs.Pairwise (· < ·) →
        (∀ q ∈ qs, start + 1 ≤ q ∧ q < start + (x :: items).length) →
        (takeAt (items.zipIdx (start + 1)) qs).map some =
          qs.map fun q => (x :: items)[q - start]? := by
      intro qs hqs hqrange
      rw [ih (start + 1) hqs fun q hq => by have := hqrange q hq; simp at this; omega]
      refine List.map_congr_left fun q hq => ?_
      rw [show q - start = q - (start + 1) + 1 by have := hqrange q hq; omega,
        List.getElem?_cons_succ]
    rw [List.zipIdx_cons, takeAt]
    by_cases hfirst : ps.head? = some start
    · obtain ⟨qs, rfl⟩ := List.head?_eq_some_iff.1 hfirst
      obtain ⟨hlt, hqs⟩ := List.pairwise_cons.1 hps
      rw [if_pos hfirst, List.map_cons, List.tail_cons, List.map_cons, hnext qs hqs, Nat.sub_self,
        List.getElem?_cons_zero]
      exact fun q hq => ⟨hlt q hq, (hrange q (List.mem_cons_of_mem _ hq)).2⟩
    · rw [if_neg hfirst]
      refine hnext ps hps fun q hq => ⟨?_, (hrange q hq).2⟩
      cases ps with
      | nil => simp at hq
      | cons p qs =>
        have hp := (hrange p List.mem_cons_self).1
        have hne : p ≠ start := by simpa using hfirst
        rcases List.mem_cons.1 hq with rfl | hq
        · omega
        · have := List.rel_of_pairwise_cons hps hq
          omega

theorem pick_sublist (positions : List ℕ) (items : List β) :
    (pick positions items).Sublist items := by
  simpa [pick] using takeAt_sublist items.zipIdx (positions.mergeSort (· ≤ ·))

/-- Distinct positions ascend once they are sorted. -/
theorem Draw.Chosen.pairwise_mergeSort {length amount : ℕ} {positions : List ℕ}
    (h : Draw.Chosen length amount positions) : (positions.mergeSort (· ≤ ·)).Pairwise (· < ·) := by
  have hle : (positions.mergeSort (· ≤ ·)).Pairwise (· ≤ ·) :=
    @pairwise_mergeSort_key _ id positions
  have hne : (positions.mergeSort (· ≤ ·)).Nodup :=
    (List.mergeSort_perm _ _).nodup_iff.2 h.nodup
  exact (hle.and hne).imp fun h => lt_of_le_of_ne h.1 h.2

/-- The items that are picked are those at the positions, in ascending order. -/
theorem map_some_pick {positions : List ℕ} {items : List β} {amount : ℕ}
    (h : Draw.Chosen items.length amount positions) :
    (pick positions items).map some = (positions.mergeSort (· ≤ ·)).map (items[·]?) := by
  refine takeAt_zipIdx items 0 h.pairwise_mergeSort fun p hp => ⟨Nat.zero_le p, ?_⟩
  rw [Nat.zero_add]
  exact h.lt p (List.mem_mergeSort.1 hp)

theorem length_pick {positions : List ℕ} {items : List β} {amount : ℕ}
    (h : Draw.Chosen items.length amount positions) : (pick positions items).length = amount := by
  have := congrArg List.length (map_some_pick h)
  simpa [h.length_eq] using this

namespace Draw

/-- A way to draw positions: whatever the stream is, they are distinct, in range and as many as asked
for. -/
def DrawsPositions (draw : ℕ → ℕ → Draw (List ℕ)) : Prop :=
  ∀ {length amount : ℕ}, amount ≤ length → Always (draw length amount) (Chosen length amount)

theorem drawsPositions_positions : DrawsPositions positions :=
  always_positions

theorem keepAmountBy_of_le (draw : ℕ → ℕ → Draw (List ℕ)) {items : List β} {amount : ℕ}
    (h : items.length ≤ amount) (s : Stream) :
    (keepAmountBy draw items amount).run s = (items, s) := by
  rw [keepAmountBy, if_pos h]
  rfl

theorem keepAmountBy_of_lt (draw : ℕ → ℕ → Draw (List ℕ)) {items : List β} {amount : ℕ}
    (h : amount < items.length) (s : Stream) : (keepAmountBy draw items amount).run s =
      (pick ((draw items.length amount).run s).1 items, ((draw items.length amount).run s).2) := by
  rw [keepAmountBy, if_neg (not_le.2 h)]
  rfl

/-- A sample of a number of items is a sublist, as long as asked for unless there are too few. -/
theorem keepAmountBy_sublist {draw : ℕ → ℕ → Draw (List ℕ)} (hdraw : DrawsPositions draw)
    (items : List β) (amount : ℕ) :
    Always (keepAmountBy draw items amount) fun kept =>
      kept.Sublist items ∧ kept.length = min amount items.length := by
  intro s
  by_cases h : items.length ≤ amount
  · rw [keepAmountBy_of_le draw h, min_eq_right h]
    exact ⟨List.Sublist.refl _, rfl⟩
  · rw [keepAmountBy_of_lt draw (not_le.1 h), min_eq_left (not_le.1 h).le]
    exact ⟨pick_sublist _ _, length_pick (hdraw (not_le.1 h).le s)⟩

theorem keepAmount_sublist (items : List β) (amount : ℕ) :
    Always (keepAmount items amount) fun kept =>
      kept.Sublist items ∧ kept.length = min amount items.length :=
  keepAmountBy_sublist drawsPositions_positions items amount

/-- **A sample of a number of items** is in list order, as long as asked for unless there are too
few, and has the items at the positions that were drawn, each of them once. An amount that reaches
the length keeps all items, and the stream as it was. -/
theorem keepAmountBy_spec {draw : ℕ → ℕ → Draw (List ℕ)} (hdraw : DrawsPositions draw)
    (items : List β) (amount : ℕ) (s : Stream) :
    ((keepAmountBy draw items amount).run s).1.Sublist items ∧
      ((keepAmountBy draw items amount).run s).1.length = min amount items.length ∧
      (amount < items.length → ∃ ps : List ℕ, ps.Pairwise (· < ·) ∧
        ps.Perm ((draw items.length amount).run s).1 ∧
        ((keepAmountBy draw items amount).run s).1.map some = ps.map (items[·]?)) ∧
      (items.length ≤ amount → (keepAmountBy draw items amount).run s = (items, s)) := by
  obtain ⟨hsub, hlength⟩ := keepAmountBy_sublist hdraw items amount s
  refine ⟨hsub, hlength, fun h => ?_, fun h => keepAmountBy_of_le draw h s⟩
  have hchosen := hdraw h.le s
  refine ⟨_, hchosen.pairwise_mergeSort, List.mergeSort_perm _ _, ?_⟩
  rw [keepAmountBy_of_lt draw h, map_some_pick hchosen]

/-- Three of six items, at positions that were not drawn in ascending order. -/
theorem keepAmountBy_spec_sixItems :
    DrawsPositions positions ∧ ((positions 6 3).run (Stream.ofSeed 1)).1 = [5, 0, 2] ∧
      ((keepAmountBy positions [10, 20, 30, 40, 50, 60] 3).run (Stream.ofSeed 1)).1 =
        [10, 30, 60] := by
  have hdrawn : ((positions 6 3).run (Stream.ofSeed 1)).1 = [5, 0, 2] := by decide +kernel
  refine ⟨drawsPositions_positions, hdrawn, ?_⟩
  obtain ⟨-, -, hpicked, -⟩ := keepAmountBy_spec drawsPositions_positions [10, 20, 30, 40, 50, 60] 3
    (Stream.ofSeed 1)
  obtain ⟨ps, hps, hperm, hkept⟩ := hpicked (by decide)
  have hlength : [10, 20, 30, 40, 50, 60].length = 6 := rfl
  rw [hlength, hdrawn] at hperm
  have hsorted : [5, 0, 2].Perm [0, 2, 5] := by decide
  obtain rfl : ps = [0, 2, 5] := by
    refine (hperm.trans hsorted).eq_of_pairwise (fun p q _ _ hpq hqp => ?_) hps (by simp)
    omega
  exact List.map_injective_iff.2 (Option.some_injective ℕ) hkept

end Draw

end Items

end SpatialAccess
