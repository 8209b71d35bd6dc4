import Mathlib.Data.List.Induction
import SpatialAccess.Proofs.Scoring.Crowding

/-!
# Visitors of a facility

Over exact numbers, a visitor counts in every quarter of an hour that the visit shares a moment with.

* `MeetsBin`: a span shares a moment with a quarter of an hour. **`mem_loadBins_iff`**: these are the
  bins of the span. `nodup_loadBins`: each of them counts once.
* `FacilityLoad.visitors_addVisitor`: what one visit adds.
  **`FacilityLoad.visitors_ofVisits`**: visitors are counted.
* `FacilityLoad.penaltyFactor_eq`: the share that is taken off is a mean over the bins of a span.
  `FacilityLoad.penaltyFactor_le`: it does not fall with more visitors.
* **`FacilityLoad.ofVisits_spec`**: all of this, whatever the visits are.
-/

namespace SpatialAccess

/-! ## Bins -/

/-- A span has a moment in common with the quarter of an hour of a number. -/
def MeetsBin (start stop : ℝ) (k : ℕ) : Prop :=
  (Set.Ico start stop ∩ Set.Ico (900 * (k : ℝ)) (900 * ((k : ℝ) + 1))).Nonempty

theorem meetsBin_iff {start stop : ℝ} {k : ℕ} : MeetsBin start stop k ↔
    start < stop ∧ start < 900 * ((k : ℝ) + 1) ∧ 900 * (k : ℝ) < stop := by
  have hwidth : 900 * (k : ℝ) < 900 * ((k : ℝ) + 1) := by linarith
  rw [MeetsBin, Set.Ico_inter_Ico, Set.nonempty_Ico, max_lt_iff, lt_min_iff, lt_min_iff]
  constructor
  · rintro ⟨⟨hspan, hfirst⟩, hlast, -⟩
    exact ⟨hspan, hfirst, hlast⟩
  · rintro ⟨hspan, hfirst, hlast⟩
    exact ⟨⟨hspan, hfirst⟩, hlast, hwidth⟩

/-- The bin that a time is in, or the first one. -/
theorem toNat_div_binWidth_le_iff {x : ℝ} {k : ℕ} :
    Number.toNat (Number.upper x ((0 : ℕ) : ℝ) / binWidth) ≤ k ↔ x < 900 * ((k : ℝ) + 1) := by
  have hwidth : (0 : ℝ) < ((900 : ℕ) : ℝ) := by norm_num
  have hbin : (0 : ℝ) < 900 * ((k : ℝ) + 1) := by positivity
  rw [Number.upper_real, Nat.cast_zero, ← Nat.lt_succ_iff]
  change ⌊max x 0 / ((900 : ℕ) : ℝ)⌋₊ < k + 1 ↔ _
  rw [Nat.floor_lt (div_nonneg (le_max_right _ _) hwidth.le), div_lt_iff₀' hwidth, Nat.cast_ofNat,
    Nat.cast_succ, max_lt_iff, and_iff_left hbin]

/-- The bin before which a time is, or none at all. -/
theorem lt_ceilNat_div_binWidth_iff {x : ℝ} {k : ℕ} :
    k < Number.ceilNat (Number.upper x ((0 : ℕ) : ℝ) / binWidth) ↔ 900 * (k : ℝ) < x := by
  have hwidth : (0 : ℝ) < ((900 : ℕ) : ℝ) := by norm_num
  have hbin : ¬900 * (k : ℝ) < 0 := not_lt.2 (by positivity)
  rw [Number.upper_real, Nat.cast_zero]
  change k < ⌈max x 0 / ((900 : ℕ) : ℝ)⌉₊ ↔ _
  rw [Nat.lt_ceil, lt_div_iff₀' hwidth, Nat.cast_ofNat, lt_max_iff, or_iff_left hbin]

/-- **The bins of a span** are the quarters of an hour that it has a moment in common with. Times
before midnight are in none of them. -/
theorem mem_loadBins_iff {start stop : ℝ} {k : ℕ} :
    k ∈ loadBins start stop ↔ MeetsBin start stop k := by
  rw [meetsBin_iff, loadBins]
  split
  · next hspan =>
    rw [and_iff_right hspan, ← toNat_div_binWidth_le_iff, ← lt_ceilNat_div_binWidth_iff, List.mem_map]
    constructor
    · rintro ⟨i, hi, rfl⟩
      rw [List.mem_range] at hi
      omega
    · rintro ⟨hfirst, hlast⟩
      exact ⟨_, List.mem_range.2 (Nat.sub_lt_sub_right hfirst hlast), Nat.add_sub_cancel' hfirst⟩
  · next hspan => simp [hspan]

theorem nodup_loadBins (start stop : ℝ) : (loadBins start stop).Nodup := by
  rw [loadBins]
  split
  · exact List.nodup_range.map fun _ _ h => Nat.add_left_cancel h
  · exact List.nodup_nil

namespace FacilityLoad

/-! ## Counting visitors -/

theorem visitors_foldl_addToBin (bins : List ℕ) (l : FacilityLoad ℝ) (k : ℕ) :
    (bins.foldl addToBin l).visitors k = l.visitors k + (bins.count k : ℝ) := by
  induction bins generalizing l with
  | nil => simp
  | cons bin bins ih =>
    rw [List.foldl_cons, ih, visitors_addToBin, List.count_cons, add_assoc]
    by_cases hbin : bin = k <;> simp [hbin, add_comm]

open Classical in
/-- A visit counts once in every bin that it meets. -/
theorem visitors_addVisitor (l : FacilityLoad ℝ) (start stop : ℝ) (k : ℕ) :
    (l.addVisitor start stop).visitors k =
      l.visitors k + if MeetsBin start stop k then 1 else 0 := by
  rw [addVisitor, visitors_foldl_addToBin, (nodup_loadBins start stop).count]
  simp only [mem_loadBins_iff]
  split <;> simp

open Classical in
/-- **Visitors are counted**: those of a bin are the visits that meet it. -/
theorem visitors_ofVisits (capacity : ℝ) (visits : List (ℝ × ℝ)) (k : ℕ) :
    (ofVisits capacity visits).visitors k =
      ((visits.filter fun v => MeetsBin v.1 v.2 k).length : ℝ) := by
  induction visits using List.reverseRecOn with
  | nil => simp [ofVisits, visitors]
  | append_singleton visits v ih =>
    rw [ofVisits, List.foldl_append, List.foldl_cons, List.foldl_nil, visitors_addVisitor, ← ofVisits,
      ih, List.filter_append, List.length_append, Nat.cast_add]
    by_cases hv : MeetsBin v.1 v.2 k <;> simp [hv]

theorem capacity_ofVisits (capacity : ℝ) (visits : List (ℝ × ℝ)) :
    (ofVisits capacity visits).capacity = capacity := by
  refine List.foldlRecOn (motive := fun l : FacilityLoad ℝ => l.capacity = capacity) _ _ rfl
    fun l hl v _ => ?_
  exact List.foldlRecOn (motive := fun l : FacilityLoad ℝ => l.capacity = capacity) _ _ hl
    fun l hl bin _ => hl

/-! ## The share that is taken off -/

/-- The bins of a span. -/
noncomputable def spanBins (start stop : ℝ) : Finset ℕ :=
  (loadBins start stop).toFinset

theorem mem_spanBins_iff {start stop : ℝ} {k : ℕ} :
    k ∈ spanBins start stop ↔ MeetsBin start stop k := by
  rw [spanBins, List.mem_toFinset, mem_loadBins_iff]

/-- **The share that is taken off** is a mean over the bins of a span, but not more than all; without
a capacity it is nothing. -/
theorem penaltyFactor_eq (l : FacilityLoad ℝ) (start stop factor exponent : ℝ) :
    l.penaltyFactor start stop factor exponent =
      if l.capacity ≤ 0 ∨ spanBins start stop = ∅ then 0
      else min ((∑ k ∈ spanBins start stop, factor * (l.visitors k / l.capacity) ^ exponent) /
        (spanBins start stop).card) 1 := by
  have hnothing : ¬((0 : ℕ) : ℝ) < l.capacity ∨ (loadBins start stop).isEmpty ↔
      l.capacity ≤ 0 ∨ spanBins start stop = ∅ := by
    rw [spanBins, List.toFinset_eq_empty_iff, List.isEmpty_iff, Nat.cast_zero, not_lt]
  have hsum := List.sum_toFinset (fun k => factor * (l.visitors k / l.capacity) ^ exponent)
    (nodup_loadBins start stop)
  rw [spanBins] at hnothing ⊢
  rw [hsum, List.toFinset_card_of_nodup (nodup_loadBins start stop), penaltyFactor,
    if_congr hnothing Nat.cast_zero rfl, Number.lower_real, Number.sum_real, Nat.cast_one]
  rfl

/-- It does not fall with more visitors. -/
theorem penaltyFactor_le {l l' : FacilityLoad ℝ} (hcapacity : 0 < l.capacity)
    (hsame : l'.capacity = l.capacity) {factor exponent : ℝ} (hfactor : 0 ≤ factor)
    (hexponent : 0 ≤ exponent) (hvisitors : ∀ k, 0 ≤ l.visitors k ∧ l.visitors k ≤ l'.visitors k)
    (start stop : ℝ) : l.penaltyFactor start stop factor exponent ≤
      l'.penaltyFactor start stop factor exponent := by
  rw [penaltyFactor_eq, penaltyFactor_eq, hsame]
  split
  · exact le_rfl
  · refine min_le_min_right 1 ?_
    gcongr with k _
    · exact div_nonneg (hvisitors k).1 hcapacity.le
    · exact (hvisitors k).2

open Classical in
/-- **Visitors of a facility**, whatever the visits are. In every quarter of an hour they are as many
as the visits that have a moment in common with it, in whatever order they were added. If there is a
capacity, the share that is taken off what was gained in a span is a mean over the quarters of an
hour that the span has a moment in common with; it lies between nothing and all, and does not fall
with more visits. -/
theorem ofVisits_spec (capacity : ℝ) (visits : List (ℝ × ℝ)) :
    (∀ k, (ofVisits capacity visits).visitors k =
      ((visits.filter fun v => v.1 < v.2 ∧ MeetsBin v.1 v.2 k).length : ℝ)) ∧
    (∀ visits', visits'.Perm visits →
      ∀ k, (ofVisits capacity visits').visitors k = (ofVisits capacity visits).visitors k) ∧
    (∀ start stop factor exponent : ℝ, ∃ bins : Finset ℕ,
      (∀ k, k ∈ bins ↔ start < stop ∧ MeetsBin start stop k) ∧
      (ofVisits capacity visits).penaltyFactor start stop factor exponent =
        if capacity ≤ 0 ∨ bins = ∅ then 0
        else min ((∑ k ∈ bins,
          factor * ((ofVisits capacity visits).visitors k / capacity) ^ exponent) / bins.card) 1) ∧
    (0 < capacity → ∀ start stop factor exponent : ℝ, 0 ≤ factor → 0 ≤ exponent →
      (ofVisits capacity visits).penaltyFactor start stop factor exponent ∈ Set.Icc 0 1 ∧
      ∀ visits', visits.Subperm visits' →
        (ofVisits capacity visits).penaltyFactor start stop factor exponent ≤
          (ofVisits capacity visits').penaltyFactor start stop factor exponent) := by
  have hspan : ∀ {start stop : ℝ} {k : ℕ},
      start < stop ∧ MeetsBin start stop k ↔ MeetsBin start stop k :=
    and_iff_right_of_imp fun h => (meetsBin_iff.1 h).1
  refine ⟨fun k => ?_, fun visits' hperm k => ?_, fun start stop factor exponent => ?_,
    fun hcapacity start stop factor exponent hfactor hexponent => ?_⟩
  · simp only [visitors_ofVisits, hspan]
  · rw [visitors_ofVisits, visitors_ofVisits, (hperm.filter _).length_eq]
  · refine ⟨spanBins start stop, fun k => mem_spanBins_iff.trans hspan.symm, ?_⟩
    rw [penaltyFactor_eq, capacity_ofVisits]
  · refine ⟨penaltyFactor_mem_Icc (visitors_ofVisits_nonneg capacity visits) hfactor _ _ _,
      fun visits' hsub => ?_⟩
    refine penaltyFactor_le (by rwa [capacity_ofVisits])
      (by rw [capacity_ofVisits, capacity_ofVisits]) hfactor hexponent (fun k => ?_) start stop
    refine ⟨visitors_ofVisits_nonneg capacity visits k, ?_⟩
    rw [visitors_ofVisits, visitors_ofVisits, Nat.cast_le]
    exact (hsub.filter _).length_le

/-- Visits that begin before midnight, end on the edge of a bin, or take no time at all. -/
theorem ofVisits_spec_edges :
    let visits : List (ℝ × ℝ) := [(-600, 900), (900, 1800), (1700, 1700), (450, 901)]
    (0 : ℝ) < 4 ∧ (0 : ℝ) ≤ 1 ∧
      (ofVisits 4 visits).visitors 0 = 2 ∧ (ofVisits 4 visits).visitors 1 = 2 ∧
      (ofVisits 4 visits).penaltyFactor 0 1800 1 1 = 1 / 2 ∧
      (ofVisits 4 visits).penaltyFactor 0 1800 1 1 ≤
        (ofVisits 4 ((0, 5400) :: visits)).penaltyFactor 0 1800 1 1 := by
  intro visits
  have hcapacity : (0 : ℝ) < 4 := by norm_num
  obtain ⟨hcount, -, hmean, hrange⟩ := ofVisits_spec 4 visits
  have hvisitors : (ofVisits 4 visits).visitors 0 = 2 ∧ (ofVisits 4 visits).visitors 1 = 2 := by
    constructor <;> · rw [hcount]; norm_num [visits, meetsBin_iff, List.filter_cons]
  obtain ⟨bins, hbins, hfactor⟩ := hmean 0 1800 1 1
  have htwo : bins = {0, 1} := by
    ext k
    have hfirst : (0 : ℝ) < 900 * ((k : ℝ) + 1) := by positivity
    have hlast : 900 * (k : ℝ) < 1800 ↔ k < 2 := by
      rw [← Nat.cast_lt (α := ℝ), Nat.cast_ofNat]
      constructor <;> · intro h; linarith
    have hspan : (0 : ℝ) < 1800 := by norm_num
    simp only [hbins, meetsBin_iff, hspan, hfirst, hlast, true_and, Finset.mem_insert,
      Finset.mem_singleton]
    omega
  refine ⟨hcapacity, zero_le_one, hvisitors.1, hvisitors.2, ?_, ?_⟩
  · rw [hfactor, htwo]
    norm_num [hvisitors]
  · exact (hrange hcapacity 0 1800 1 1 zero_le_one zero_le_one).2 _
      (List.sublist_cons_self _ _).subperm

end FacilityLoad

end SpatialAccess
