import SpatialAccess.Proofs.Number.Exact
import SpatialAccess.Scoring.Load

/-!
# Crowded facilities

* `FacilityLoad.ofVisits`: a facility with the visitors of some spans.
* `FacilityLoad.visitors_addToBin`: a visitor more in one bin.
  `FacilityLoad.visitors_ofVisits_nonneg`: there never are less than no visitors.
* `FacilityLoad.penaltyFactor_mem_Icc`: the share that is taken off lies between nothing and all.
* **`Penalty.amount_mem_Icc`**: what is taken off for a part of a stay lies between nothing and what
  was gained in it.
-/

namespace SpatialAccess

namespace FacilityLoad

/-- A facility of a capacity, with a visitor in each of some spans. -/
def ofVisits {α : Type} [Number α] (capacity : α) (visits : List (α × α)) : FacilityLoad α :=
  visits.foldl (fun l v => l.addVisitor v.1 v.2) { capacity }

theorem visitors_addToBin (l : FacilityLoad ℝ) (bin k : ℕ) :
    (l.addToBin bin).visitors k = l.visitors k + if bin = k then 1 else 0 := by
  simp only [visitors, addToBin, Array.getD_eq_getD_getElem?, Array.getElem?_modify,
    Array.getElem?_append, Array.getElem?_replicate, Nat.cast_zero, Nat.cast_one]
  by_cases hk : k < l.bins.size
  · by_cases hbin : bin = k <;> simp [hk, hbin]
  · have hnone : l.bins[k]? = none := Array.getElem?_eq_none (Nat.le_of_not_lt hk)
    by_cases hbin : bin = k
    · subst hbin
      have hmissing : bin - l.bins.size < bin + 1 - l.bins.size := by omega
      simp [hk, hmissing]
    · simp only [if_neg hbin, if_neg hk, hnone]
      split <;> simp

/-- Visitors are only ever added. -/
theorem visitors_le_addVisitor (l : FacilityLoad ℝ) (start stop : ℝ) (k : ℕ) :
    l.visitors k ≤ (l.addVisitor start stop).visitors k := by
  refine List.foldlRecOn (motive := fun l' : FacilityLoad ℝ => l.visitors k ≤ l'.visitors k)
    _ _ le_rfl fun l' hl' bin _ => hl'.trans ?_
  rw [visitors_addToBin]
  split
  · exact le_add_of_nonneg_right zero_le_one
  · exact (add_zero _).ge

theorem visitors_ofVisits_nonneg (capacity : ℝ) (visits : List (ℝ × ℝ)) (k : ℕ) :
    0 ≤ (ofVisits capacity visits).visitors k := by
  refine List.foldlRecOn (motive := fun l : FacilityLoad ℝ => 0 ≤ l.visitors k) _ _ ?_
    fun l hl v _ => hl.trans (l.visitors_le_addVisitor v.1 v.2 k)
  simp [visitors]

/-- **The share that is taken off** lies between nothing and all. -/
theorem penaltyFactor_mem_Icc {l : FacilityLoad ℝ} (hvisitors : ∀ k, 0 ≤ l.visitors k)
    {factor : ℝ} (hfactor : 0 ≤ factor) (start stop exponent : ℝ) :
    l.penaltyFactor start stop factor exponent ∈ Set.Icc 0 1 := by
  simp only [penaltyFactor]
  split
  · rw [Nat.cast_zero]
    exact ⟨le_rfl, zero_le_one⟩
  · next h =>
    rw [Nat.cast_zero, not_or, not_not] at h
    have hcapacity : 0 < l.capacity := h.1
    rw [Number.lower_real, Number.sum_real, Nat.cast_one]
    refine ⟨le_min (div_nonneg (List.sum_nonneg fun x hx => ?_) (Nat.cast_nonneg _)) zero_le_one,
      min_le_right _ _⟩
    obtain ⟨bin, -, rfl⟩ := List.mem_map.1 hx
    exact mul_nonneg hfactor (Real.rpow_nonneg (div_nonneg (hvisitors bin) hcapacity.le) exponent)

end FacilityLoad

/-- A penalty whose loads are those of visitors, and whose factor is not negative. -/
def Penalty.OfVisitors : Penalty ℝ → Prop
  | none => True
  | facilityLoad loads factor _ =>
    0 ≤ factor ∧ ∀ (id : FacilityId) (load : FacilityLoad ℝ), loads[id]? = some load →
      ∃ capacity visits, load = .ofVisits capacity visits

/-- **What is taken off for a part of a stay** lies between nothing and what was gained in it. -/
theorem Penalty.amount_mem_Icc {penalty : Penalty ℝ} (hpenalty : penalty.OfVisitors)
    {r : PenaltyRecord ℝ} (hr : 0 ≤ r.improvement) :
    penalty.amount r ∈ Set.Icc 0 r.improvement := by
  have hnothing : ((0 : ℕ) : ℝ) ∈ Set.Icc 0 r.improvement := by
    rw [Nat.cast_zero]
    exact ⟨le_rfl, hr⟩
  cases penalty with
  | none => exact hnothing
  | facilityLoad loads factor exponent =>
    obtain ⟨hfactor, hloads⟩ := hpenalty
    simp only [amount]
    split
    · next load hload =>
      obtain ⟨id, -, hload⟩ := Option.bind_eq_some_iff.1 hload
      obtain ⟨capacity, visits, rfl⟩ := hloads id load hload
      obtain ⟨hnonneg, hle⟩ := FacilityLoad.penaltyFactor_mem_Icc
        (FacilityLoad.visitors_ofVisits_nonneg capacity visits) hfactor r.start r.stop exponent
      exact ⟨mul_nonneg hr hnonneg, mul_le_of_le_one_right hr hle⟩
    · exact hnothing

end SpatialAccess
