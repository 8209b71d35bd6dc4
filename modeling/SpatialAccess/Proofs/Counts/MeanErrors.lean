import Mathlib.Algebra.Order.BigOperators.Group.Multiset
import SpatialAccess.Proofs.Counts.Rows
import SpatialAccess.Proofs.Number.Exact

/-!
# Mean errors of an hour

One pass over all comparisons adds up the errors of every hour, and the sums are divided at its end.
In exact arithmetic that gives means.

* `ErrorSums.get_addTo`: a comparison counts for its own hour. `ErrorSums.get_foldl_addTo`:
  behind a pass, an hour has the sums of its own comparisons.
* `mean`: the mean of exact numbers. `mean_perm`, `abs_mean_le`, `mean_append`: it does not depend on
  an order, its size is no larger than the mean size, and that of two lists is a weighted one.
* `get_hourErrors`: the errors of an hour are the means over its comparisons.
* **`hourErrors_spec`**: the laws of the errors of an hour.
-/

namespace SpatialAccess

/-- The comparisons of the hour of a slot. -/
def HourComparison.inSlot {α : Type} (slot : Fin hoursOfDay)
    (comparisons : List (HourComparison α)) : List (HourComparison α) :=
  comparisons.filter fun c => c.hour = slot + 1

theorem HourComparison.inSlot_inSlot {α : Type} (slot : Fin hoursOfDay)
    (comparisons : List (HourComparison α)) :
    inSlot slot (inSlot slot comparisons) = inSlot slot comparisons := by
  simp [inSlot, List.filter_filter]

open HourComparison (inSlot inSlot_inSlot)

/-! ## One pass -/

namespace ErrorSums

variable {α : Type} [Number α]

/-- **A comparison counts for its own hour**, if that is an hour of the day, and for no other. -/
theorem get_addTo (sums : Vector (ErrorSums α) hoursOfDay) (c : HourComparison α)
    (slot : Fin hoursOfDay) :
    (addTo sums c).get slot =
      if c.hour = slot + 1 then (sums.get slot).add c else sums.get slot := by
  unfold addTo
  split
  · next own hown =>
    rw [← checkHour_eq_ok_iff.1 hown]
    refine (Vector.getElem_set own.isLt slot.isLt).trans ?_
    by_cases hsame : own = slot
    · subst hsame
      rw [if_pos rfl, if_pos rfl]
      rfl
    · have hne : ¬(own : ℕ) = slot := mt Fin.ext hsame
      rw [if_neg hne, if_neg (by omega)]
      rfl
  · next e hrefused =>
    refine (if_neg fun hhour => ?_).symm
    rw [checkHour_eq_ok_iff.2 hhour.symm] at hrefused
    cases hrefused

/-- **Behind a pass** an hour has the sums of its own comparisons, in their order. -/
theorem get_foldl_addTo (comparisons : List (HourComparison α))
    (sums : Vector (ErrorSums α) hoursOfDay) (slot : Fin hoursOfDay) :
    (comparisons.foldl addTo sums).get slot =
      (inSlot slot comparisons).foldl add (sums.get slot) := by
  induction comparisons generalizing sums with
  | nil => rfl
  | cons c comparisons ih =>
    rw [List.foldl_cons, ih, get_addTo, inSlot, inSlot, List.filter_cons]
    by_cases hhour : c.hour = slot + 1 <;> simp [hhour]

/-- In exact arithmetic the sums are those of the lists of errors. -/
theorem foldl_add (comparisons : List (HourComparison ℝ)) (s : ErrorSums ℝ) :
    comparisons.foldl add s =
      { count := s.count + comparisons.length
        relative := s.relative + (comparisons.map fun c => |c.relativeError|).sum
        bias := s.bias + (comparisons.map fun c => c.simulated - c.count).sum
        absolute := s.absolute + (comparisons.map fun c => |c.simulated - c.count|).sum } := by
  induction comparisons generalizing s with
  | nil => simp
  | cons c comparisons ih =>
    rw [List.foldl_cons, ih]
    simp only [List.map_cons, List.sum_cons, List.length_cons, ← add_assoc, add]
    congr 1
    omega

end ErrorSums

/-! ## Means -/

/-- The mean of exact numbers; zero if there are none. -/
noncomputable def mean (xs : List ℝ) : ℝ :=
  if xs = [] then 0 else xs.sum / xs.length

theorem mean_eq_div (xs : List ℝ) : mean xs = xs.sum / xs.length := by
  unfold mean
  split
  · next h => simp [h]
  · rfl

theorem mean_perm {xs ys : List ℝ} (h : xs.Perm ys) : mean xs = mean ys := by
  rw [mean_eq_div, mean_eq_div, h.sum_eq, h.length_eq]

theorem abs_mean_le (xs : List ℝ) : |mean xs| ≤ mean (xs.map fun x => |x|) := by
  have hsum : |xs.sum| ≤ (xs.map fun x => |x|).sum := by
    simpa using Multiset.abs_sum_le_sum_abs (s := (xs : Multiset ℝ))
  rw [mean_eq_div, mean_eq_div, abs_div, List.length_map, Nat.abs_cast]
  exact div_le_div_of_nonneg_right hsum (Nat.cast_nonneg _)

theorem length_mul_mean (xs : List ℝ) : xs.length * mean xs = xs.sum := by
  cases xs with
  | nil => simp
  | cons x xs =>
    rw [mean_eq_div]
    exact mul_div_cancel₀ _ (Nat.cast_ne_zero.2 (Nat.succ_ne_zero _))

/-- **The mean of two lists** is the mean of both means, weighted by the lengths. -/
theorem mean_append (xs ys : List ℝ) :
    mean (xs ++ ys) =
      (xs.length * mean xs + ys.length * mean ys) / ((xs.length + ys.length : ℕ) : ℝ) := by
  rw [length_mul_mean, length_mul_mean, mean_eq_div, List.sum_append, List.length_append]

/-! ## Errors of an hour -/

/-- The errors that are the means over comparisons. -/
noncomputable def HourError.ofMeans (comparisons : List (HourComparison ℝ)) : HourError ℝ where
  relative := mean (comparisons.map fun c => |c.relativeError|)
  bias := mean (comparisons.map fun c => c.simulated - c.count)
  absolute := mean (comparisons.map fun c => |c.simulated - c.count|)

/-- Two errors, each weighted by a number of comparisons. -/
noncomputable def HourError.weighted (m : ℕ) (e : HourError ℝ) (n : ℕ) (f : HourError ℝ) :
    HourError ℝ where
  relative := (m * e.relative + n * f.relative) / ((m + n : ℕ) : ℝ)
  bias := (m * e.bias + n * f.bias) / ((m + n : ℕ) : ℝ)
  absolute := (m * e.absolute + n * f.absolute) / ((m + n : ℕ) : ℝ)

theorem ErrorSums.means_foldl_add (comparisons : List (HourComparison ℝ)) :
    (comparisons.foldl ErrorSums.add .zero).means = .ofMeans comparisons := by
  rw [foldl_add, means]
  cases comparisons <;> simp [zero, HourError.ofMeans, mean]

/-- **The errors of an hour** are the means over its comparisons. -/
theorem get_hourErrors (comparisons : List (HourComparison ℝ)) (slot : Fin hoursOfDay) :
    (hourErrors comparisons).get slot = .ofMeans (inSlot slot comparisons) := by
  have hblank : (Vector.replicate hoursOfDay (ErrorSums.zero : ErrorSums ℝ)).get slot = .zero :=
    Vector.getElem_replicate slot.isLt
  rw [← ErrorSums.means_foldl_add, ← hblank, ← ErrorSums.get_foldl_addTo]
  exact Vector.getElem_map _ slot.isLt

theorem HourError.abs_bias_ofMeans_le (comparisons : List (HourComparison ℝ)) :
    |(ofMeans comparisons).bias| ≤ (ofMeans comparisons).absolute := by
  have hle := abs_mean_le (comparisons.map fun c => c.simulated - c.count)
  rwa [List.map_map] at hle

theorem HourError.ofMeans_perm {comparisons comparisons' : List (HourComparison ℝ)}
    (h : comparisons.Perm comparisons') : ofMeans comparisons = ofMeans comparisons' := by
  simp only [ofMeans, mean_perm (h.map _)]

theorem HourError.ofMeans_append (comparisons comparisons' : List (HourComparison ℝ)) :
    ofMeans (comparisons ++ comparisons') =
      .weighted comparisons.length (ofMeans comparisons) comparisons'.length
        (ofMeans comparisons') := by
  simp only [ofMeans, weighted, List.map_append, mean_append, List.length_map]

/-- The relative error leads from the count to what was simulated. -/
theorem HourComparison.simulated_eq {c : HourComparison ℝ} (h : c.count ≠ 0) :
    c.simulated = c.count + c.relativeError / 100 * c.count := by
  have herror : c.relativeError = (c.simulated - c.count) / c.count * ((100 : ℕ) : ℝ) := by
    rw [relativeError, if_neg]
    simpa [BEq.beq] using h
  rw [herror]
  field_simp
  push_cast
  ring

/-- Where nothing was counted the relative error only tells whether anything was simulated. -/
theorem HourComparison.relativeError_of_count_eq_zero {c : HourComparison ℝ} (h : c.count = 0) :
    c.relativeError = if c.simulated = 0 then 0 else 100 := by
  simp [relativeError, h]

/-- **The laws of the errors of an hour.** They are the means over all comparisons of that hour, and
zero if there are none; comparisons of other hours do not matter. The relative error is the
difference to the count in percent of it. The size of the bias is no larger than the absolute error.
The order of the comparisons does not matter, and of two lists of comparisons each mean is that of
the parts, weighted by how many comparisons of the hour they have. -/
theorem hourErrors_spec (comparisons : List (HourComparison ℝ)) :
    (∀ c : HourComparison ℝ,
      (c.count ≠ 0 → c.simulated = c.count + c.relativeError / 100 * c.count) ∧
      (c.count = 0 → c.relativeError = if c.simulated = 0 then 0 else 100)) ∧
    (∀ slot : Fin hoursOfDay,
      let own := inSlot slot comparisons
      let e := (hourErrors comparisons).get slot
      e = (if own = [] then { relative := 0, bias := 0, absolute := 0 }
        else
          { relative := (own.map fun c => |c.relativeError|).sum / own.length
            bias := (own.map fun c => c.simulated - c.count).sum / own.length
            absolute := (own.map fun c => |c.simulated - c.count|).sum / own.length }) ∧
      e = (hourErrors own).get slot ∧ |e.bias| ≤ e.absolute) ∧
    (∀ comparisons', comparisons.Perm comparisons' →
      hourErrors comparisons = hourErrors comparisons') ∧
    ∀ comparisons' (slot : Fin hoursOfDay),
      (hourErrors (comparisons ++ comparisons')).get slot =
        .weighted (inSlot slot comparisons).length ((hourErrors comparisons).get slot)
          (inSlot slot comparisons').length ((hourErrors comparisons').get slot) := by
  refine ⟨fun c => ⟨c.simulated_eq, c.relativeError_of_count_eq_zero⟩,
    fun slot => ⟨?_, ?_, ?_⟩, fun comparisons' hperm => ?_, fun comparisons' slot => ?_⟩
  · rw [get_hourErrors, HourError.ofMeans]
    split
    · next hnone => simp [hnone, mean]
    · simp only [mean_eq_div, List.length_map]
  · rw [get_hourErrors, get_hourErrors, inSlot_inSlot]
  · rw [get_hourErrors]
    exact HourError.abs_bias_ofMeans_le _
  · refine Vector.ext fun i hi => ?_
    calc (hourErrors comparisons)[i]
      _ = .ofMeans (inSlot ⟨i, hi⟩ comparisons) := get_hourErrors comparisons ⟨i, hi⟩
      _ = .ofMeans (inSlot ⟨i, hi⟩ comparisons') := HourError.ofMeans_perm (hperm.filter _)
      _ = (hourErrors comparisons')[i] := (get_hourErrors comparisons' ⟨i, hi⟩).symm
  · simp only [get_hourErrors, inSlot, List.filter_append, HourError.ofMeans_append]

/-- Two stations at the rush hour, and a comparison for no hour of the day. -/
theorem hourErrors_spec_rushHour :
    let early : HourComparison ℝ := { link := ⟨0⟩, hour := 8, count := 100, simulated := 60 }
    let late : HourComparison ℝ := { link := ⟨1⟩, hour := 8, count := 10, simulated := 30 }
    let never : HourComparison ℝ := { link := ⟨1⟩, hour := 25, count := 1, simulated := 7 }
    [early, late, never].Perm [late, early, never] ∧
      hourErrors [early, late, never] = hourErrors [late, early, never] ∧
      (hourErrors [early, late, never])[7].bias = -10 ∧
      (hourErrors [early, late, never])[7].absolute = 30 := by
  intro early late never
  have hperm : [early, late, never].Perm [late, early, never] := .swap _ _ _
  obtain ⟨-, hmeans, hswap, -⟩ := hourErrors_spec [early, late, never]
  have hrush := (hmeans ⟨7, by decide⟩).1
  have hown : inSlot ⟨7, by decide⟩ [early, late, never] = [early, late] := by
    simp [inSlot, early, late, never]
  rw [hown, if_neg (List.cons_ne_nil _ _)] at hrush
  refine ⟨hperm, hswap _ hperm, ?_, ?_⟩
  · exact (congrArg HourError.bias hrush).trans (by norm_num [early, late])
  · exact (congrArg HourError.absolute hrush).trans (by norm_num [early, late])

end SpatialAccess
