import SpatialAccess.Proofs.Number.Double.Sum

/-!
# Margins around doubles

* `Double.sub_eq_add_neg`: taking away is adding with the other sign.
* **`Double.exists_value?_repack_add`**: adding something finite leads up or down, as its sign says,
  or stays.
* `Double.exists_worth?_of_isFinite`: what is finite is a number. `Double.le_self_sub`: so is its
  difference from a number.
* The instance `MarginNumber Float`.
-/

namespace SpatialAccess.Double

open Float.Model Float.Model.UnpackedFloat

theorem apply_neg (s : Sign) (a : ℤ) : (-s).apply a = -s.apply a := by
  cases s with
  | negative => exact (neg_neg a).symm
  | positive => rfl

theorem natAbs_apply (s : Sign) (n : ℕ) : (s.apply n).natAbs = n := by
  cases s with
  | negative => exact (Int.natAbs_neg n).trans (Int.natAbs_natCast n)
  | positive => exact Int.natAbs_natCast n

theorem sub_eq_add_neg (x y : UnpackedFloat) :
    UnpackedFloat.sub Format.binary64 x y = UnpackedFloat.add Format.binary64 x y.neg := by
  cases x with
  | finite s m e hm =>
    cases y with
    | finite s' m' e' hm' =>
      simp only [UnpackedFloat.sub, UnpackedFloat.add, UnpackedFloat.neg, apply_neg,
        Int.sub_eq_add_neg]
    | _ => rfl
  | _ => cases y <;> rfl

theorem value?_neg {x : UnpackedFloat} {a : ℤ} (ha : value? x = some a) :
    value? x.neg = some (-a) := by
  cases x with
  | notANumber => cases ha
  | zero s =>
    cases ha
    rfl
  | infinity s | finite s m e hm =>
    cases ha
    exact congrArg some (apply_neg s _)

theorem isDouble_neg {x : UnpackedFloat} (h : IsDouble x) : IsDouble x.neg := by
  cases x <;> exact h

/-- What a double is worth needs no rounding. -/
theorem rounded_eq_self {x : UnpackedFloat} (hx : IsDouble x) {a : ℤ} (ha : value? x = some a) :
    rounded a = a := by
  cases x with
  | notANumber => cases ha
  | zero s =>
    cases ha
    exact rounded_zero
  | infinity s =>
    cases ha
    rw [rounded_apply, rounded_natCast, min_eq_right le_nearest_beyond]
  | finite s m e hm =>
    cases ha
    exact rounded_value s hx.1 hx.2

theorem not_infinity {s : Sign} {a : ℤ} (ha : value? (.infinity s) = some a) :
    ¬a.natAbs < beyond := by
  cases ha
  rw [natAbs_apply]
  exact lt_irrefl beyond

/-- The sum of finite doubles is the nearest double to the sum of what they are worth. -/
theorem value?_repack_add_of_lt {x y : UnpackedFloat} (hx : IsDouble x) (hy : IsDouble y) {a b : ℤ}
    (ha : value? x = some a) (hb : value? y = some b) (ha' : a.natAbs < beyond)
    (hb' : b.natAbs < beyond) :
    value? (repack (UnpackedFloat.add Format.binary64 x y)) = some (rounded (a + b)) := by
  cases x with
  | notANumber => cases ha
  | infinity s => exact absurd ha' (not_infinity ha)
  | zero s =>
    -- what remains was a double before
    obtain rfl : 0 = a := Option.some.inj ha
    rw [zero_add]
    cases y with
    | notANumber => cases hb
    | infinity s' => exact absurd hb' (not_infinity hb)
    | zero s' =>
      obtain rfl : 0 = b := Option.some.inj hb
      rw [rounded_zero]
      cases s <;> cases s' <;> rfl
    | finite s' m' e' hm' =>
      rw [rounded_eq_self hy hb, ← hb]
      exact congrArg value? (repack_finite hm' hy.1 hy.2)
  | finite s m e hm =>
    cases y with
    | notANumber => cases hb
    | infinity s' => exact absurd hb' (not_infinity hb)
    | zero s' =>
      obtain rfl : 0 = b := Option.some.inj hb
      rw [add_zero, rounded_eq_self hx ha, ← ha]
      exact congrArg value? (repack_finite hm hx.1 hx.2)
    | finite s' m' e' hm' =>
      cases ha
      cases hb
      exact value?_repack_add_finite hm hm' hx.1.le hy.1.le

/-- An infinity stays what it is. -/
theorem add_infinity (s : Sign) {y : UnpackedFloat} {b : ℤ} (hb : value? y = some b)
    (hfinite : b.natAbs < beyond) :
    UnpackedFloat.add Format.binary64 (.infinity s) y = .infinity s := by
  cases y with
  | notANumber => cases hb
  | infinity s' => exact absurd hfinite (not_infinity hb)
  | zero s' => rfl
  | finite s' m' e' hm' => rfl

theorem eq_infinity_of_not_lt {x : UnpackedFloat} (hx : IsDouble x) {a : ℤ}
    (ha : value? x = some a) (h : ¬a.natAbs < beyond) : ∃ s, x = .infinity s := by
  cases x with
  | notANumber => cases ha
  | infinity s => exact ⟨s, rfl⟩
  | zero s =>
    cases ha
    exact absurd beyond_pos h
  | finite s m e hm =>
    cases ha
    rw [natAbs_apply] at h
    exact absurd (units_lt_beyond hx.1 hx.2) h

/-- **Adding something finite leads up or down, as its sign says, or stays.** -/
theorem exists_value?_repack_add {x y : UnpackedFloat} (hx : IsDouble x) (hy : IsDouble y) {a b : ℤ}
    (ha : value? x = some a) (hb : value? y = some b) (hfinite : b.natAbs < beyond) :
    ∃ c, value? (repack (UnpackedFloat.add Format.binary64 x y)) = some c ∧
      (0 ≤ b → a ≤ c) ∧ (b ≤ 0 → c ≤ a) := by
  by_cases ha' : a.natAbs < beyond
  · refine ⟨_, value?_repack_add_of_lt hx hy ha hb ha' hfinite, fun hpos => ?_, fun hneg => ?_⟩
    · calc a = rounded a := (rounded_eq_self hx ha).symm
        _ ≤ rounded (a + b) := rounded_mono (le_add_of_nonneg_right hpos)
    · calc rounded (a + b) ≤ rounded a := rounded_mono (add_le_of_nonpos_right hneg)
        _ = a := rounded_eq_self hx ha
  · obtain ⟨s, rfl⟩ := eq_infinity_of_not_lt hx ha ha'
    refine ⟨a, ?_, fun _ => le_rfl, fun _ => le_rfl⟩
    rw [add_infinity s hb hfinite, repack_infinity, ha]

theorem exists_worth?_of_isFinite {x : Float} (h : Number.isFinite x = true) :
    ∃ a, worth? x = some a ∧ a.natAbs < beyond := by
  have hdouble : IsDouble x.toModel.unpack := isDouble_unpack _
  rw [Number.isFinite, Bool.not_eq_true', OrderedNumber.isNaN_eq_false_iff, le_self_iff] at h
  obtain ⟨v, hv⟩ := h
  have hsub : value? (repack (UnpackedFloat.sub Format.binary64 x.toModel.unpack
      x.toModel.unpack)) = some v := hv
  unfold worth?
  cases hx : x.toModel.unpack with
  | notANumber =>
    rw [hx] at hsub
    cases hsub
  | infinity s =>
    rw [hx] at hsub
    cases s <;> cases hsub
  | zero s => exact ⟨0, rfl, beyond_pos⟩
  | finite s m e hm =>
    rw [hx] at hdouble
    refine ⟨_, rfl, ?_⟩
    rw [natAbs_apply]
    exact units_lt_beyond hdouble.1 hdouble.2

/-- What is finite can be taken away from every number. -/
theorem le_self_sub {x y : Float} (hx : x ≤ x) (hy : Number.isFinite y = true) : x - y ≤ x - y := by
  obtain ⟨a, ha⟩ := le_self_iff.1 hx
  obtain ⟨b, hb, hfinite⟩ := exists_worth?_of_isFinite hy
  obtain ⟨c, hc, -⟩ := exists_value?_repack_add (isDouble_unpack _)
    (isDouble_neg (isDouble_unpack _)) ha (value?_neg hb) (by rwa [Int.natAbs_neg])
  rw [← sub_eq_add_neg] at hc
  exact le_self_iff.2 ⟨c, hc⟩

end SpatialAccess.Double

namespace SpatialAccess

open Double

instance : MarginNumber Float where
  sub_le {x margin} hx hmargin hfinite := by
    obtain ⟨a, ha⟩ := le_self_iff.1 hx
    obtain ⟨b, hb⟩ := zero_le_iff.1 hmargin
    rw [isFinite_iff hb] at hfinite
    obtain ⟨c, hc, -, hle⟩ := exists_value?_repack_add (isDouble_unpack _)
      (isDouble_neg (isDouble_unpack _)) ha (value?_neg hb)
      (by rwa [Int.natAbs_neg, Int.natAbs_natCast])
    rw [← sub_eq_add_neg] at hc
    exact le_iff.2 ⟨c, a, hc, ha, hle (neg_nonpos.2 (Int.natCast_nonneg b))⟩
  le_add {x margin} hx hmargin hfinite := by
    obtain ⟨a, ha⟩ := le_self_iff.1 hx
    obtain ⟨b, hb⟩ := zero_le_iff.1 hmargin
    rw [isFinite_iff hb] at hfinite
    obtain ⟨c, hc, hle, -⟩ := exists_value?_repack_add (isDouble_unpack _) (isDouble_unpack _) ha hb
      (by rwa [Int.natAbs_natCast])
    exact le_iff.2 ⟨a, c, ha, hc, hle (Int.natCast_nonneg b)⟩
  zero_le_one := by decide +kernel
  isFinite_one := by decide +kernel

end SpatialAccess
