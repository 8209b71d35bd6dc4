import SpatialAccess.Proofs.Number.Double.Margin
import SpatialAccess.Proofs.Number.Double.Natural

/-!
# Doubles scaled to words

* **`Double.worth?_mul_words`**: a double times the number of words is the nearest double to as many
  times its worth.
* `Double.toNat_of_worth?`: the whole part of any double that is a number.
* The instance `RateNumber Float`.
-/

namespace SpatialAccess.Double

open Float.Model Float.Model.UnpackedFloat

/-- The double `2 ^ 64`. -/
theorem unpack_words : ((Nat.pow 2 64 : ℕ) : Float).toModel.unpack =
    .finite .positive (2 ^ 52) 12 (Nat.two_pow_pos 52) :=
  rfl

theorem units_words (m : ℕ) {e : ℤ} (he : -1074 ≤ e) :
    units (m * 2 ^ 52) (e + 12) = units m e * 2 ^ 64 := by
  have hexponent : (e + 12 + 1074).toNat = (e + 1074).toNat + 12 := by omega
  rw [units, units, hexponent]
  ring

theorem apply_words (s : Sign) (a : ℕ) :
    s.apply (a : ℤ) * 2 ^ 64 = s.apply ((a * 2 ^ 64 : ℕ) : ℤ) := by
  rw [apply_mul]
  push_cast
  rfl

theorem value?_repack_mul_words {x : UnpackedFloat} (hx : IsDouble x) {v : ℤ}
    (hv : value? x = some v) :
    value? (repack (UnpackedFloat.mul Format.binary64 x
      (.finite .positive (2 ^ 52) 12 (Nat.two_pow_pos 52)))) = some (rounded (v * 2 ^ 64)) := by
  cases x with
  | notANumber => cases hv
  | infinity s =>
    cases hv
    have hlarge : beyond ≤ nearest (beyond * 2 ^ 64) :=
      le_nearest_beyond.trans (nearest_mono (Nat.le_mul_of_pos_right _ (Nat.two_pow_pos 64)))
    have hproduct : UnpackedFloat.mul Format.binary64 (.infinity s)
        (.finite .positive (2 ^ 52) 12 (Nat.two_pow_pos 52)) = .infinity s := by cases s <;> rfl
    rw [hproduct, repack_infinity, apply_words, rounded_apply, rounded_natCast, min_eq_right hlarge]
    rfl
  | zero s =>
    cases hv
    rw [zero_mul, rounded_zero]
    exact congrArg value? (repack_zero _)
  | finite s m e hm =>
    cases hv
    have hle := hx.1.le
    have hsign : s * .positive = s := by cases s <;> rfl
    rw [value?_repack_mul_finite hm (Nat.two_pow_pos 52) le_rfl (by omega), units_words m hle, hsign,
      apply_words]

/-- **Scaling to words.** What becomes too great is infinite. -/
theorem worth?_mul_words {x : Float} {v : ℤ} (hx : worth? x = some v) :
    worth? (x * ((Nat.pow 2 64 : ℕ) : Float)) = some (rounded (v * 2 ^ 64)) := by
  have hmul : worth? (x * ((Nat.pow 2 64 : ℕ) : Float)) =
      value? (repack (UnpackedFloat.mul Format.binary64 x.toModel.unpack
        ((Nat.pow 2 64 : ℕ) : Float).toModel.unpack)) := rfl
  rw [hmul, unpack_words]
  exact value?_repack_mul_words (isDouble_unpack _) hx

theorem toInt_of_nonpos {x : UnpackedFloat} {v : ℤ} (hv : value? x = some v) (hle : v ≤ 0)
    (limit : ℤ) : (x.toInt 0 limit).toNat = 0 := by
  have hbeyond := beyond_pos
  cases x with
  | notANumber => rfl
  | infinity s =>
    cases hv
    cases s with
    | negative => rfl
    | positive =>
      rw [apply_positive] at hle
      omega
  | zero s => rfl
  | finite s m e hm =>
    cases hv
    have hpos := units_pos (e := e) hm
    cases s with
    | negative => exact Int.toNat_eq_zero.2 (neg_nonpos.2 (Int.natCast_nonneg _))
    | positive =>
      rw [apply_positive] at hle
      omega

theorem toNat_of_nonpos {x : Float} {v : ℤ} (hx : worth? x = some v) (hv : v ≤ 0) :
    Number.Double.toNat x = 0 := by
  have hclamp : Number.Double.toNat x =
      min (x.toModel.unpack.toInt 0 (2 ^ 64 - 1)).toNat (2 ^ 64 - 1) := toNat_ofNatClamp _
  rw [hclamp, toInt_of_nonpos hx hv, Nat.zero_min]

/-- **The whole part of a double**; below zero there is none. -/
theorem toNat_of_worth? {x : Float} {v : ℤ} (hx : worth? x = some v) :
    Number.Double.toNat x = min (v.toNat / oneWorth) (2 ^ 64 - 1) := by
  obtain ⟨a, rfl | rfl⟩ := v.eq_nat_or_neg
  · exact toNat_eq hx
  · rw [toNat_of_nonpos hx (neg_nonpos.2 (Int.natCast_nonneg a)), Int.toNat_neg_natCast, Nat.zero_div,
      Nat.zero_min]

end SpatialAccess.Double

namespace SpatialAccess

open Double

instance : RateNumber Float where
  toNat_scaled_le {p q} h := by
    obtain ⟨v, w, hv, hw, hle⟩ := le_iff.1 h
    have hscaled : rounded (v * 2 ^ 64) ≤ rounded (w * 2 ^ 64) :=
      rounded_mono (mul_le_mul_of_nonneg_right hle (by omega))
    have hp := toNat_of_worth? (worth?_mul_words hv)
    have hq := toNat_of_worth? (worth?_mul_words hw)
    show Number.Double.toNat _ ≤ Number.Double.toNat _
    rw [hp, hq]
    exact min_le_min_right _ (Nat.div_le_div_right (Int.toNat_le_toNat hscaled))

end SpatialAccess
