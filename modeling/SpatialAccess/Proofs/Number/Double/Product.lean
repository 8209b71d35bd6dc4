import SpatialAccess.Proofs.Number.Double.Sum

/-!
# Products of doubles

* `Double.units_mul_units`: what a product of mantissas with the sum of their exponents is worth.
* **`Double.value?_repack_mul_finite`**: the product of two finite doubles is the nearest double to
  the product of what they are worth, as long as it has no digits below the least exponent.
-/

namespace SpatialAccess.Double

open Float.Model Float.Model.UnpackedFloat

/-- What the double one is worth. -/
def oneWorth : ℕ :=
  units 1 0

theorem oneWorth_pos : 0 < oneWorth :=
  units_pos Nat.one_pos

theorem oneWorth_eq : oneWorth = 2 ^ (0 + 1074 : ℤ).toNat := by
  rw [oneWorth, units, Nat.one_mul]

/-- Mantissas are multiplied and exponents added; worths are multiples of the worth of one. -/
theorem units_mul_units (m m' : ℕ) {e e' : ℤ} (he : -1074 ≤ e) (he' : -1074 ≤ e')
    (hsum : -1074 ≤ e + e') : units m e * units m' e' = units (m * m') (e + e') * oneWorth := by
  have hexponents : (e + 1074).toNat + (e' + 1074).toNat =
      (e + e' + 1074).toNat + (0 + 1074 : ℤ).toNat := by omega
  calc units m e * units m' e' = m * m' * 2 ^ ((e + 1074).toNat + (e' + 1074).toNat) := by
        rw [units, units, Nat.mul_mul_mul_comm, Nat.pow_add]
    _ = units (m * m') (e + e') * oneWorth := by
        rw [hexponents, Nat.pow_add, ← Nat.mul_assoc, units, oneWorth_eq]

/-- **Two finite doubles are multiplied and rounded.** -/
theorem value?_repack_mul_finite {s s' : Sign} {m m' : ℕ} {e e' : ℤ} (hm : 0 < m) (hm' : 0 < m')
    (hfull : 2 ^ 52 ≤ m') (he : -1074 ≤ e + e') :
    value? (repack (UnpackedFloat.mul Format.binary64 (.finite s m e hm) (.finite s' m' e' hm'))) =
      some (rounded ((s * s').apply (units (m * m') (e + e')))) := by
  have hpos : 0 < m * m' := Nat.mul_pos hm hm'
  have hdigits : 52 ≤ (m * m').log2 :=
    (Nat.le_log2 hpos.ne').2 (hfull.trans (Nat.le_mul_of_pos_left m' hm))
  obtain ⟨m₁, e₁, hm₁, hround, hnormal, hnearest⟩ := roundWithAccuracy_eq (s * s') hpos he (by
    rw [excess, log2_units hpos]
    omega)
  have hmul : UnpackedFloat.mul Format.binary64 (.finite s m e hm) (.finite s' m' e' hm') =
      .finite (s * s') m₁ e₁ hm₁ := hround
  rw [hmul, value?_repack_finite _ hm₁ hnormal, hnearest, rounded_apply, rounded_natCast]

end SpatialAccess.Double
