import SpatialAccess.Proofs.Number.Double.Margin
import SpatialAccess.Proofs.Number.Double.Natural

/-!
# Whole numbers near doubles

* `Double.worth?_neg`, `Double.worth?_abs`: the sign of what a double is worth.
* `Double.worth?_sub_toNat`: what a double has behind the point needs no rounding.
* **`Double.roundNat_eq`**: the natural nearest to a double that is not negative, halves upward.
* **`Double.natCast_of_isWhole`**: a whole double between two naturals is a natural.
-/

namespace SpatialAccess.Double

open Float.Model Float.Model.UnpackedFloat

/-! ## Signs -/

/-- A double is packed without loss. -/
theorem repack_eq_self {x : UnpackedFloat} (hx : IsDouble x) : repack x = x := by
  cases x with
  | notANumber => rfl
  | infinity s => exact repack_infinity s
  | zero s => exact repack_zero s
  | finite s m e hm => exact repack_finite hm hx.1 hx.2

theorem worth?_neg {x : Float} {v : ℤ} (hx : worth? x = some v) : worth? (-x) = some (-v) := by
  have hneg : worth? (-x) = value? (repack x.toModel.unpack.neg) := rfl
  have hdouble : IsDouble x.toModel.unpack := isDouble_unpack _
  rw [hneg, repack_eq_self (isDouble_neg hdouble), value?_neg hx]

theorem value?_repack_abs {x : UnpackedFloat} (hx : IsDouble x) {v : ℤ} (hv : value? x = some v) :
    value? (repack x.abs) = some (v.natAbs : ℤ) := by
  cases x with
  | notANumber => cases hv
  | infinity s =>
    cases hv
    rw [natAbs_apply]
    exact congrArg value? (repack_infinity .positive)
  | zero s =>
    cases hv
    exact congrArg value? (repack_zero .positive)
  | finite s m e hm =>
    cases hv
    rw [natAbs_apply]
    exact congrArg value? (repack_finite hm hx.1 hx.2)

theorem worth?_abs {x : Float} {v : ℤ} (hx : worth? x = some v) :
    worth? x.abs = some (v.natAbs : ℤ) :=
  value?_repack_abs (isDouble_unpack _) hx

theorem lt_iff_of_worth? {x y : Float} {v w : ℤ} (hx : worth? x = some v) (hy : worth? y = some w) :
    x < y ↔ v < w := by
  rw [lt_iff, hx, hy]
  simp

/-! ## Behind the point -/

/-- What is behind the point can be written with the same exponent. -/
theorem nearest_mod_oneWorth {x : Float} {a : ℕ} (ha : worth? x = some (a : ℤ)) :
    nearest (a % oneWorth) = a % oneWorth := by
  obtain ⟨⟨m, e, hnormal, rfl⟩, -⟩ := exists_units ha
  have hle := hnormal.le
  by_cases he : 0 ≤ e
  · have hexponent : (e + 1074).toNat = e.toNat + (0 + 1074 : ℤ).toNat := by omega
    have hwhole : units m e % oneWorth = 0 := by
      rw [units, hexponent, Nat.pow_add, ← Nat.mul_assoc, oneWorth_eq, Nat.mul_mod_left]
    rw [hwhole]
    rfl
  · have hexponent : (0 + 1074 : ℤ).toNat = (-e).toNat + (e + 1074).toNat := by omega
    have hmod : units m e % oneWorth = units (m % 2 ^ (-e).toNat) e := by
      rw [oneWorth_eq, hexponent, Nat.pow_add, units, units, Nat.mul_mod_mul_right]
    rw [hmod, nearest_units_of_lt ((Nat.mod_le _ _).trans_lt hnormal.lt)]

/-- **What a double has behind the point needs no rounding.** -/
theorem worth?_sub_toNat {x : Float} {a : ℕ} (ha : worth? x = some (a : ℤ))
    (hle : a / oneWorth ≤ 2 ^ 53) :
    worth? (x - ((a / oneWorth : ℕ) : Float)) = some ((a % oneWorth : ℕ) : ℤ) := by
  have hsub : worth? (x - ((a / oneWorth : ℕ) : Float)) =
      value? (repack (UnpackedFloat.sub Format.binary64 x.toModel.unpack
        ((a / oneWorth : ℕ) : Float).toModel.unpack)) := rfl
  have hwhole := worth?_natCast hle
  have hsmall : a / oneWorth * oneWorth < beyond := mul_oneWorth_lt_beyond (by omega)
  have hless : a % oneWorth < beyond := (Nat.mod_lt a oneWorth_pos).trans
    ((Nat.one_mul oneWorth).symm ▸ mul_oneWorth_lt_beyond (n := 1) (by omega))
  have hsplit := Nat.div_add_mod' a oneWorth
  have hfinite : a < beyond := by
    have hmore : (a / oneWorth + 1) * oneWorth < beyond := mul_oneWorth_lt_beyond (by omega)
    have hmod := Nat.mod_lt a oneWorth_pos
    rw [Nat.add_mul] at hmore
    omega
  have hdifference : (a : ℤ) + -((a / oneWorth * oneWorth : ℕ) : ℤ) = ((a % oneWorth : ℕ) : ℤ) := by
    omega
  have hwholeFinite : (-((a / oneWorth * oneWorth : ℕ) : ℤ)).natAbs < beyond := by
    rw [Int.natAbs_neg, Int.natAbs_natCast]
    exact hsmall
  have hsum := value?_repack_add_of_lt (isDouble_unpack _) (isDouble_neg (isDouble_unpack _)) ha
    (value?_neg hwhole) hfinite hwholeFinite
  rw [hdifference, rounded_natCast, nearest_mod_oneWorth ha, min_eq_left hless.le] at hsum
  rw [hsub, sub_eq_add_neg]
  exact hsum

theorem worth?_half : worth? (0.5 : Float) = some ((units 1 (-1) : ℕ) : ℤ) := by
  decide +kernel

theorem two_mul_units_half : 2 * units 1 (-1) = oneWorth := by
  have hexponent : (0 + 1074 : ℤ).toNat = (-1 + 1074 : ℤ).toNat + 1 := by omega
  rw [oneWorth_eq, hexponent, Nat.pow_succ', units, Nat.one_mul]

/-- Halves are rounded upward by adding a half and dropping what is behind the point. -/
theorem div_eq_ite {w : ℕ} (hw : 0 < w) (a : ℕ) :
    (2 * a + w) / (2 * w) = if w ≤ 2 * (a % w) then a / w + 1 else a / w := by
  have hmod : a % w < w := Nat.mod_lt a hw
  have hsplit : 2 * a + w = 2 * (a % w) + w + 2 * w * (a / w) := by
    conv_lhs => rw [← Nat.div_add_mod a w]
    ring
  rw [hsplit, Nat.add_mul_div_left _ _ (by omega)]
  split
  · have hone : (2 * (a % w) + w) / (2 * w) = 1 := Nat.div_eq_of_lt_le (by omega) (by omega)
    rw [hone, Nat.add_comm]
  · have hzero : (2 * (a % w) + w) / (2 * w) = 0 := Nat.div_eq_of_lt (by omega)
    rw [hzero, Nat.zero_add]

/-- How many times one is nearest to a worth, halves upward. -/
def ones (a : ℕ) : ℕ :=
  (2 * a + oneWorth) / (2 * oneWorth)

theorem ones_le {a n : ℕ} (h : a ≤ n * oneWorth) : ones a ≤ n := by
  have hpos := oneWorth_pos
  have hnext : (n + 1) * (2 * oneWorth) = 2 * (n * oneWorth) + 2 * oneWorth := by ring
  refine Nat.le_of_lt_add_one ((Nat.div_lt_iff_lt_mul (by omega)).2 ?_)
  rw [hnext]
  omega

theorem ones_mul_oneWorth (n : ℕ) : ones (n * oneWorth) = n := by
  rw [ones, div_eq_ite oneWorth_pos, Nat.mul_mod_left, Nat.mul_div_cancel n oneWorth_pos, if_neg]
  have hpos := oneWorth_pos
  omega

/-- **The natural nearest to a double**, halves upward. -/
theorem roundNat_eq {x : Float} {a : ℕ} (ha : worth? x = some (a : ℤ)) (hle : a ≤ 2 ^ 53 * oneWorth) :
    Number.Double.roundNat x = ones a := by
  have htwice := two_mul_units_half
  have hlimit : worth? (9007199254740992.0 : Float) = some ((2 ^ 53 * oneWorth : ℕ) : ℤ) := by
    decide +kernel
  have hdiv : a / oneWorth ≤ 2 ^ 53 := Nat.div_le_of_le_mul (Nat.mul_comm _ _ ▸ hle)
  have htoNat : Number.Double.toNat x = a / oneWorth := by
    rw [toNat_eq ha, min_eq_left (by omega)]
  have hup : (0.5 : Float) ≤ x - Float.ofNat (a / oneWorth) ↔ oneWorth ≤ 2 * (a % oneWorth) := by
    refine (le_iff_of_worth? worth?_half (worth?_sub_toNat ha hdiv)).trans ?_
    generalize units 1 (-1) = half at htwice
    omega
  -- where nothing is tested any more there is nothing behind the point
  have hlarge : ¬a < 2 ^ 53 * oneWorth → ¬oneWorth ≤ 2 * (a % oneWorth) := by
    intro h
    have hpos := oneWorth_pos
    rw [hle.antisymm (not_lt.1 h), Nat.mul_mod_left]
    omega
  rw [Number.Double.roundNat, htoNat, ones, div_eq_ite oneWorth_pos]
  simp only [lt_iff_of_worth? ha hlimit, hup, Nat.cast_lt]
  by_cases h : oneWorth ≤ 2 * (a % oneWorth)
  · have hlt : a < 2 ^ 53 * oneWorth := by
      by_contra hge
      exact hlarge hge h
    rw [if_pos h, if_pos ⟨hlt, h⟩]
  · rw [if_neg h, if_neg fun hboth => h hboth.2]

/-! ## Whole doubles -/

theorem exists_value?_of_isFinite {x : UnpackedFloat} (h : x.isFinite = true) :
    ∃ v, value? x = some v := by
  cases x with
  | notANumber => cases h
  | infinity s => exact ⟨_, rfl⟩
  | zero s => exact ⟨_, rfl⟩
  | finite s m e hm => exact ⟨_, rfl⟩

theorem exists_worth?_of_isWhole {x : Float} (h : Number.Double.isWhole x = true) :
    ∃ v, worth? x = some v := by
  simp only [Number.Double.isWhole, Bool.and_eq_true] at h
  exact exists_value?_of_isFinite h.1

/-- A whole double is worth a multiple of one. -/
theorem div_mul_oneWorth_of_isWhole {x : Float} {a : ℕ} (ha : worth? x = some (a : ℤ))
    (hlt : a < 2 ^ 53 * oneWorth) (h : Number.Double.isWhole x = true) :
    a / oneWorth * oneWorth = a := by
  have hlimit : worth? (9007199254740992.0 : Float) = some ((2 ^ 53 * oneWorth : ℕ) : ℤ) := by
    decide +kernel
  have habs := worth?_abs ha
  rw [Int.natAbs_natCast] at habs
  have hdiv : a / oneWorth < 2 ^ 53 := (Nat.div_lt_iff_lt_mul oneWorth_pos).2 hlt
  have htoNat : Number.Double.toNat x.abs = a / oneWorth := by
    rw [toNat_eq habs, min_eq_left (by omega)]
  simp only [Number.Double.isWhole, Bool.and_eq_true, Bool.or_eq_true, decide_eq_true_eq,
    htoNat] at h
  obtain ⟨-, hlarge | hwhole⟩ := h
  · rw [le_iff_of_worth? hlimit habs] at hlarge
    omega
  · obtain ⟨b, c, hb, hc, rfl⟩ := beq_iff.1 hwhole
    have hcast : worth? (Float.ofNat (a / oneWorth)) =
        some ((a / oneWorth * oneWorth : ℕ) : ℤ) := worth?_natCast hdiv.le
    rw [hcast] at hb
    rw [habs] at hc
    exact Int.natCast_inj.1 (Option.some.inj (hb.trans hc.symm))

/-- **A whole double from one up to a natural is a natural.** -/
theorem natCast_of_isWhole {x : Float} {high : ℕ} (hwhole : Number.Double.isWhole x = true)
    (hlimit : high < 2 ^ 53) (hlow : ¬x < ((1 : ℕ) : Float)) (hhigh : ¬(high : Float) < x) :
    x = ((Number.Double.toNat x : ℕ) : Float) ∧ 1 ≤ Number.Double.toNat x ∧
      Number.Double.toNat x ≤ high := by
  obtain ⟨v, hv⟩ := exists_worth?_of_isWhole hwhole
  rw [lt_iff_of_worth? hv (worth?_natCast (by omega)), not_lt] at hlow
  rw [lt_iff_of_worth? (worth?_natCast hlimit.le) hv, not_lt] at hhigh
  obtain ⟨a, rfl⟩ := Int.eq_ofNat_of_zero_le ((Int.natCast_nonneg _).trans hlow)
  rw [Int.ofNat_le] at hlow hhigh
  have hlt : a < 2 ^ 53 * oneWorth :=
    hhigh.trans_lt (Nat.mul_lt_mul_of_pos_right hlimit oneWorth_pos)
  have hmul := div_mul_oneWorth_of_isWhole hv hlt hwhole
  have hone : 1 ≤ a / oneWorth := (Nat.le_div_iff_mul_le oneWorth_pos).2 hlow
  have hle : a / oneWorth ≤ high := Nat.div_le_of_le_mul (Nat.mul_comm _ _ ▸ hhigh)
  have htoNat : Number.Double.toNat x = a / oneWorth := by
    rw [toNat_eq hv, min_eq_left (by omega)]
  rw [htoNat]
  refine ⟨eq_of_worth? hv ?_ ?_, hone, hle⟩
  · rw [worth?_natCast (by omega), hmul]
  · have hprod := Nat.mul_pos hone oneWorth_pos
    rw [hmul] at hprod
    exact Int.natCast_ne_zero.2 hprod.ne'

end SpatialAccess.Double
