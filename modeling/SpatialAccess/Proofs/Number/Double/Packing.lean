import SpatialAccess.Proofs.Number.Double.Order
import SpatialAccess.Proofs.Number.Double.Rounding

/-!
# Packing doubles

* `Double.repack_finite`, `Double.repack_finite_of_le`: what is written in the one way is packed
  without loss unless it is too great, and then it is infinite.
* `Double.rounded`: a worth of either sign, rounded to the nearest double. `rounded_mono`: that
  keeps the order. `rounded_value`: what a double is worth needs no rounding.
* **`Double.value?_repack_normalize`**: a mantissa of either sign with an exponent is packed as the
  nearest double.
-/

namespace SpatialAccess.Double

open Float.Model Float.Model.UnpackedFloat

/-! ## Packing -/

theorem pack_finite {s : Sign} {m : ℕ} {e : ℤ} (hm : 0 < m) :
    UnpackedFloat.pack Format.binary64 (.finite s m e hm) =
      if 2 ^ 11 ≤ (e + 1023 + 52).toNat + 1 then packedInfinity Format.binary64 s
      else if m.log2 + 1 = 53 then
        packComponents Format.binary64 s (BitVec.ofNat 11 (e + 1023 + 52).toNat) (BitVec.ofNat 52 m)
      else packComponents Format.binary64 s 0#11 (BitVec.ofNat 52 m) :=
  rfl

/-- What comes back of a value that was packed. -/
def repack (x : UnpackedFloat) : UnpackedFloat :=
  UnpackedFloat.unpack Format.binary64 (UnpackedFloat.pack Format.binary64 x)

theorem repack_infinity (s : Sign) : repack (.infinity s) = .infinity s := by
  cases s <;> rfl

theorem repack_zero (s : Sign) : repack (.zero s) = .zero s := by
  cases s <;> rfl

theorem repack_finite_of_le {s : Sign} {m : ℕ} {e : ℤ} (hm : 0 < m) (he : 972 ≤ e) :
    repack (.finite s m e hm) = .infinity s := by
  have hlarge : 2 ^ 11 ≤ (e + 1023 + 52).toNat + 1 := by omega
  rw [repack, pack_finite, if_pos hlarge]
  exact repack_infinity s

theorem repack_full {s : Sign} {m : ℕ} {e : ℤ} (hm : 0 < m) (hfull : 2 ^ 52 ≤ m) (hlt : m < 2 ^ 53)
    (hle : -1074 ≤ e) (he : e < 972) : repack (.finite s m e hm) = .finite s m e hm := by
  have hsmall : ¬2 ^ 11 ≤ (e + 1023 + 52).toNat + 1 := by omega
  have hlog : m.log2 + 1 = 53 := by
    rw [(Nat.log2_eq_iff hm.ne').2 ⟨hfull, hlt⟩]
  have hexponent : (BitVec.ofNat 11 (e + 1023 + 52).toNat).toNat = (e + 1023 + 52).toNat := by
    rw [BitVec.toNat_ofNat, Nat.mod_eq_of_lt (by omega)]
  have hmantissa : (1#1 ++ BitVec.ofNat 52 m).toNat = m := by
    rw [toNat_append_implicit, BitVec.toNat_ofNat]
    omega
  -- the exponent is neither that of infinities nor that of numbers without a leading one
  have hones : BitVec.ofNat 11 (e + 1023 + 52).toNat ≠ -1#11 := by
    intro heq
    have hvalue : (-1#11).toNat = 2047 := rfl
    rw [heq] at hexponent
    omega
  have hleast : BitVec.ofNat 11 (e + 1023 + 52).toNat ≠ 0#11 := by
    intro heq
    have hvalue : (0#11).toNat = 0 := rfl
    rw [heq] at hexponent
    omega
  have hbias : (Format.binary64.exponentBias : ℤ) = 1023 := rfl
  rw [repack, pack_finite, if_neg hsmall, if_pos hlog, UnpackedFloat.unpack]
  simp only [unpackExponent_packComponents, unpackMantissa_packComponents,
    unpackSign_packComponents, Sign.ofBitVec_toBitVec]
  rw [if_neg hones, if_neg hleast]
  congr 1
  rw [hexponent, hbias]
  omega

theorem repack_least {s : Sign} {m : ℕ} (hm : 0 < m) (hlt : m < 2 ^ 52) :
    repack (.finite s m (-1074) hm) = .finite s m (-1074) hm := by
  have hsmall : ¬2 ^ 11 ≤ (-1074 + 1023 + 52 : ℤ).toNat + 1 := by omega
  have hlog : ¬m.log2 + 1 = 53 := by
    have hlog := (Nat.log2_lt hm.ne').2 hlt
    omega
  have hmantissa : (BitVec.ofNat 52 m).toNat = m := by
    rw [BitVec.toNat_ofNat, Nat.mod_eq_of_lt hlt]
  have hzero : BitVec.ofNat 52 m ≠ 0#52 := by
    intro heq
    have hvalue : (0#52).toNat = 0 := rfl
    rw [heq] at hmantissa
    omega
  have hones : 0#11 ≠ -1#11 := by decide
  rw [repack, pack_finite, if_neg hsmall, if_neg hlog, UnpackedFloat.unpack]
  simp only [unpackExponent_packComponents, unpackMantissa_packComponents,
    unpackSign_packComponents, Sign.ofBitVec_toBitVec]
  rw [if_neg hones, if_pos trivial, dif_neg hzero]
  congr 1

theorem repack_finite {s : Sign} {m : ℕ} {e : ℤ} (hm : 0 < m) (h : Normal m e) (he : e < 972) :
    repack (.finite s m e hm) = .finite s m e hm := by
  obtain hfull | hfew := le_or_gt (2 ^ 52) m
  · exact repack_full hm hfull h.lt h.le he
  · obtain rfl : e = -1074 := h.full.resolve_left (not_le.2 hfew)
    exact repack_least hm hfew

/-- **Packing loses nothing of a worth but what goes beyond all doubles.** -/
theorem value?_repack_finite (s : Sign) {m : ℕ} {e : ℤ} (hm : 0 < m) (h : Normal m e) :
    value? (repack (.finite s m e hm)) = some (s.apply ((min (units m e) beyond : ℕ) : ℤ)) := by
  by_cases he : e < 972
  · rw [repack_finite hm h he, min_eq_left (units_lt_beyond h he).le]
    rfl
  · have hle : beyond ≤ units m e := by
      obtain hlt | rfl := (not_lt.1 he).lt_or_eq
      · exact (units_lt_units normal_beyond h hlt).le
      · exact Nat.mul_le_mul_right _ (h.full.resolve_right (by omega))
    rw [repack_finite_of_le hm (not_lt.1 he), min_eq_right hle]
    rfl

/-! ## Rounding to a double -/

/-- A worth of either sign, rounded to 53 digits, or to an infinity if it is too great. -/
def rounded (v : ℤ) : ℤ :=
  v.sign * ((min (nearest v.natAbs) beyond : ℕ) : ℤ)

@[simp] theorem rounded_zero : rounded 0 = 0 := by
  rw [rounded, Int.sign_zero, zero_mul]

theorem rounded_natCast (n : ℕ) : rounded n = ((min (nearest n) beyond : ℕ) : ℤ) := by
  obtain rfl | hn := Nat.eq_zero_or_pos n
  · have hzero : nearest 0 = 0 := rfl
    rw [hzero, Nat.zero_min, Nat.cast_zero, rounded_zero]
  · rw [rounded, Int.sign_eq_one_of_pos (Int.natCast_pos.2 hn), one_mul, Int.natAbs_natCast]

theorem rounded_neg (v : ℤ) : rounded (-v) = -rounded v := by
  rw [rounded, Int.sign_neg, Int.natAbs_neg, neg_mul, rounded]

theorem rounded_apply (s : Sign) (v : ℤ) : rounded (s.apply v) = s.apply (rounded v) := by
  cases s with
  | negative => exact rounded_neg v
  | positive => rfl

/-- **Rounding keeps the order.** -/
theorem rounded_mono {v w : ℤ} (h : v ≤ w) : rounded v ≤ rounded w := by
  have hnat : ∀ {m n : ℕ}, m ≤ n → rounded m ≤ rounded n := by
    intro m n hmn
    rw [rounded_natCast, rounded_natCast, Int.ofNat_le]
    exact min_le_min_right _ (nearest_mono hmn)
  have hnonneg : ∀ n : ℕ, 0 ≤ rounded n := fun n => rounded_natCast n ▸ Int.natCast_nonneg _
  obtain ⟨m, rfl | rfl⟩ := v.eq_nat_or_neg <;> obtain ⟨n, rfl | rfl⟩ := w.eq_nat_or_neg
  · exact hnat (Int.ofNat_le.1 h)
  · obtain rfl : m = 0 := by omega
    obtain rfl : n = 0 := by omega
    exact le_rfl
  · rw [rounded_neg]
    exact (neg_nonpos.2 (hnonneg m)).trans (hnonneg n)
  · rw [rounded_neg, rounded_neg]
    exact neg_le_neg (hnat (Int.ofNat_le.1 (neg_le_neg_iff.1 h)))

/-- What a double is worth needs no rounding. -/
theorem rounded_value (s : Sign) {m : ℕ} {e : ℤ} (h : Normal m e) (he : e < 972) :
    rounded (s.apply (units m e)) = s.apply (units m e) := by
  rw [rounded_apply, rounded_natCast, nearest_units h, min_eq_left (units_lt_beyond h he).le]

theorem value?_repack_round (s : Sign) {m : ℕ} {e : ℤ} (hm : 0 < m) (he : -1074 ≤ e) :
    value? (repack (UnpackedFloat.round Format.binary64 s m e)) =
      some (rounded (s.apply (units m e))) := by
  obtain ⟨m', e', hm', hround, hnormal, hnearest⟩ := round_eq s hm he
  rw [hround, value?_repack_finite s hm' hnormal, hnearest, rounded_apply, rounded_natCast]

theorem normalize_apply (s : Sign) {m : ℕ} (hm : 0 < m) (e : ℤ) :
    UnpackedFloat.normalize Format.binary64 (s.apply m) e .positive =
      UnpackedFloat.round Format.binary64 s m e := by
  have hpos : (0 : ℤ) < m := Int.natCast_pos.2 hm
  cases s with
  | negative =>
    rw [apply_negative, UnpackedFloat.normalize, compare_lt_iff_lt.2 (neg_lt_zero.2 hpos)]
    simp only [neg_neg, Int.toNat_natCast]
  | positive =>
    rw [apply_positive, UnpackedFloat.normalize, compare_gt_iff_gt.2 hpos]
    rfl

theorem value?_repack_normalize_zero (e : ℤ) :
    value? (repack (UnpackedFloat.normalize Format.binary64 0 e .positive)) = some (rounded 0) := by
  have hcompare : compare (0 : ℤ) 0 = .eq := compare_eq_iff_eq.2 rfl
  rw [rounded_zero, UnpackedFloat.normalize, hcompare]
  exact congrArg value? (repack_zero .positive)

theorem apply_mul (s : Sign) (a b : ℤ) : s.apply a * b = s.apply (a * b) := by
  cases s with
  | negative => exact neg_mul a b
  | positive => rfl

/-- **A mantissa of either sign with an exponent is packed as the nearest double.** -/
theorem value?_repack_normalize (v : ℤ) {e : ℤ} (he : -1074 ≤ e) :
    value? (repack (UnpackedFloat.normalize Format.binary64 v e .positive)) =
      some (rounded (v * 2 ^ (e + 1074).toNat)) := by
  have happly : ∀ (s : Sign) {m : ℕ}, 0 < m →
      value? (repack (UnpackedFloat.normalize Format.binary64 (s.apply m) e .positive)) =
        some (rounded (s.apply m * 2 ^ (e + 1074).toNat)) := by
    intro s m hm
    rw [normalize_apply s hm, value?_repack_round s hm he, apply_mul, units]
    push_cast
    rfl
  obtain ⟨m, rfl | rfl⟩ := v.eq_nat_or_neg <;> obtain rfl | hm := Nat.eq_zero_or_pos m
  · rw [Nat.cast_zero, zero_mul]
    exact value?_repack_normalize_zero e
  · exact happly .positive hm
  · rw [Nat.cast_zero, neg_zero, zero_mul]
    exact value?_repack_normalize_zero e
  · exact happly .negative hm

end SpatialAccess.Double
