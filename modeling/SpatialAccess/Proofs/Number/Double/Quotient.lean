import SpatialAccess.Proofs.Number.Double.Margin

/-!
# Quotients of doubles

* `Double.exists_value?_repack`: what has a sign is packed as a number of this sign, whether it is
  written in the one way or not.
* **`Double.zero_le_div`**: the quotient of a number that is not negative by a positive one is not
  negative, unless both are infinite.
* `Double.le_self_div`: the quotient of a number by something finite and positive is a number.
-/

namespace SpatialAccess.Double

open Float.Model Float.Model.UnpackedFloat

theorem exists_value?_unpack (s : Sign) {exponent : BitVec 11} (h : exponent ≠ -1#11)
    (mantissa : BitVec 52) :
    ∃ a : ℕ, value? (UnpackedFloat.unpack Format.binary64
      (packComponents Format.binary64 s exponent mantissa)) = some (s.apply a) := by
  have hzero : (0 : ℤ) = s.apply (0 : ℕ) := by cases s <;> rfl
  rw [UnpackedFloat.unpack]
  simp only [unpackExponent_packComponents, unpackMantissa_packComponents,
    unpackSign_packComponents, Sign.ofBitVec_toBitVec]
  rw [if_neg h]
  split
  · split
    · exact ⟨0, congrArg some hzero⟩
    · exact ⟨_, rfl⟩
  · exact ⟨_, rfl⟩

theorem exists_value?_repack (s : Sign) {m : ℕ} {e : ℤ} (hm : 0 < m) :
    ∃ a : ℕ, value? (repack (.finite s m e hm)) = some (s.apply a) := by
  rw [repack, pack_finite]
  split
  · exact ⟨beyond, congrArg value? (repack_infinity s)⟩
  · next hsmall =>
    split
    · refine exists_value?_unpack s (fun heq => ?_) _
      -- the exponent that stands for infinities is beyond the ones that are left
      have hexponent := congrArg BitVec.toNat heq
      have hones : (-1#11).toNat = 2047 := rfl
      rw [BitVec.toNat_ofNat, hones] at hexponent
      omega
    · exact exists_value?_unpack s (by decide) _

theorem exists_value?_repack_roundWithAccuracy (s : Sign) (m : ℕ) (e : ℤ) (accuracy : Accuracy) :
    ∃ a : ℕ, value? (repack (roundWithAccuracy Format.binary64 s m e accuracy)) =
      some (s.apply a) := by
  have hzero : (0 : ℤ) = s.apply (0 : ℕ) := by cases s <;> rfl
  simp only [roundWithAccuracy]
  split
  · exact ⟨0, (congrArg value? (repack_zero s)).trans (congrArg some hzero)⟩
  · exact exists_value?_repack s _

/-- Quotients of numbers that are not negative, the second of which is not zero. -/
theorem exists_value?_repack_div {x y : UnpackedFloat} {a b : ℕ} (ha : value? x = some (a : ℤ))
    (hb : value? y = some (b : ℤ)) (hpos : 0 < b) (h : a < beyond ∨ b < beyond) :
    ∃ c : ℕ, value? (repack (UnpackedFloat.div Format.binary64 x y)) = some (c : ℤ) := by
  obtain ⟨rfl, ha'⟩ | ⟨s, rfl, -⟩ | ⟨m, e, hm, rfl, -⟩ := cases_of_value? ha
  · obtain ⟨rfl, hb'⟩ | ⟨s', rfl, hb'⟩ | ⟨m', e', hm', rfl, -⟩ := cases_of_value? hb
    · omega
    · omega
    · exact ⟨beyond, congrArg value? (repack_infinity .positive)⟩
  · obtain ⟨rfl, -⟩ | ⟨s', rfl, hb'⟩ | ⟨m', e', hm', rfl, -⟩ := cases_of_value? hb
    · exact ⟨0, congrArg value? (repack_zero _)⟩
    · omega
    · exact ⟨0, congrArg value? (repack_zero _)⟩
  · obtain ⟨rfl, -⟩ | ⟨s', rfl, hb'⟩ | ⟨m', e', hm', rfl, -⟩ := cases_of_value? hb
    · exact ⟨0, congrArg value? (repack_zero _)⟩
    · omega
    · exact exists_value?_repack_roundWithAccuracy .positive _ _ _

theorem zero_lt_iff {x : Float} :
    ((0 : Nat) : Float) < x ↔ ∃ a : ℕ, worth? x = some (a : ℤ) ∧ 0 < a := by
  rw [lt_iff, worth?_zero]
  constructor
  · rintro ⟨z, a, hz, ha, hlt⟩
    obtain rfl : 0 = z := Option.some.inj hz
    obtain ⟨k, rfl⟩ := Int.eq_ofNat_of_zero_le hlt.le
    exact ⟨k, ha, Int.natCast_pos.1 hlt⟩
  · rintro ⟨a, ha, hpos⟩
    exact ⟨0, a, rfl, ha, Int.natCast_pos.2 hpos⟩

/-- **A quotient by a positive double is not negative if the dividend is not**, unless both are
infinite. -/
theorem zero_le_div {x y : Float} (hx : ((0 : Nat) : Float) ≤ x) (hy : ((0 : Nat) : Float) < y)
    (h : Number.isFinite x = true ∨ Number.isFinite y = true) : ((0 : Nat) : Float) ≤ x / y := by
  obtain ⟨a, ha⟩ := zero_le_iff.1 hx
  obtain ⟨b, hb, hpos⟩ := zero_lt_iff.1 hy
  rw [isFinite_iff ha, isFinite_iff hb] at h
  exact zero_le_iff.2 (exists_value?_repack_div ha hb hpos h)

/-- A number divided by something finite and positive is a number. -/
theorem le_self_div {x y : Float} (hx : x ≤ x) (hy : ((0 : Nat) : Float) < y)
    (hfinite : Number.isFinite y = true) : x / y ≤ x / y := by
  obtain ⟨a, ha⟩ := le_self_iff.1 hx
  obtain ⟨b, hb, hpos⟩ := zero_lt_iff.1 hy
  rw [isFinite_iff hb] at hfinite
  have hdiv : worth? (x / y) =
      value? (repack (UnpackedFloat.div Format.binary64 x.toModel.unpack y.toModel.unpack)) := rfl
  rw [le_self_iff, hdiv]
  obtain ⟨-, hb'⟩ | ⟨s, -, hb'⟩ | ⟨m, e, hm, hy', -⟩ := cases_of_value? hb
  · omega
  · omega
  · rw [hy']
    cases hx' : x.toModel.unpack with
    | notANumber =>
      rw [worth?, hx'] at ha
      cases ha
    | infinity s => exact ⟨_, congrArg value? (repack_infinity _)⟩
    | zero s => exact ⟨_, congrArg value? (repack_zero _)⟩
    | finite s m' e' hm' =>
      obtain ⟨c, hc⟩ := exists_value?_repack_roundWithAccuracy _ _ _ _
      exact ⟨_, hc⟩

end SpatialAccess.Double
