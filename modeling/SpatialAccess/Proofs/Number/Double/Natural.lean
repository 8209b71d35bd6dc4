import SpatialAccess.Proofs.Number.Double.Margin
import SpatialAccess.Proofs.Number.Double.Product

/-!
# Naturals among doubles

* `Double.eq_of_worth?`: two doubles that are worth the same, and not nothing, are the same.
* **`Double.worth?_natCast`**: naturals up to `2 ^ 53` are doubles. `Double.worth?_mul_int`,
  `Double.worth?_add_natural`: their products and sums are not rounded.
* **`Double.toNat_eq`**: the whole part of a double that is not negative.
* The instance `CountNumber Float`.
-/

namespace SpatialAccess.Double

open Float.Model Float.Model.UnpackedFloat

/-! ## What a double is worth tells it -/

theorem units_inj {m m' : ℕ} {e e' : ℤ} (h : Normal m e) (h' : Normal m' e')
    (hunits : units m e = units m' e') : m = m' ∧ e = e' := by
  obtain hlt | rfl | hgt := lt_trichotomy e e'
  · exact absurd hunits (units_lt_units h h' hlt).ne
  · exact ⟨Nat.eq_of_mul_eq_mul_right (Nat.two_pow_pos _) hunits, rfl⟩
  · exact absurd hunits (units_lt_units h' h hgt).ne'

/-- **A double that is not zero is told by what it is worth.** -/
theorem eq_of_worth? {x y : Float} {v : ℤ} (hx : worth? x = some v) (hy : worth? y = some v)
    (hne : v ≠ 0) : x = y := by
  obtain ⟨m, e, hnormal, hcode, hv⟩ := value?_unpack_eq_some hx
  obtain ⟨m', e', hnormal', hcode', hv'⟩ := value?_unpack_eq_some hy
  obtain ⟨⟨bits, hvalid⟩⟩ := x
  obtain ⟨⟨bits', hvalid'⟩⟩ := y
  simp only at hcode hcode' hv hv'
  have hunits : units m e = units m' e' := by split_ifs at hv hv' <;> omega
  obtain ⟨rfl, rfl⟩ := units_inj hnormal hnormal' hunits
  have hlt : bits.toBitVec.toNat < 2 ^ 64 := bits.toBitVec.isLt
  have hlt' : bits'.toBitVec.toNat < 2 ^ 64 := bits'.toBitVec.isLt
  -- the sign of the worth tells the first bit
  obtain rfl : bits = bits' := by
    refine UInt64.eq_of_toBitVec_eq (BitVec.eq_of_toNat_eq ?_)
    split_ifs at hv hv' <;> omega
  rfl

/-! ## Multiples of one -/

theorem units_zero (n : ℕ) : units n 0 = n * oneWorth := by
  rw [oneWorth, units, units, Nat.one_mul]

theorem two_pow_mul_oneWorth_le_beyond {k : ℕ} (hk : k ≤ 64) : 2 ^ k * oneWorth ≤ beyond := by
  have hexponent : k + (0 + 1074 : ℤ).toNat ≤ 52 + (972 + 1074 : ℤ).toNat := by omega
  calc 2 ^ k * oneWorth = 2 ^ (k + (0 + 1074 : ℤ).toNat) := by rw [← units_zero, units, Nat.pow_add]
    _ ≤ 2 ^ (52 + (972 + 1074 : ℤ).toNat) := Nat.pow_le_pow_right Nat.two_pos hexponent
    _ = beyond := by rw [Nat.pow_add, beyond, units]

theorem mul_oneWorth_lt_beyond {n : ℕ} (hn : n < 2 ^ 64) : n * oneWorth < beyond :=
  calc n * oneWorth < 2 ^ 64 * oneWorth := Nat.mul_lt_mul_of_pos_right hn oneWorth_pos
    _ ≤ beyond := two_pow_mul_oneWorth_le_beyond le_rfl

theorem nearest_mul_oneWorth {n : ℕ} (hn : n ≤ 2 ^ 53) : nearest (n * oneWorth) = n * oneWorth := by
  obtain hlt | rfl := hn.lt_or_eq
  · rw [← units_zero, nearest_units_of_lt hlt]
  · -- one digit too many, and it is zero
    have hexponent : 53 + (0 + 1074 : ℤ).toNat = (53 + 1074 : ℤ).toNat := by omega
    have hunits : 2 ^ 53 * oneWorth = units 1 53 := by
      rw [oneWorth_eq, units, Nat.one_mul, ← Nat.pow_add, hexponent]
    rw [hunits, nearest_units_of_lt (by omega)]

theorem min_nearest_mul_oneWorth {n : ℕ} (hn : n ≤ 2 ^ 53) :
    min (nearest (n * oneWorth)) beyond = n * oneWorth := by
  rw [nearest_mul_oneWorth hn, min_eq_left (mul_oneWorth_lt_beyond (by omega)).le]

theorem worth?_toFloat {n : ℕ} (hn : n < 2 ^ 53) :
    worth? n.toUInt64.toFloat = some ((n * oneWorth : ℕ) : ℤ) := by
  have hword : n.toUInt64.toNat = n := Nat.mod_eq_of_lt (by omega)
  have hpack : worth? n.toUInt64.toFloat = value? (repack
      (UnpackedFloat.normalize Format.binary64 (n.toUInt64.toNat : ℤ) 0 .positive)) := rfl
  have hrounded : rounded ((n * oneWorth : ℕ) : ℤ) = ((n * oneWorth : ℕ) : ℤ) := by
    rw [rounded_natCast, min_nearest_mul_oneWorth hn.le]
  rw [hpack, hword, value?_repack_normalize _ (by omega), ← hrounded, ← units_zero, units]
  simp only [Nat.cast_mul, Nat.cast_pow, Nat.cast_ofNat]

/-- A multiple of one has no digits far below one. -/
theorem le_of_units_eq {m n : ℕ} {e : ℤ} (hm : m < 2 ^ 53) (hn : 0 < n)
    (h : units m e = n * oneWorth) : -52 ≤ e := by
  refine not_lt.1 fun hlt => ?_
  have hexponent : 53 + (e + 1074).toNat ≤ (0 + 1074 : ℤ).toNat := by omega
  have hsmall : units m e < oneWorth :=
    calc units m e < 2 ^ 53 * 2 ^ (e + 1074).toNat :=
          Nat.mul_lt_mul_of_pos_right hm (Nat.two_pow_pos _)
      _ ≤ oneWorth := by
          rw [← Nat.pow_add, oneWorth_eq]
          exact Nat.pow_le_pow_right Nat.two_pos hexponent
  exact hsmall.not_ge (h ▸ Nat.le_mul_of_pos_left _ hn)

/-- How a multiple of one is written. -/
theorem cases_of_value?_mul_oneWorth {x : UnpackedFloat} (hx : IsDouble x) {n : ℤ}
    (hn : n.natAbs < 2 ^ 64) (hv : value? x = some (n * oneWorth)) :
    (∃ s, x = .zero s ∧ n = 0) ∨
      ∃ s m e hm, x = .finite s m e hm ∧ 2 ^ 52 ≤ m ∧ -52 ≤ e ∧
        s.apply (units m e) = n * oneWorth := by
  have hnatAbs : (n * oneWorth : ℤ).natAbs = n.natAbs * oneWorth := by
    rw [Int.natAbs_mul, Int.natAbs_natCast]
  cases x with
  | notANumber => cases hv
  | infinity s =>
    have hbeyond : n.natAbs * oneWorth = beyond := by
      rw [← hnatAbs, ← Option.some.inj hv, natAbs_apply]
    exact absurd hbeyond (mul_oneWorth_lt_beyond hn).ne
  | zero s =>
    have hzero : n * (oneWorth : ℤ) = 0 := (Option.some.inj hv).symm
    have hone : (oneWorth : ℤ) ≠ 0 := Int.natCast_ne_zero.2 oneWorth_pos.ne'
    exact .inl ⟨s, rfl, (mul_eq_zero.1 hzero).resolve_right hone⟩
  | finite s m e hm =>
    have hvalue : s.apply (units m e) = n * oneWorth := Option.some.inj hv
    have hunits : units m e = n.natAbs * oneWorth := by
      rw [← hnatAbs, ← hvalue, natAbs_apply]
    have hpos : 0 < n.natAbs := Nat.pos_of_mul_pos_right (hunits ▸ units_pos hm)
    have he : -52 ≤ e := le_of_units_eq hx.1.lt hpos hunits
    exact .inr ⟨s, m, e, hm, rfl, hx.1.full.resolve_right (by omega), he, hvalue⟩

/-- Multiples of one are not rounded. -/
theorem rounded_mul_oneWorth {n : ℤ} (hn : n.natAbs ≤ 2 ^ 53) :
    rounded (n * oneWorth) = n * oneWorth := by
  have hnat : ∀ k : ℕ, k ≤ 2 ^ 53 → rounded ((k : ℤ) * oneWorth) = k * oneWorth := by
    intro k hk
    rw [← Nat.cast_mul, rounded_natCast, min_nearest_mul_oneWorth hk]
  obtain ⟨k, rfl | rfl⟩ := n.eq_nat_or_neg
  · exact hnat k (by omega)
  · rw [neg_mul, rounded_neg, hnat k (by omega)]

theorem mul_apply_mul (s s' : Sign) (v w : ℤ) : (s * s').apply (v * w) = s.apply v * s'.apply w := by
  cases s <;> cases s'
  · exact (neg_mul_neg v w).symm
  · exact (neg_mul v w).symm
  · exact (mul_neg v w).symm
  · rfl

/-- **Products of integers are not rounded.** -/
theorem value?_repack_mul_int {x y : UnpackedFloat} (hx : IsDouble x) (hy : IsDouble y) {m n : ℤ}
    (hxm : value? x = some (m * oneWorth)) (hyn : value? y = some (n * oneWorth))
    (hm : m.natAbs < 2 ^ 64) (hn : n.natAbs < 2 ^ 64) (h : (m * n).natAbs ≤ 2 ^ 53) :
    value? (repack (UnpackedFloat.mul Format.binary64 x y)) = some (m * n * oneWorth) := by
  obtain ⟨s, rfl, rfl⟩ | ⟨s, a, e, ha, rfl, hfull, he, hvalue⟩ :=
    cases_of_value?_mul_oneWorth hx hm hxm
  · rw [zero_mul, zero_mul]
    obtain ⟨s', rfl, -⟩ | ⟨s', b, e', hb, rfl, -⟩ := cases_of_value?_mul_oneWorth hy hn hyn
    · exact congrArg value? (repack_zero _)
    · exact congrArg value? (repack_zero _)
  obtain ⟨s', rfl, rfl⟩ | ⟨s', b, e', hb, rfl, hfull', he', hvalue'⟩ :=
    cases_of_value?_mul_oneWorth hy hn hyn
  · rw [mul_zero, zero_mul]
    exact congrArg value? (repack_zero _)
  have hunits : units a e * units b e' = units (a * b) (e + e') * oneWorth :=
    units_mul_units a b (by omega) (by omega) (by omega)
  have hproduct : (s * s').apply (units (a * b) (e + e')) * oneWorth =
      m * n * oneWorth * oneWorth := by
    rw [apply_mul, ← Nat.cast_mul, ← hunits, Nat.cast_mul, mul_apply_mul, hvalue, hvalue',
      mul_mul_mul_comm, mul_assoc (m * n)]
  have hone : (oneWorth : ℤ) ≠ 0 := Int.natCast_ne_zero.2 oneWorth_pos.ne'
  rw [value?_repack_mul_finite ha hb hfull' (by omega), mul_right_cancel₀ hone hproduct,
    rounded_mul_oneWorth h]

theorem worth?_mul_int {x y : Float} {m n : ℤ} (hx : worth? x = some (m * oneWorth))
    (hy : worth? y = some (n * oneWorth)) (hm : m.natAbs < 2 ^ 64) (hn : n.natAbs < 2 ^ 64)
    (h : (m * n).natAbs ≤ 2 ^ 53) : worth? (x * y) = some (m * n * oneWorth) :=
  value?_repack_mul_int (isDouble_unpack _) (isDouble_unpack _) hx hy hm hn h

theorem worth?_mul_natural {x y : Float} {m n : ℕ} (hx : worth? x = some ((m * oneWorth : ℕ) : ℤ))
    (hy : worth? y = some ((n * oneWorth : ℕ) : ℤ)) (hm : m < 2 ^ 64) (hn : n < 2 ^ 64)
    (h : m * n ≤ 2 ^ 53) : worth? (x * y) = some ((m * n * oneWorth : ℕ) : ℤ) := by
  rw [Nat.cast_mul] at hx hy
  rw [worth?_mul_int hx hy hm hn (by rw [← Nat.cast_mul, Int.natAbs_natCast]; exact h), Nat.cast_mul,
    Nat.cast_mul]

/-- **Naturals up to `2 ^ 53` are doubles.** -/
theorem worth?_natCast {n : ℕ} (hn : n ≤ 2 ^ 53) :
    worth? ((n : ℕ) : Float) = some ((n * oneWorth : ℕ) : ℤ) := by
  obtain hlt | rfl := hn.lt_or_eq
  case inr => decide +kernel
  have hcast : ((n : ℕ) : Float) = n.toUInt64.toFloat * 1.0 := by
    show Float.ofScientific n false 0 = _
    rw [Float.ofScientific, dif_pos ⟨hlt, by omega⟩]
    rfl
  have hone : worth? (1.0 : Float) = some ((1 * oneWorth : ℕ) : ℤ) := by
    decide +kernel
  rw [hcast, worth?_mul_natural (worth?_toFloat hlt) hone (by omega) (by omega) (by omega),
    Nat.mul_one]

/-- Sums of naturals are not rounded. -/
theorem worth?_add_natural {x y : Float} {m n : ℕ} (hx : worth? x = some ((m * oneWorth : ℕ) : ℤ))
    (hy : worth? y = some ((n * oneWorth : ℕ) : ℤ)) (h : m + n ≤ 2 ^ 53) :
    worth? (x + y) = some (((m + n) * oneWorth : ℕ) : ℤ) := by
  rw [worth?_add hx hy, ← Nat.add_mul, min_nearest_mul_oneWorth h]

/-! ## Whole parts -/

theorem toNat_ofNatClamp (n : ℕ) : (UInt64.ofNatClamp n).toNat = min n (2 ^ 64 - 1) := by
  have hsize : UInt64.size = 2 ^ 64 := rfl
  rw [UInt64.ofNatClamp]
  split <;> rw [UInt64.toNat_ofNatLT] <;> omega

/-- Digits behind the point are dropped. -/
theorem roundToInt_eq (m : ℕ) {e : ℤ} (he : -1074 ≤ e) :
    roundToInt .positive m e = ((units m e / oneWorth : ℕ) : ℤ) := by
  have hunits := units_shiftLeft m (le_min he (by omega : -1074 ≤ 0)) (min_le_left e 0)
  rw [roundToInt, decreaseExponent_eq]
  generalize m <<< (e - min e 0).toNat = m' at hunits ⊢
  have hlow : (0 + 1074 : ℤ).toNat = (0 - min e 0).toNat + (min e 0 + 1074).toNat := by omega
  have hdiv : units m e / oneWorth = m' / 2 ^ (0 - min e 0).toNat := by
    rw [← hunits, oneWorth, units, units, Nat.one_mul, hlow, Nat.pow_add,
      Nat.mul_div_mul_right _ _ (Nat.two_pow_pos _)]
  rw [hdiv, ← (Tracks.shiftRight m' (0 - min e 0).toNat).mantissa]
  rfl

/-- **The whole part of a double that is not negative**, or the greatest word if it is beyond. -/
theorem toNat_eq {x : Float} {a : ℕ} (ha : worth? x = some (a : ℤ)) :
    Number.Double.toNat x = min (a / oneWorth) (2 ^ 64 - 1) := by
  have hclamp : Number.Double.toNat x =
      min (x.toModel.unpack.toInt 0 (2 ^ 64 - 1)).toNat (2 ^ 64 - 1) := toNat_ofNatClamp _
  have hdouble : IsDouble x.toModel.unpack := isDouble_unpack _
  rw [hclamp]
  obtain ⟨hx, ha'⟩ | ⟨s, hx, ha'⟩ | ⟨m, e, hm, hx, ha'⟩ := cases_of_value? ha
  · have hlarge : 2 ^ 64 ≤ a / oneWorth := by
      rw [ha', Nat.le_div_iff_mul_le oneWorth_pos]
      exact two_pow_mul_oneWorth_le_beyond le_rfl
    rw [hx, min_eq_right (by omega : 2 ^ 64 - 1 ≤ a / oneWorth)]
    rfl
  · rw [hx, ha', Nat.zero_div]
    rfl
  · rw [hx] at hdouble ⊢
    rw [UnpackedFloat.toInt, roundToInt_eq m hdouble.1.le, Int.toNat_natCast, ha']

end SpatialAccess.Double

namespace SpatialAccess

open Double

/-- There are far more naturals among the doubles than identifiers. -/
theorem Id.limit_lt : Id.limit < 2 ^ 53 := by
  decide

instance : CountNumber Float where
  natCast_le_natCast {m n} h hn := by
    have hlimit := Id.limit_lt
    rw [le_iff_of_worth? (worth?_natCast (by omega)) (worth?_natCast (by omega))]
    exact Nat.mul_le_mul_right _ h
  natCast_add {m n} h := by
    have hlimit := Id.limit_lt
    obtain hzero | hpos := Nat.eq_zero_or_pos (m + n)
    · obtain ⟨rfl, rfl⟩ := Nat.add_eq_zero_iff.1 hzero
      decide +kernel
    · exact eq_of_worth?
        (worth?_add_natural (worth?_natCast (by omega)) (worth?_natCast (by omega)) (by omega))
        (worth?_natCast (by omega)) (Int.natCast_ne_zero.2 (Nat.mul_pos hpos oneWorth_pos).ne')
  neg_zero_add {n} h := by
    have hlimit := Id.limit_lt
    have hnegative : worth? (-((0 : ℕ) : Float)) = some ((0 * oneWorth : ℕ) : ℤ) := by
      rw [Nat.zero_mul]
      rfl
    obtain rfl | hpos := Nat.eq_zero_or_pos n
    · decide +kernel
    · have hsum := worth?_add_natural hnegative (worth?_natCast (n := n) (by omega)) (by omega)
      rw [Nat.zero_add] at hsum
      exact eq_of_worth? hsum (worth?_natCast (by omega))
        (Int.natCast_ne_zero.2 (Nat.mul_pos hpos oneWorth_pos).ne')
  toNat_lt_iff {x n} hx hn := by
    have hlimit := Id.limit_lt
    obtain ⟨a, ha⟩ := zero_le_iff.1 hx
    have hcast := worth?_natCast (n := n) (by omega)
    have hlt : x < (n : Float) ↔ a < n * oneWorth := by
      rw [OrderedNumber.lt_iff_le_not_le, le_iff_of_worth? ha hcast, le_iff_of_worth? hcast ha]
      omega
    have htoNat : Number.toNat x = min (a / oneWorth) (2 ^ 64 - 1) := toNat_eq ha
    rw [hlt, htoNat, ← Nat.div_lt_iff_lt_mul oneWorth_pos]
    omega

end SpatialAccess
