import Mathlib
import SpatialAccess.Proofs.Number.Laws

/-!
# What doubles are worth

A double that is a number is worth a whole multiple of the least positive double, and an infinity is
worth as much as the double that would come next after the greatest one.

* `Double.units`, `Double.Normal`: the worth of a mantissa with an exponent, and the one way to write
  it. `compare_units`: worths in this form compare by exponent, then by mantissa.
* `Double.value?`: the worth of a double. `compare_eq_map₂`: doubles compare by their worth.
-/

namespace SpatialAccess.Double

open Float.Model Float.Model.UnpackedFloat

/-! ## Mantissas with exponents -/

/-- The worth of a mantissa with an exponent, in units of the least positive double. -/
def units (m : ℕ) (e : ℤ) : ℕ :=
  m * 2 ^ (e + 1074).toNat

/-- The one way to write a worth: with 53 digits, or with fewer at the least exponent. -/
structure Normal (m : ℕ) (e : ℤ) : Prop where
  lt : m < 2 ^ 53
  le : -1074 ≤ e
  full : 2 ^ 52 ≤ m ∨ e = -1074

theorem units_pos {m : ℕ} {e : ℤ} (h : 0 < m) : 0 < units m e :=
  Nat.mul_pos h (Nat.two_pow_pos _)

theorem units_lt_units_left {m m' : ℕ} {e : ℤ} (h : m < m') : units m e < units m' e :=
  Nat.mul_lt_mul_of_pos_right h (Nat.two_pow_pos _)

theorem units_lt_units {m m' : ℕ} {e e' : ℤ} (h : Normal m e) (h' : Normal m' e') (he : e < e') :
    units m e < units m' e' := by
  have hle := h.le
  have hfull : 2 ^ 52 ≤ m' := h'.full.resolve_right (by omega)
  have hexponent : (e + 1074).toNat + 1 ≤ (e' + 1074).toNat := by omega
  calc units m e < 2 ^ 53 * 2 ^ (e + 1074).toNat :=
        Nat.mul_lt_mul_of_pos_right h.lt (Nat.two_pow_pos _)
    _ = 2 ^ 52 * 2 ^ ((e + 1074).toNat + 1) := by ring
    _ ≤ units m' e' := Nat.mul_le_mul hfull (Nat.pow_le_pow_right Nat.two_pos hexponent)

theorem compare_units {m m' : ℕ} {e e' : ℤ} (h : Normal m e) (h' : Normal m' e') :
    compare (units m e) (units m' e') = (compare e e').then (compare m m') := by
  obtain hlt | rfl | hgt := lt_trichotomy e e'
  · rw [compare_lt_iff_lt.2 hlt, compare_lt_iff_lt.2 (units_lt_units h h' hlt)]
    rfl
  · rw [compare_eq_iff_eq.2 rfl]
    obtain hlt | rfl | hgt := lt_trichotomy m m'
    · rw [compare_lt_iff_lt.2 hlt, compare_lt_iff_lt.2 (units_lt_units_left hlt)]
      rfl
    · rw [compare_eq_iff_eq.2 rfl, compare_eq_iff_eq.2 rfl]
      rfl
    · rw [compare_gt_iff_gt.2 hgt, compare_gt_iff_gt.2 (units_lt_units_left hgt)]
      rfl
  · rw [compare_gt_iff_gt.2 hgt, compare_gt_iff_gt.2 (units_lt_units h' h hgt)]
    rfl

/-! ## Worths -/

@[simp] theorem apply_negative (a : ℤ) : Sign.negative.apply a = -a := rfl

@[simp] theorem apply_positive (a : ℤ) : Sign.positive.apply a = a := rfl

theorem compare_natCast (a b : ℕ) : compare (a : ℤ) (b : ℤ) = compare a b := by
  obtain hlt | rfl | hgt := lt_trichotomy a b
  · rw [compare_lt_iff_lt.2 hlt, compare_lt_iff_lt.2 (Int.ofNat_lt.2 hlt)]
  · rw [compare_eq_iff_eq.2 rfl, compare_eq_iff_eq.2 rfl]
  · rw [compare_gt_iff_gt.2 hgt, compare_gt_iff_gt.2 (Int.ofNat_lt.2 hgt)]

theorem compare_neg_natCast (a b : ℕ) : compare (-(a : ℤ)) (-(b : ℤ)) = (compare a b).swap := by
  obtain hlt | rfl | hgt := lt_trichotomy a b
  · rw [compare_lt_iff_lt.2 hlt, compare_gt_iff_gt.2 (neg_lt_neg (Int.ofNat_lt.2 hlt))]
    rfl
  · rw [compare_eq_iff_eq.2 rfl, compare_eq_iff_eq.2 rfl]
    rfl
  · rw [compare_gt_iff_gt.2 hgt, compare_lt_iff_lt.2 (neg_lt_neg (Int.ofNat_lt.2 hgt))]
    rfl

/-- What an infinity is worth. -/
def beyond : ℕ :=
  units (2 ^ 52) 972

/-- What a number is worth. -/
def value? : UnpackedFloat → Option ℤ
  | .infinity s => some (s.apply beyond)
  | .notANumber => none
  | .zero _ => some 0
  | .finite s m e _ => some (s.apply (units m e))

/-- Whether a value is written in the one way, and small enough for a double. -/
def IsDouble : UnpackedFloat → Prop
  | .finite _ m e _ => Normal m e ∧ e < 972
  | _ => True

theorem normal_beyond : Normal (2 ^ 52) 972 :=
  ⟨Nat.pow_lt_pow_right one_lt_two (by omega), by omega, .inl le_rfl⟩

theorem units_lt_beyond {m : ℕ} {e : ℤ} (h : Normal m e) (he : e < 972) : units m e < beyond :=
  units_lt_units h normal_beyond he

theorem beyond_pos : 0 < beyond :=
  units_pos (Nat.two_pow_pos 52)

/-! ## Comparing -/

theorem lt_eq_map₂ {a b : ℤ} (h : a < b) : some .lt = Option.map₂ compare (some a) (some b) :=
  congrArg some (compare_lt_iff_lt.2 h).symm

theorem gt_eq_map₂ {a b : ℤ} (h : b < a) : some .gt = Option.map₂ compare (some a) (some b) :=
  congrArg some (compare_gt_iff_gt.2 h).symm

theorem eq_eq_map₂ (a : ℤ) : some .eq = Option.map₂ compare (some a) (some a) :=
  congrArg some (compare_eq_iff_eq.2 rfl).symm

/-- What is infinite is beyond all that is not. -/
theorem compare_infinity (s : Sign) {y : UnpackedFloat} (hy : IsDouble y) :
    (UnpackedFloat.infinity s).compare y = Option.map₂ compare (value? (.infinity s)) (value? y) := by
  have hbeyond := beyond_pos
  cases y with
  | notANumber => cases s <;> rfl
  | infinity s' =>
    cases s <;> cases s' <;> simp only [value?, apply_negative, apply_positive]
    · exact eq_eq_map₂ _
    · exact lt_eq_map₂ (by omega)
    · exact gt_eq_map₂ (by omega)
    · exact eq_eq_map₂ _
  | zero s' =>
    cases s <;> simp only [value?, apply_negative, apply_positive]
    · exact lt_eq_map₂ (by omega)
    · exact gt_eq_map₂ (by omega)
  | finite s' m' e' hm' =>
    have hsmall := units_lt_beyond hy.1 hy.2
    cases s <;> cases s' <;> simp only [value?, apply_negative, apply_positive]
    · exact lt_eq_map₂ (by omega)
    · exact lt_eq_map₂ (by omega)
    · exact gt_eq_map₂ (by omega)
    · exact gt_eq_map₂ (by omega)

theorem compare_zero (s : Sign) (y : UnpackedFloat) :
    (UnpackedFloat.zero s).compare y = Option.map₂ compare (value? (.zero s)) (value? y) := by
  have hbeyond := beyond_pos
  cases y with
  | notANumber => rfl
  | infinity s' =>
    cases s' <;> simp only [value?, apply_negative, apply_positive]
    · exact gt_eq_map₂ (by omega)
    · exact lt_eq_map₂ (by omega)
  | zero s' => exact eq_eq_map₂ _
  | finite s' m' e' hm' =>
    have hpos := units_pos (e := e') hm'
    cases s' <;> simp only [value?, apply_negative, apply_positive]
    · exact gt_eq_map₂ (by omega)
    · exact lt_eq_map₂ (by omega)

/-- Finite doubles compare by their units, and those are in the order of exponent and mantissa. -/
theorem compare_finite {s : Sign} {m : ℕ} {e : ℤ} {hm : 0 < m} {y : UnpackedFloat}
    (hx : IsDouble (.finite s m e hm)) (hy : IsDouble y) :
    (UnpackedFloat.finite s m e hm).compare y =
      Option.map₂ compare (value? (.finite s m e hm)) (value? y) := by
  have hpos := units_pos (e := e) hm
  cases y with
  | notANumber => cases s <;> rfl
  | infinity s' =>
    have hsmall := units_lt_beyond hx.1 hx.2
    cases s <;> cases s' <;> simp only [value?, apply_negative, apply_positive]
    · exact gt_eq_map₂ (by omega)
    · exact lt_eq_map₂ (by omega)
    · exact gt_eq_map₂ (by omega)
    · exact lt_eq_map₂ (by omega)
  | zero s' =>
    cases s <;> simp only [value?, apply_negative, apply_positive]
    · exact lt_eq_map₂ (by omega)
    · exact gt_eq_map₂ (by omega)
  | finite s' m' e' hm' =>
    have hpos' := units_pos (e := e') hm'
    have hunits := compare_units hx.1 hy.1
    cases s <;> cases s' <;> simp only [value?, apply_negative, apply_positive]
    · rw [Option.map₂_coe_coe, compare_neg_natCast, hunits]
      rfl
    · exact lt_eq_map₂ (by omega)
    · exact gt_eq_map₂ (by omega)
    · rw [Option.map₂_coe_coe, compare_natCast, hunits]
      rfl

/-- **Doubles compare by what they are worth.** -/
theorem compare_eq_map₂ {x y : UnpackedFloat} (hx : IsDouble x) (hy : IsDouble y) :
    x.compare y = Option.map₂ compare (value? x) (value? y) := by
  cases x with
  | notANumber => rfl
  | infinity s => exact compare_infinity s hy
  | zero s => exact compare_zero s y
  | finite s m e hm => exact compare_finite hx hy

end SpatialAccess.Double
