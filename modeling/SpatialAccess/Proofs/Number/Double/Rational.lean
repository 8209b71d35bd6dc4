import Mathlib.Data.Rat.Floor
import SpatialAccess.Proofs.Number.Double.Nearest

/-!
# Doubles as rational numbers

* `Double.rat?`: the number that a finite double is. `Double.rat?_eq_some_iff`: it is told by its
  worth.
* `roundAway`: the nearest integer, halves away from zero. **`Double.roundAway_eq`**: that of a double.
-/

namespace SpatialAccess

/-- The nearest integer, halves away from zero. -/
def roundAway (q : ℚ) : ℤ :=
  if q < 0 then -⌊-q + 1 / 2⌋ else ⌊q + 1 / 2⌋

namespace Double

open Float.Model Float.Model.UnpackedFloat

/-- The number that a double is, unless it is infinite or no number. -/
def rat? (x : Float) : Option ℚ :=
  match x.toModel.unpack with
  | .zero _ => some 0
  | .finite s m e _ => some (s.apply m * 2 ^ e)
  | _ => none

theorem cast_oneWorth : (oneWorth : ℚ) = 2 ^ (1074 : ℤ) := by
  rw [oneWorth_eq, Nat.cast_pow]
  rfl

/-- A mantissa with an exponent, in units of the least positive double. -/
theorem cast_units (s : Sign) (m : ℕ) {e : ℤ} (he : -1074 ≤ e) :
    ((s.apply (units m e) : ℤ) : ℚ) = s.apply m * 2 ^ e * oneWorth := by
  have hexponent : ((e + 1074).toNat : ℤ) = e + 1074 := Int.toNat_of_nonneg (by omega)
  have hpow : (2 : ℚ) ^ e * 2 ^ (1074 : ℤ) = 2 ^ (e + 1074).toNat := by
    rw [← zpow_add₀ two_ne_zero, ← zpow_natCast, hexponent]
  rw [cast_oneWorth, mul_assoc, hpow, units, Nat.cast_mul, ← apply_mul]
  push_cast
  rfl

/-- **The number that a double is** is its worth in ones. -/
theorem rat?_eq_some_iff {x : Float} {q : ℚ} :
    rat? x = some q ↔ ∃ v, worth? x = some v ∧ v.natAbs < beyond ∧ (v : ℚ) = q * oneWorth := by
  have hdouble : IsDouble x.toModel.unpack := isDouble_unpack _
  have hone : (oneWorth : ℚ) ≠ 0 := Nat.cast_ne_zero.2 oneWorth_pos.ne'
  unfold rat? worth?
  cases h : x.toModel.unpack with
  | notANumber =>
    show none = some q ↔ ∃ v, none = some v ∧ _
    simp only [reduceCtorEq, false_and, exists_false]
  | infinity s =>
    show none = some q ↔ ∃ v, some (s.apply beyond) = some v ∧ _
    simp only [Option.some.injEq, exists_eq_left', natAbs_apply, lt_irrefl, false_and, reduceCtorEq]
  | zero s =>
    have hzero : (0 : ℚ) = q * oneWorth ↔ 0 = q := by
      rw [zero_eq_mul, or_iff_left hone, eq_comm]
    show some 0 = some q ↔ ∃ v, some 0 = some v ∧ _
    simp only [Option.some.injEq, exists_eq_left', Int.natAbs_zero, beyond_pos, true_and,
      Int.cast_zero, hzero]
  | finite s m e hm =>
    rw [h] at hdouble
    have hlt : (s.apply (units m e : ℤ)).natAbs < beyond := by
      rw [natAbs_apply]
      exact units_lt_beyond hdouble.1 hdouble.2
    show some (s.apply m * 2 ^ e : ℚ) = some q ↔ ∃ v, some (s.apply (units m e : ℤ)) = some v ∧ _
    simp only [Option.some.injEq, exists_eq_left', hlt, true_and, cast_units s m hdouble.1.le,
      mul_left_inj' hone]

/-! ## Rounding -/

theorem floor_div_oneWorth (a : ℕ) : ⌊(a : ℚ) / oneWorth + 1 / 2⌋ = ones a := by
  have hone : (oneWorth : ℚ) ≠ 0 := Nat.cast_ne_zero.2 oneWorth_pos.ne'
  have hsum : (a : ℚ) / oneWorth + 1 / 2 = ((2 * a + oneWorth : ℕ) : ℚ) / (2 * oneWorth : ℕ) := by
    push_cast
    field_simp
  rw [hsum, Rat.floor_natCast_div_natCast, ones]
  rfl

/-- **The integer nearest to a double.** -/
theorem roundAway_eq {q : ℚ} {v : ℤ} (h : (v : ℚ) = q * oneWorth) :
    roundAway q = if v < 0 then -(ones v.natAbs : ℤ) else ones v.natAbs := by
  have hpos : (0 : ℚ) < oneWorth := Nat.cast_pos.2 oneWorth_pos
  have hq : q = (v : ℚ) / oneWorth := (eq_div_iff hpos.ne').2 h.symm
  have hneg : q < 0 ↔ v < 0 := by
    rw [hq, div_lt_iff₀ hpos, zero_mul, Int.cast_lt_zero]
  unfold roundAway
  simp only [hneg]
  split
  · next hv =>
    have habs : (-v : ℤ) = v.natAbs := by omega
    rw [← floor_div_oneWorth, ← Int.cast_natCast, ← habs, hq]
    push_cast
    rw [neg_div]
  · next hv =>
    have habs : (v : ℤ) = v.natAbs := by omega
    rw [← floor_div_oneWorth, ← Int.cast_natCast v.natAbs, ← habs, hq]

end Double

end SpatialAccess
