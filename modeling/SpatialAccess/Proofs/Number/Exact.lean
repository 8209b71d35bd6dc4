import Mathlib.Analysis.SpecialFunctions.Pow.Real
import SpatialAccess.Proofs.Number.Laws

/-!
# Exact arithmetic

The reals are numbers, with nothing infinite and nothing undefined among them. Laws that hold only
without rounding are stated for them.

* `Number.exactLiteral?`: the real that a literal writes.
* The instances `Number ℝ`, `OrderedNumber ℝ`, `CostNumber ℝ`, `MarginNumber ℝ`, `RateNumber ℝ` and
  `CountNumber ℝ`.
* `Number.lower_real`, `Number.upper_real`, `Number.sum_real`: what has an order of its own for
  doubles is what it seems to be.
-/

namespace SpatialAccess

/-- The real that a literal writes; an infinity and an undefined value are none. -/
noncomputable def Number.exactLiteral? : Decimal.Literal → Option ℝ
  | .nan => none
  | .infinity _ => none
  | .finite negative digits exponent =>
    let size : ℝ := digits * ((10 : ℕ) : ℝ) ^ exponent
    some (if negative then -size else size)

/-- Exact numbers. -/
noncomputable instance : Number ℝ where
  beq x y := decide (x = y)
  decidableLT := inferInstance
  decidableLE := inferInstance
  totalLE x y := decide (x ≤ y)
  abs x := |x|
  sqrt := Real.sqrt
  pow x y := x ^ y
  exp := Real.exp
  log := Real.log
  toNat x := ⌊x⌋₊
  ceilNat x := ⌈x⌉₊
  roundNat x := ⌊x + 1 / 2⌋₊
  isWhole x := decide (Int.fract x = 0)
  ofLiteral? := Number.exactLiteral?

instance : OrderedNumber ℝ where
  le_left _ := le_rfl
  le_right _ := le_rfl
  le_trans h h' := le_trans h h'
  le_total _ _ := le_total _ _
  lt_iff_le_not_le := lt_iff_le_not_ge
  beq_iff_le_le {a b} := by
    change decide (a = b) = true ↔ _
    rw [decide_eq_true_iff]
    exact le_antisymm_iff
  totalLE_total a b := by
    change decide (a ≤ b) = true ∨ decide (b ≤ a) = true
    simpa using le_total a b
  le_of_totalLE _ _ h := of_decide_eq_true h

namespace Number

@[simp] theorem isNaN_real (x : ℝ) : isNaN x = false :=
  OrderedNumber.isNaN_eq_false_iff.2 le_rfl

@[simp] theorem isFinite_real (x : ℝ) : isFinite x = true := by
  simp [isFinite]

theorem lower_real (a b : ℝ) : lower a b = min a b := by
  simp only [lower, isNaN_real, Bool.false_eq_true, if_false]
  split
  · next h => exact (min_eq_right h.le).symm
  · next h => exact (min_eq_left (not_lt.1 h)).symm

theorem upper_real (a b : ℝ) : upper a b = max a b := by
  simp only [upper, isNaN_real, Bool.false_eq_true, if_false]
  split
  · next h => exact (max_eq_right h.le).symm
  · next h => exact (max_eq_left (not_lt.1 h)).symm

/-- Without rounding it does not matter where a sum starts. -/
theorem sum_real (xs : List ℝ) : sum xs = xs.sum := by
  rw [sum, Nat.cast_zero, neg_zero, List.sum_eq_foldl]

end Number

instance : CostNumber ℝ where
  zero_le_zero := le_rfl
  le_add _ hw := le_add_of_nonneg_right (Nat.cast_zero (R := ℝ) ▸ hw)
  add_le_add _ hab _ := add_le_add_left hab _
  isFinite_zero := Number.isFinite_real _
  isFinite_of_le _ _ _ := Number.isFinite_real _

instance : MarginNumber ℝ where
  sub_le _ hmargin _ := sub_le_self _ (Nat.cast_zero (R := ℝ) ▸ hmargin)
  le_add _ hmargin _ := le_add_of_nonneg_right (Nat.cast_zero (R := ℝ) ▸ hmargin)
  zero_le_one := Nat.cast_le.2 (Nat.zero_le 1)
  isFinite_one := Number.isFinite_real _

instance : RateNumber ℝ where
  toNat_scaled_le h := Nat.floor_mono (mul_le_mul_of_nonneg_right h (Nat.cast_nonneg _))

instance : CountNumber ℝ where
  natCast_le_natCast h _ := Nat.cast_le.2 h
  natCast_add _ := (Nat.cast_add _ _).symm
  neg_zero_add _ := by rw [Nat.cast_zero, neg_zero, zero_add]
  toNat_lt_iff hx _ := Nat.floor_lt (Nat.cast_zero (R := ℝ) ▸ hx)

end SpatialAccess
