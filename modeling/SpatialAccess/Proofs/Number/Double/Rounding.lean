import SpatialAccess.Proofs.Number.Double.Value

/-!
# Rounding to the nearest double

* `Double.dropDigits`: a natural without its last binary digits, rounded to the nearest, halves to the
  even one. `dropDigits_mono`, `dropDigits_mul`: it keeps the order, and digits that are zero do not
  count.
* `Double.nearest`: a worth rounded to 53 digits. `nearest_mono`, `nearest_units`: it keeps the order,
  and it keeps what doubles are worth.
* `Double.Tracks`: what is known of the digits that were dropped one by one.
* **`Double.round_eq`**: rounding gives the nearest worth, written in the one way.
-/

namespace SpatialAccess.Double

open Float.Model Float.Model.UnpackedFloat

/-! ## Dropping digits -/

/-- A natural without its last `k` digits, rounded to the nearest, halves to the even one. -/
def dropDigits (k n : ℕ) : ℕ :=
  if 2 * (n % 2 ^ k) < 2 ^ k then n / 2 ^ k
  else if 2 * (n % 2 ^ k) = 2 ^ k then n / 2 ^ k + n / 2 ^ k % 2
  else n / 2 ^ k + 1

theorem div_le_dropDigits (k n : ℕ) : n / 2 ^ k ≤ dropDigits k n := by
  unfold dropDigits
  split
  · exact le_rfl
  · split <;> omega

theorem dropDigits_le (k n : ℕ) : dropDigits k n ≤ n / 2 ^ k + 1 := by
  unfold dropDigits
  split
  · omega
  · split <;> omega

@[simp] theorem dropDigits_zero (n : ℕ) : dropDigits 0 n = n := by
  simp [dropDigits, Nat.mod_one]

/-- Rounding keeps the order. -/
theorem dropDigits_mono (k : ℕ) {n n' : ℕ} (h : n ≤ n') : dropDigits k n ≤ dropDigits k n' := by
  obtain hlt | heq := (Nat.div_le_div_right h : n / 2 ^ k ≤ n' / 2 ^ k).lt_or_eq
  · calc dropDigits k n ≤ n / 2 ^ k + 1 := dropDigits_le k n
      _ ≤ n' / 2 ^ k := hlt
      _ ≤ dropDigits k n' := div_le_dropDigits k n'
  · have hmod : n % 2 ^ k ≤ n' % 2 ^ k := by
      have hn := Nat.div_add_mod n (2 ^ k)
      have hn' := Nat.div_add_mod n' (2 ^ k)
      rw [heq] at hn
      omega
    unfold dropDigits
    rw [heq]
    split_ifs <;> omega

/-- Digits that are zero do not count. -/
theorem dropDigits_mul (k j n : ℕ) : dropDigits (k + j) (n * 2 ^ j) = dropDigits k n := by
  have hpos : 0 < 2 ^ j := Nat.two_pow_pos j
  have hdiv : n * 2 ^ j / 2 ^ (k + j) = n / 2 ^ k := by
    rw [Nat.pow_add, Nat.mul_div_mul_right _ _ hpos]
  have hmod : 2 * (n * 2 ^ j % 2 ^ (k + j)) = 2 * (n % 2 ^ k) * 2 ^ j := by
    rw [Nat.pow_add, Nat.mul_mod_mul_right, Nat.mul_assoc]
  unfold dropDigits
  rw [hdiv, hmod, Nat.pow_add]
  simp only [Nat.mul_lt_mul_right hpos, Nat.mul_left_inj hpos.ne']

theorem dropDigits_le_two_pow {k d n : ℕ} (h : n < 2 ^ (d + k)) : dropDigits k n ≤ 2 ^ d := by
  rw [Nat.pow_add] at h
  exact (dropDigits_le k n).trans (Nat.div_lt_of_lt_mul (Nat.mul_comm _ _ ▸ h))

theorem two_pow_le_dropDigits {k d n : ℕ} (h : 2 ^ (d + k) ≤ n) : 2 ^ d ≤ dropDigits k n := by
  rw [Nat.pow_add] at h
  exact ((Nat.le_div_iff_mul_le (Nat.two_pow_pos k)).2 h).trans (div_le_dropDigits k n)

/-! ## The nearest worth -/

/-- How many digits a worth has too many. -/
def excess (n : ℕ) : ℕ :=
  n.log2 - 52

/-- A worth rounded to 53 digits. -/
def nearest (n : ℕ) : ℕ :=
  dropDigits (excess n) n * 2 ^ excess n

theorem nearest_of_log2_le {n : ℕ} (h : n.log2 ≤ 52) : nearest n = n := by
  simp [nearest, excess, Nat.sub_eq_zero_of_le h]

theorem nearest_le {n : ℕ} : nearest n ≤ 2 ^ (n.log2 + 1) := by
  by_cases h : n.log2 ≤ 52
  · rw [nearest_of_log2_le h]
    exact Nat.lt_log2_self.le
  · have hexcess : n.log2 + 1 = 53 + excess n := by
      unfold excess
      omega
    rw [hexcess, Nat.pow_add]
    exact Nat.mul_le_mul_right _ (dropDigits_le_two_pow (hexcess ▸ Nat.lt_log2_self))

theorem le_nearest {n : ℕ} (hn : n ≠ 0) : 2 ^ n.log2 ≤ nearest n := by
  by_cases h : n.log2 ≤ 52
  · rw [nearest_of_log2_le h]
    exact Nat.log2_self_le hn
  · have hexcess : n.log2 = 52 + excess n := by
      unfold excess
      omega
    have hle : 2 ^ (52 + excess n) ≤ n := hexcess ▸ Nat.log2_self_le hn
    calc 2 ^ n.log2 = 2 ^ 52 * 2 ^ excess n := by rw [← Nat.pow_add, ← hexcess]
      _ ≤ nearest n := Nat.mul_le_mul_right _ (two_pow_le_dropDigits hle)

/-- **Rounding keeps the order.** -/
theorem nearest_mono {n n' : ℕ} (h : n ≤ n') : nearest n ≤ nearest n' := by
  by_cases hn : n = 0
  · subst hn
    exact Nat.zero_le _
  · have hn' : n' ≠ 0 := by omega
    have hlog : n.log2 ≤ n'.log2 := (Nat.le_log2 hn').2 ((Nat.log2_self_le hn).trans h)
    obtain hlt | heq := hlog.lt_or_eq
    · calc nearest n ≤ 2 ^ (n.log2 + 1) := nearest_le
        _ ≤ 2 ^ n'.log2 := Nat.pow_le_pow_right Nat.two_pos hlt
        _ ≤ nearest n' := le_nearest hn'
    · have hexcess : excess n = excess n' := by rw [excess, excess, heq]
      rw [nearest, nearest, hexcess]
      exact Nat.mul_le_mul_right _ (dropDigits_mono _ h)

theorem log2_units {m : ℕ} {e : ℤ} (hm : 0 < m) :
    (units m e).log2 = m.log2 + (e + 1074).toNat := by
  rw [Nat.log2_eq_iff (units_pos hm).ne', Nat.pow_add, Nat.add_right_comm, Nat.pow_add]
  exact ⟨Nat.mul_le_mul_right _ (Nat.log2_self_le hm.ne'),
    Nat.mul_lt_mul_of_pos_right Nat.lt_log2_self (Nat.two_pow_pos _)⟩

/-- Mantissas of 53 digits need no rounding. -/
theorem nearest_units_of_lt {m : ℕ} {e : ℤ} (hlt : m < 2 ^ 53) :
    nearest (units m e) = units m e := by
  by_cases hm : m = 0
  · subst hm
    simp [units, nearest, excess, dropDigits]
  · have hlog := log2_units (e := e) (Nat.pos_of_ne_zero hm)
    have hfew : m.log2 < 53 := (Nat.log2_lt hm).2 hlt
    -- the digits that are too many are zeros at the end
    obtain ⟨k, hk⟩ : ∃ k, (e + 1074).toNat = k + excess (units m e) :=
      Nat.exists_eq_add_of_le' (by unfold excess; omega)
    have hsplit : units m e = m * 2 ^ k * 2 ^ excess (units m e) := by
      conv_lhs => rw [units, hk, Nat.pow_add, ← Nat.mul_assoc]
    have hdrop := dropDigits_mul 0 (excess (units m e)) (m * 2 ^ k)
    rw [← hsplit, dropDigits_zero, Nat.zero_add] at hdrop
    rw [nearest, hdrop, ← hsplit]

/-- **What a double is worth needs no rounding.** -/
theorem nearest_units {m : ℕ} {e : ℤ} (h : Normal m e) : nearest (units m e) = units m e :=
  nearest_units_of_lt h.lt

/-! ## Dropping digits one by one -/

/-- A mantissa from which `k` digits were dropped: one bit tells whether they are half a unit or more,
the other one whether they are neither nothing nor half a unit. -/
structure Tracks (em : ExtendedMantissa) (n k : ℕ) : Prop where
  mantissa : em.mantissa = n / 2 ^ k
  roundBit : em.roundBit = true ↔ 2 ^ k ≤ 2 * (n % 2 ^ k)
  stickyBit : em.stickyBit = true ↔ n % 2 ^ k ≠ 0 ∧ 2 * (n % 2 ^ k) ≠ 2 ^ k

theorem Tracks.initial (n : ℕ) : Tracks ⟨n, false, false⟩ n 0 := by
  constructor <;> simp [Nat.mod_one]

theorem Tracks.shiftRightOne {em : ExtendedMantissa} {n k : ℕ} (h : Tracks em n k) :
    Tracks em.shiftRightOne n (k + 1) := by
  have hpos : 0 < 2 ^ k := Nat.two_pow_pos k
  have hlt : n % 2 ^ k < 2 ^ k := Nat.mod_lt n hpos
  have hpow : 2 ^ (k + 1) = 2 * 2 ^ k := Nat.pow_succ'
  have hmod : n % 2 ^ (k + 1) = n % 2 ^ k + 2 ^ k * (n / 2 ^ k % 2) := Nat.mod_pow_succ
  constructor
  case mantissa =>
    rw [ExtendedMantissa.shiftRightOne, h.mantissa, Nat.div_div_eq_div_mul, Nat.pow_succ]
  case roundBit =>
    rw [hmod, hpow, ExtendedMantissa.shiftRightOne, h.mantissa, bne_iff_ne]
    obtain hbit | hbit := Nat.mod_two_eq_zero_or_one (n / 2 ^ k) <;> rw [hbit] <;> omega
  case stickyBit =>
    rw [hmod, hpow, ExtendedMantissa.shiftRightOne, Bool.or_eq_true, h.roundBit, h.stickyBit]
    obtain hbit | hbit := Nat.mod_two_eq_zero_or_one (n / 2 ^ k) <;> rw [hbit] <;> omega

theorem Tracks.shiftRight (n k : ℕ) : Tracks (ExtendedMantissa.mk n false false >>> k) n k := by
  induction k with
  | zero => exact Tracks.initial n
  | succ k ih => exact ih.shiftRightOne

/-- The bits tell how to round. -/
theorem Tracks.roundedMantissa {em : ExtendedMantissa} {n k : ℕ} (h : Tracks em n k) :
    em.roundedMantissa = dropDigits k n := by
  obtain ⟨mantissa, roundBit, stickyBit⟩ := em
  obtain ⟨rfl, hround, hsticky⟩ := h
  have hpos : 0 < 2 ^ k := Nat.two_pow_pos k
  unfold dropDigits
  cases roundBit <;> cases stickyBit <;>
    simp only [Bool.false_eq_true, false_iff, true_iff, not_le, not_and, not_not] at hround hsticky
  · rw [if_pos hround]
    rfl
  · rw [if_pos hround]
    rfl
  · have hhalf : 2 * (n % 2 ^ k) = 2 ^ k := hsticky (by omega)
    rw [if_neg hround.not_gt, if_pos hhalf]
    rfl
  · rw [if_neg hround.not_gt, if_neg hsticky.2]
    rfl

/-! ## Rounding -/

theorem targetExponent_eq {m : ℕ} {e : ℤ} (hm : 0 < m) (he : -1074 ≤ e) :
    Format.binary64.targetExponent (totalExponent m e) = excess (units m e) - 1074 := by
  have hbits : (Format.binary64.mantissaBits : ℤ) = 53 := rfl
  have hmin : Format.binary64.minExponent = -1074 := rfl
  rw [Format.targetExponent, totalExponent, hbits, hmin, excess, log2_units hm]
  omega

/-- The digits that are too many are dropped. -/
theorem shiftToTargetExponent_spec {m : ℕ} {e : ℤ} (hm : 0 < m) (he : -1074 ≤ e)
    (hle : e + 1074 ≤ excess (units m e)) :
    ∃ em d, shiftToTargetExponent Format.binary64 m e .exact =
        (em, (excess (units m e) : ℤ) - 1074) ∧
      excess (units m e) = d + (e + 1074).toNat ∧ Tracks em m d := by
  refine ⟨_, ((excess (units m e) : ℤ) - 1074 - e).toNat, ?_, by omega, Tracks.shiftRight m _⟩
  rw [shiftToTargetExponent, targetExponent_eq hm he, shiftToExponent]
  refine Prod.ext rfl ?_
  simp only
  omega

/-- What is left has 53 digits, or fewer if none were too many. -/
theorem dropDigits_excess {n : ℕ} (hn : n ≠ 0) :
    0 < dropDigits (excess n) n ∧ dropDigits (excess n) n ≤ 2 ^ 53 ∧
      (2 ^ 52 ≤ dropDigits (excess n) n ∨ excess n = 0) := by
  by_cases h : n.log2 ≤ 52
  · have hexcess : excess n = 0 := Nat.sub_eq_zero_of_le h
    have hlt : n < 2 ^ 53 := (Nat.log2_lt hn).1 (by omega)
    rw [hexcess, dropDigits_zero]
    exact ⟨Nat.pos_of_ne_zero hn, hlt.le, .inr rfl⟩
  · have hexcess : n.log2 = 52 + excess n := by
      unfold excess
      omega
    have hlow : 2 ^ (52 + excess n) ≤ n := hexcess ▸ Nat.log2_self_le hn
    have hhigh : n < 2 ^ (53 + excess n) := by
      have hlt := Nat.lt_log2_self (n := n)
      rwa [hexcess, Nat.add_right_comm] at hlt
    have hfull := two_pow_le_dropDigits hlow
    exact ⟨by omega, dropDigits_le_two_pow hhigh, .inl hfull⟩

/-- Rounding up to a 54th digit is put right by dropping one more, which is zero. -/
theorem shiftToTargetExponent_rounded {r k : ℕ} (hpos : 0 < r) (hsmall : r ≤ 2 ^ 53)
    (hfull : 2 ^ 52 ≤ r ∨ k = 0) :
    ∃ em e, shiftToTargetExponent Format.binary64 r ((k : ℤ) - 1074) .exact = (em, e) ∧
      0 < em.mantissa ∧ Normal em.mantissa e ∧ units em.mantissa e = r * 2 ^ k := by
  have hk : ((k : ℤ) - 1074 + 1074).toNat = k := by omega
  have hlog := log2_units (e := (k : ℤ) - 1074) hpos
  rw [hk] at hlog
  have hlogfull : 52 ≤ r.log2 ∨ k = 0 := hfull.imp_left (Nat.le_log2 hpos.ne').2
  have hle : (k : ℤ) - 1074 + 1074 ≤ excess (units r ((k : ℤ) - 1074)) := by
    unfold excess
    omega
  obtain ⟨em, d, hem, hd, htracks⟩ := shiftToTargetExponent_spec hpos (by omega) hle
  rw [hk] at hd
  refine ⟨em, _, hem, ?_⟩
  rw [htracks.mantissa, hd]
  rw [excess, hlog] at hd
  obtain hlt | rfl := hsmall.lt_or_eq
  · have hloglt : r.log2 < 53 := (Nat.log2_lt hpos.ne').2 hlt
    obtain rfl : d = 0 := by omega
    rw [Nat.pow_zero, Nat.div_one, Nat.zero_add]
    refine ⟨hpos, ⟨hlt, by omega, hfull.imp_right (by omega)⟩, ?_⟩
    rw [units, hk]
  · rw [Nat.log2_two_pow] at hd
    obtain rfl : d = 1 := by omega
    have hk' : (((1 + k : ℕ) : ℤ) - 1074 + 1074).toNat = 1 + k := by omega
    have hhalf : 2 ^ 53 / 2 ^ 1 = 2 ^ 52 := rfl
    rw [hhalf]
    refine ⟨Nat.two_pow_pos 52, ⟨by omega, by omega, .inl le_rfl⟩, ?_⟩
    rw [units, hk', Nat.pow_add, ← Nat.mul_assoc]
    rfl

theorem roundWithAccuracy_eq (s : Sign) {m : ℕ} {e : ℤ} (hm : 0 < m) (he : -1074 ≤ e)
    (hle : e + 1074 ≤ excess (units m e)) :
    ∃ m' e' hm', roundWithAccuracy Format.binary64 s m e .exact = .finite s m' e' hm' ∧
      Normal m' e' ∧ units m' e' = nearest (units m e) := by
  obtain ⟨em, d, hem, hd, htracks⟩ := shiftToTargetExponent_spec hm he hle
  have hrounded : em.roundedMantissa = dropDigits (excess (units m e)) (units m e) := by
    rw [htracks.roundedMantissa, hd, units, dropDigits_mul]
  obtain ⟨hpos, hsmall, hfull⟩ := dropDigits_excess (units_pos (e := e) hm).ne'
  obtain ⟨em', e', hem', hpos', hnormal, hunits⟩ := shiftToTargetExponent_rounded hpos hsmall hfull
  refine ⟨em'.mantissa, e', hpos', ?_, hnormal, hunits⟩
  rw [roundWithAccuracy, hem]
  simp only
  rw [hrounded, hem']
  exact dif_neg hpos'.ne'

/-- A lower exponent takes more digits. -/
theorem units_shiftLeft (m : ℕ) {e t : ℤ} (ht : -1074 ≤ t) (hle : t ≤ e) :
    units (m <<< (e - t).toNat) t = units m e := by
  have hexponent : (e + 1074).toNat = (e - t).toNat + (t + 1074).toNat := by omega
  rw [units, units, hexponent, Nat.shiftLeft_eq, Nat.mul_assoc, ← Nat.pow_add]

theorem decreaseExponent_eq (m : ℕ) (e t : ℤ) :
    decreaseExponent m e t = (m <<< (e - min e t).toNat, min e t) := by
  have hshift : (e - t).toNat = (e - min e t).toNat := by omega
  rw [decreaseExponent, hshift]
  refine Prod.ext rfl ?_
  simp only
  omega

/-- **Rounding gives the nearest worth, written in the one way.** -/
theorem round_eq (s : Sign) {m : ℕ} {e : ℤ} (hm : 0 < m) (he : -1074 ≤ e) :
    ∃ m' e' hm', UnpackedFloat.round Format.binary64 s m e = .finite s m' e' hm' ∧ Normal m' e' ∧
      units m' e' = nearest (units m e) := by
  rw [UnpackedFloat.round, targetExponent_eq hm he, decreaseExponent_eq]
  generalize ht : min e (excess (units m e) - 1074) = t
  have hunits : units (m <<< (e - t).toNat) t = units m e := units_shiftLeft m (by omega) (by omega)
  rw [← hunits]
  refine roundWithAccuracy_eq s ?_ (by omega) ?_
  · rw [Nat.shiftLeft_eq]
    exact Nat.mul_pos hm (Nat.two_pow_pos _)
  · rw [hunits]
    omega

end SpatialAccess.Double
