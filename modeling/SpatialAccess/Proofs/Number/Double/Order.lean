import SpatialAccess.Proofs.Number.Double.Value

/-!
# The order of doubles

* `Double.code`: the bits that write a mantissa and an exponent. `units_le_units_of_code_le`: they come
  in the order of what they are worth.
* **`Double.unpack_cases`**: what bits stand for.
* `Double.worth?`: what a double is worth. `le_iff`, `lt_iff`, `beq_iff`: comparisons compare it.
* The instance `OrderedNumber Float`.
-/

namespace SpatialAccess.Double

open Float.Model Float.Model.UnpackedFloat

/-! ## Bits -/

/-- The bits that write a mantissa and an exponent, read as a number. -/
def code (m : ℕ) (e : ℤ) : ℕ :=
  (e + 1074).toNat * 2 ^ 52 + m

theorem units_le_units_of_code_le {m m' : ℕ} {e e' : ℤ} (h : Normal m e) (h' : Normal m' e')
    (hcode : code m e ≤ code m' e') : units m e ≤ units m' e' := by
  have hle := h.le
  have hle' := h'.le
  have hfull := h.full
  have hlt' := h'.lt
  unfold code at hcode
  obtain hlt | rfl | hgt := lt_trichotomy e e'
  · exact (units_lt_units h h' hlt).le
  · exact Nat.mul_le_mul_right _ (by omega)
  · omega

section Unpacking

variable (b : BitVec Format.binary64.numBits)

theorem toNat_unpackExponent : (unpackExponent b).toNat = b.toNat / 2 ^ 52 % 2 ^ 11 := by
  simp [unpackExponent, Nat.shiftRight_eq_div_pow]

theorem toNat_unpackMantissa : (unpackMantissa b).toNat = b.toNat % 2 ^ 52 := by
  simp [unpackMantissa]

theorem ofBitVec_unpackSign :
    Sign.ofBitVec (unpackSign b) = if b.toNat < 2 ^ 63 then Sign.positive else .negative := by
  have hlt : b.toNat < 2 ^ 64 := b.isLt
  have hsign : (unpackSign b).toNat = b.toNat / 2 ^ 63 := by
    simp [unpackSign, Nat.shiftRight_eq_div_pow]
    omega
  refine if_congr ?_ rfl rfl
  rw [← BitVec.toNat_inj, hsign]
  simp only [BitVec.toNat_ofNat]
  omega

theorem toNat_append_implicit (m : BitVec 52) : (1#1 ++ m).toNat = 2 ^ 52 + m.toNat := by
  rw [BitVec.toNat_append, ← Nat.shiftLeft_add_eq_or_of_lt m.isLt]
  rfl

/-- **What bits stand for.** -/
theorem unpack_cases :
    UnpackedFloat.unpack Format.binary64 b = .notANumber ∨
    ∃ s m e, s = (if b.toNat < 2 ^ 63 then Sign.positive else .negative) ∧ Normal m e ∧
      b.toNat % 2 ^ 63 = code m e ∧
      ((UnpackedFloat.unpack Format.binary64 b = .infinity s ∧ m = 2 ^ 52 ∧ e = 972) ∨
      (UnpackedFloat.unpack Format.binary64 b = .zero s ∧ m = 0) ∨
      ∃ hm, UnpackedFloat.unpack Format.binary64 b = .finite s m e hm ∧ e < 972) := by
  have hsplit : b.toNat % 2 ^ 63 = (unpackExponent b).toNat * 2 ^ 52 + (unpackMantissa b).toNat := by
    rw [toNat_unpackExponent, toNat_unpackMantissa]
    omega
  have hexponent : (unpackExponent b).toNat < 2 ^ 11 := (unpackExponent b).isLt
  have hmantissa : (unpackMantissa b).toNat < 2 ^ 52 := (unpackMantissa b).isLt
  have hbias : Format.binary64.exponentBias = 1023 := rfl
  rw [← ofBitVec_unpackSign]
  by_cases hones : unpackExponent b = -1#_
  · by_cases hzero : unpackMantissa b = 0#_
    · refine .inr ⟨_, 2 ^ 52, 972, rfl, normal_beyond, ?_, .inl ⟨?_, rfl, rfl⟩⟩
      · rw [hsplit, hones, hzero]
        rfl
      · rw [UnpackedFloat.unpack, if_pos hones, if_pos hzero]
    · left
      rw [UnpackedFloat.unpack, if_pos hones, if_neg hzero]
  · right
    by_cases hleast : unpackExponent b = 0#_
    · by_cases hzero : unpackMantissa b = 0#_
      · refine ⟨_, 0, -1074, rfl, ⟨by omega, by omega, .inr rfl⟩, ?_, .inr (.inl ⟨?_, rfl⟩)⟩
        · rw [hsplit, hleast, hzero]
          rfl
        · rw [UnpackedFloat.unpack, if_neg hones, if_pos hleast, dif_pos hzero]
      · have hpos : 0 < (unpackMantissa b).toNat :=
          Nat.pos_of_ne_zero fun h => hzero (BitVec.eq_of_toNat_eq h)
        refine ⟨_, (unpackMantissa b).toNat, -1074, rfl, ⟨by omega, by omega, .inr rfl⟩, ?_,
          .inr (.inr ⟨hpos, ?_, by omega⟩)⟩
        · rw [hsplit, hleast]
          rfl
        · rw [UnpackedFloat.unpack, if_neg hones, if_pos hleast, dif_neg hzero]
          congr 1
          rw [hleast]
          rfl
    · have hpos : 0 < (unpackExponent b).toNat :=
        Nat.pos_of_ne_zero fun h => hleast (BitVec.eq_of_toNat_eq h)
      have hsmall : (unpackExponent b).toNat < 2 ^ 11 - 1 := by
        have hne : (unpackExponent b).toNat ≠ 2 ^ 11 - 1 := fun h => hones (BitVec.eq_of_toNat_eq h)
        omega
      refine ⟨_, 2 ^ 52 + (unpackMantissa b).toNat, (unpackExponent b).toNat - 1075, rfl,
        ⟨by omega, by omega, .inl (by omega)⟩, ?_, .inr (.inr ⟨by omega, ?_, by omega⟩)⟩
      · obtain ⟨k, hk⟩ := Nat.exists_eq_add_one.2 hpos
        have hexp : ((unpackExponent b).toNat - 1075 + 1074 : ℤ).toNat = k := by omega
        rw [hsplit, code, hexp, hk]
        ring
      · rw [UnpackedFloat.unpack, if_neg hones, if_neg hleast]
        congr 1
        exact toNat_append_implicit _

end Unpacking

theorem isDouble_unpack (b : BitVec Format.binary64.numBits) :
    IsDouble (UnpackedFloat.unpack Format.binary64 b) := by
  obtain h | ⟨s, m, e, -, hnormal, -, ⟨h, -, -⟩ | ⟨h, -⟩ | ⟨hm, h, he⟩⟩ := unpack_cases b <;> rw [h]
  · trivial
  · trivial
  · trivial
  · exact ⟨hnormal, he⟩

/-- What bits are worth. -/
theorem value?_unpack_eq_some {b : BitVec Format.binary64.numBits} {v : ℤ}
    (h : value? (UnpackedFloat.unpack Format.binary64 b) = some v) :
    ∃ m e, Normal m e ∧ b.toNat % 2 ^ 63 = code m e ∧
      v = if b.toNat < 2 ^ 63 then (units m e : ℤ) else -units m e := by
  obtain hb | ⟨s, m, e, hs, hnormal, hcode, hb⟩ := unpack_cases b
  · rw [hb] at h
    cases h
  · refine ⟨m, e, hnormal, hcode, ?_⟩
    have hv : v = s.apply (units m e) := by
      obtain ⟨hb, rfl, rfl⟩ | ⟨hb, rfl⟩ | ⟨hm, hb, -⟩ := hb <;> rw [hb] at h
      · exact (Option.some.inj h).symm
      · cases s <;> simp [units, ← Option.some.inj h]
      · exact (Option.some.inj h).symm
    rw [hv, hs]
    split <;> rfl

/-! ## The order of doubles -/

/-- What a double is worth, in units of the least positive one; nothing if it is not a number. -/
def worth? (x : Float) : Option ℤ :=
  value? x.toModel.unpack

theorem compare_toModel (x y : Float) :
    x.toModel.unpack.compare y.toModel.unpack = Option.map₂ compare (worth? x) (worth? y) :=
  compare_eq_map₂ (isDouble_unpack _) (isDouble_unpack _)

theorem le_iff {x y : Float} : x ≤ y ↔ ∃ a b, worth? x = some a ∧ worth? y = some b ∧ a ≤ b := by
  have hle : x ≤ y ↔ (x.toModel.unpack.compare y.toModel.unpack).any (·.isLE) = true :=
    decide_eq_true_iff
  rw [hle, compare_toModel]
  cases worth? x <;> cases worth? y <;> simp [Int.isLE_compare]

theorem lt_iff {x y : Float} : x < y ↔ ∃ a b, worth? x = some a ∧ worth? y = some b ∧ a < b := by
  have hlt : x < y ↔ (x.toModel.unpack.compare y.toModel.unpack == some .lt) = true :=
    decide_eq_true_iff
  rw [hlt, compare_toModel]
  cases worth? x <;> cases worth? y <;> simp [compare_lt_iff_lt]

theorem beq_iff {x y : Float} :
    (x == y) = true ↔ ∃ a b, worth? x = some a ∧ worth? y = some b ∧ a = b := by
  have hbeq : (x == y) = (x.toModel.unpack.compare y.toModel.unpack == some .eq) := rfl
  rw [hbeq, compare_toModel]
  cases worth? x <;> cases worth? y <;> simp
  exact eq_comm

theorem le_self_iff {x : Float} : x ≤ x ↔ ∃ a, worth? x = some a := by
  rw [le_iff]
  constructor
  · rintro ⟨a, -, ha, -, -⟩
    exact ⟨a, ha⟩
  · rintro ⟨a, ha⟩
    exact ⟨a, a, ha, ha, le_rfl⟩

open Number.Double in
/-- The order of sorting never contradicts a comparison. -/
theorem le_of_orderKey_le {x y : Float} (hx : x ≤ x) (hy : y ≤ y) (h : orderKey x ≤ orderKey y) :
    x ≤ y := by
  obtain ⟨a, ha⟩ := le_self_iff.1 hx
  obtain ⟨b, hb⟩ := le_self_iff.1 hy
  refine le_iff.2 ⟨a, b, ha, hb, ?_⟩
  obtain ⟨m, e, hnormal, hcode, rfl⟩ := value?_unpack_eq_some ha
  obtain ⟨m', e', hnormal', hcode', rfl⟩ := value?_unpack_eq_some hb
  have hbits : x.toModel.toBits.toBitVec.toNat = x.toBits.toNat := rfl
  have hbits' : y.toModel.toBits.toBitVec.toNat = y.toBits.toNat := rfl
  rw [hbits] at hcode ⊢
  rw [hbits'] at hcode' ⊢
  have hlt : x.toBits.toNat < 2 ^ 64 := x.toBits.toBitVec.isLt
  have hlt' : y.toBits.toNat < 2 ^ 64 := y.toBits.toBitVec.isLt
  have hpow : Nat.pow 2 63 = 2 ^ 63 := rfl
  simp only [orderKey, hpow] at h
  by_cases hsign : x.toBits.toNat < 2 ^ 63 <;> by_cases hsign' : y.toBits.toNat < 2 ^ 63
  · rw [if_pos hsign, if_pos hsign'] at h ⊢
    have hunits := units_le_units_of_code_le hnormal hnormal' (by omega)
    omega
  · rw [if_pos hsign, if_neg hsign'] at h
    omega
  · rw [if_neg hsign, if_pos hsign']
    omega
  · rw [if_neg hsign, if_neg hsign'] at h ⊢
    have hunits := units_le_units_of_code_le hnormal' hnormal (by omega)
    omega

end SpatialAccess.Double

namespace SpatialAccess

instance : OrderedNumber Float where
  le_left h := by
    obtain ⟨a, -, ha, -, -⟩ := Double.le_iff.1 h
    exact Double.le_self_iff.2 ⟨a, ha⟩
  le_right h := by
    obtain ⟨-, b, -, hb, -⟩ := Double.le_iff.1 h
    exact Double.le_self_iff.2 ⟨b, hb⟩
  le_trans h h' := by
    obtain ⟨a, b, ha, hb, hab⟩ := Double.le_iff.1 h
    obtain ⟨b', c, hb', hc, hbc⟩ := Double.le_iff.1 h'
    obtain rfl : b = b' := Option.some.inj (hb.symm.trans hb')
    exact Double.le_iff.2 ⟨a, c, ha, hc, hab.trans hbc⟩
  le_total {x y} hx hy := by
    obtain ⟨a, ha⟩ := Double.le_self_iff.1 hx
    obtain ⟨b, hb⟩ := Double.le_self_iff.1 hy
    obtain hab | hba := le_total a b
    · exact .inl (Double.le_iff.2 ⟨a, b, ha, hb, hab⟩)
    · exact .inr (Double.le_iff.2 ⟨b, a, hb, ha, hba⟩)
  lt_iff_le_not_le {x y} := by
    rw [Double.lt_iff, Double.le_iff, Double.le_iff]
    cases Double.worth? x <;> cases Double.worth? y <;> simp
    exact le_of_lt
  beq_iff_le_le {x y} := by
    rw [Double.beq_iff, Double.le_iff, Double.le_iff]
    cases Double.worth? x <;> cases Double.worth? y <;> simp
    omega
  totalLE_total x y := by
    obtain h | h := le_total (Number.Double.orderKey x) (Number.Double.orderKey y)
    · exact .inl (decide_eq_true h)
    · exact .inr (decide_eq_true h)
  le_of_totalLE hx hy h := Double.le_of_orderKey_le hx hy (of_decide_eq_true h)

end SpatialAccess
