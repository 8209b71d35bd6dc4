import SpatialAccess.Proofs.Number.Double.Packing

/-!
# Sums of doubles

* `Double.value?_repack_add_finite`: the sum of two finite doubles is the nearest double to the sum
  of what they are worth.
* **`Double.worth?_add`**: so is that of two doubles that are not negative.
* The instance `CostNumber Float`.
-/

namespace SpatialAccess.Double

open Float.Model Float.Model.UnpackedFloat

/-! ## Adding -/

/-- What is worth at least nothing is zero or has a positive sign. -/
theorem cases_of_value? {x : UnpackedFloat} {a : ℕ} (h : value? x = some (a : ℤ)) :
    (x = .infinity .positive ∧ a = beyond) ∨ (∃ s, x = .zero s ∧ a = 0) ∨
      ∃ m e hm, x = .finite .positive m e hm ∧ a = units m e := by
  have hbeyond := beyond_pos
  cases x with
  | notANumber => cases h
  | infinity s =>
    have ha := Option.some.inj h
    cases s
    · simp only [apply_negative] at ha
      omega
    · exact .inl ⟨rfl, (Int.ofNat_inj.1 ha).symm⟩
  | zero s => exact .inr (.inl ⟨s, rfl, (Int.ofNat_inj.1 (Option.some.inj h)).symm⟩)
  | finite s m e hm =>
    have ha := Option.some.inj h
    have hpos := units_pos (e := e) hm
    cases s
    · simp only [apply_negative] at ha
      omega
    · exact .inr (.inr ⟨m, e, hm, rfl, (Int.ofNat_inj.1 ha).symm⟩)

theorem le_nearest_beyond : beyond ≤ nearest beyond :=
  (nearest_units normal_beyond).ge

theorem value?_repack_infinity {a : ℕ} (h : beyond ≤ nearest a) :
    value? (repack (.infinity .positive)) = some ((min (nearest a) beyond : ℕ) : ℤ) := by
  rw [repack_infinity, min_eq_right h]
  rfl

/-- **Two finite doubles are brought to one exponent, added and rounded.** -/
theorem value?_repack_add_finite {s s' : Sign} {m m' : ℕ} {e e' : ℤ} (hm : 0 < m) (hm' : 0 < m')
    (he : -1074 ≤ e) (he' : -1074 ≤ e') :
    value? (repack (UnpackedFloat.add Format.binary64 (.finite s m e hm) (.finite s' m' e' hm'))) =
      some (rounded (s.apply (units m e) + s'.apply (units m' e'))) := by
  have hunits := units_shiftLeft m (le_min he he') (min_le_left e e')
  have hunits' := units_shiftLeft m' (le_min he he') (min_le_right e e')
  have hadd : UnpackedFloat.add Format.binary64 (.finite s m e hm) (.finite s' m' e' hm') =
      UnpackedFloat.normalize Format.binary64
        (s.apply (m <<< (e - min e e').toNat : ℕ) + s'.apply (m' <<< (e' - min e e').toNat : ℕ))
        (min e e') .positive :=
    rfl
  rw [hadd, value?_repack_normalize _ (le_min he he'), add_mul, apply_mul, apply_mul, ← hunits,
    ← hunits', units, units]
  push_cast
  rfl

/-- Numbers that are not negative: each of them is an infinity, a zero or finite. -/
theorem value?_repack_add {x y : UnpackedFloat} (hx : IsDouble x) (hy : IsDouble y) {a b : ℕ}
    (ha : value? x = some (a : ℤ)) (hb : value? y = some (b : ℤ)) :
    value? (repack (UnpackedFloat.add Format.binary64 x y)) =
      some ((min (nearest (a + b)) beyond : ℕ) : ℤ) := by
  obtain ⟨rfl, ha'⟩ | ⟨s, rfl, ha'⟩ | ⟨m, e, hm, rfl, ha'⟩ := cases_of_value? ha
  · have hadd : UnpackedFloat.add Format.binary64 (.infinity .positive) y = .infinity .positive := by
      obtain ⟨rfl, -⟩ | ⟨s, rfl, -⟩ | ⟨m, e, hm, rfl, -⟩ := cases_of_value? hb <;> rfl
    rw [hadd, ha']
    exact value?_repack_infinity (le_nearest_beyond.trans (nearest_mono (Nat.le_add_right _ _)))
  · rw [ha', Nat.zero_add]
    obtain ⟨rfl, hb'⟩ | ⟨s', rfl, hb'⟩ | ⟨m, e, hm, rfl, hb'⟩ := cases_of_value? hb
    · rw [hb']
      exact value?_repack_infinity le_nearest_beyond
    · have hzero : nearest 0 = 0 := rfl
      rw [hb', hzero, Nat.zero_min]
      cases s <;> cases s' <;> rfl
    · rw [hb', nearest_units hy.1]
      exact value?_repack_finite .positive hm hy.1
  · obtain ⟨rfl, hb'⟩ | ⟨s', rfl, hb'⟩ | ⟨m', e', hm', rfl, hb'⟩ := cases_of_value? hb
    · rw [hb']
      exact value?_repack_infinity (le_nearest_beyond.trans (nearest_mono (Nat.le_add_left _ _)))
    · rw [ha', hb', Nat.add_zero, nearest_units hx.1]
      exact value?_repack_finite .positive hm hx.1
    · rw [value?_repack_add_finite hm hm' hx.1.le hy.1.le, apply_positive, apply_positive, ← ha',
        ← hb', ← Nat.cast_add, rounded_natCast]

/-! ## Costs -/

/-- **A sum of doubles is worth the nearest to the sum of what they are worth.** -/
theorem worth?_add {x y : Float} {a b : ℕ} (ha : worth? x = some (a : ℤ))
    (hb : worth? y = some (b : ℤ)) :
    worth? (x + y) = some ((min (nearest (a + b)) beyond : ℕ) : ℤ) :=
  value?_repack_add (isDouble_unpack _) (isDouble_unpack _) ha hb

theorem worth?_zero : worth? ((0 : Nat) : Float) = some 0 :=
  rfl

theorem zero_le_iff {x : Float} : ((0 : Nat) : Float) ≤ x ↔ ∃ a : ℕ, worth? x = some (a : ℤ) := by
  rw [le_iff, worth?_zero]
  constructor
  · rintro ⟨z, a, hz, ha, hle⟩
    obtain rfl : 0 = z := Option.some.inj hz
    obtain ⟨k, rfl⟩ := Int.eq_ofNat_of_zero_le hle
    exact ⟨k, ha⟩
  · rintro ⟨a, ha⟩
    exact ⟨0, a, rfl, ha, Int.natCast_nonneg a⟩

theorem le_iff_of_worth? {x y : Float} {a b : ℕ} (ha : worth? x = some (a : ℤ))
    (hb : worth? y = some (b : ℤ)) : x ≤ y ↔ a ≤ b := by
  rw [le_iff, ha, hb]
  constructor
  · rintro ⟨a', b', ha', hb', hle⟩
    cases ha'
    cases hb'
    exact Int.ofNat_le.1 hle
  · intro hle
    exact ⟨a, b, rfl, rfl, Int.ofNat_le.2 hle⟩

/-- What a double is worth can be written in the one way, and is at most as much as an infinity. -/
theorem exists_units {x : Float} {a : ℕ} (ha : worth? x = some (a : ℤ)) :
    (∃ m e, Normal m e ∧ a = units m e) ∧ a ≤ beyond := by
  have hdouble : IsDouble x.toModel.unpack := isDouble_unpack _
  obtain ⟨-, ha'⟩ | ⟨s, -, ha'⟩ | ⟨m, e, hm, hx, ha'⟩ := cases_of_value? ha
  · exact ⟨⟨2 ^ 52, 972, normal_beyond, ha'⟩, ha'.le⟩
  · refine ⟨⟨0, -1074, ⟨by omega, by omega, .inr rfl⟩, ?_⟩, ha' ▸ Nat.zero_le _⟩
    rw [ha', units, Nat.zero_mul]
  · rw [hx] at hdouble
    exact ⟨⟨m, e, hdouble.1, ha'⟩, ha' ▸ (units_lt_beyond hdouble.1 hdouble.2).le⟩

theorem nearest_worth {x : Float} {a : ℕ} (ha : worth? x = some (a : ℤ)) : nearest a = a := by
  obtain ⟨⟨m, e, hnormal, rfl⟩, -⟩ := exists_units ha
  exact nearest_units hnormal

theorem sub_self_finite {m : ℕ} {e : ℤ} (hm : 0 < m) :
    UnpackedFloat.sub Format.binary64 (.finite .positive m e hm) (.finite .positive m e hm) =
      .zero .positive := by
  have hcompare : ∀ a : ℤ, compare (a - a) 0 = .eq := fun a => compare_eq_iff_eq.2 (sub_self a)
  simp only [UnpackedFloat.sub, UnpackedFloat.normalize, apply_positive, hcompare]

/-- The difference of a value from itself is a number unless the value is infinite. -/
theorem isFinite_iff {x : Float} {a : ℕ} (ha : worth? x = some (a : ℤ)) :
    Number.isFinite x = true ↔ a < beyond := by
  have hisNaN : Number.isFinite x = true ↔ ∃ v, worth? (x - x) = some v := by
    rw [Number.isFinite, Bool.not_eq_true', OrderedNumber.isNaN_eq_false_iff, le_self_iff]
  have hsub : worth? (x - x) =
      value? (repack (UnpackedFloat.sub Format.binary64 x.toModel.unpack x.toModel.unpack)) := rfl
  have hdouble : IsDouble x.toModel.unpack := isDouble_unpack _
  rw [hisNaN, hsub]
  obtain ⟨hx, ha'⟩ | ⟨s, hx, ha'⟩ | ⟨m, e, hm, hx, ha'⟩ := cases_of_value? ha <;>
    rw [hx] at hdouble ⊢ <;> rw [ha']
  · constructor
    · rintro ⟨v, hv⟩
      cases hv
    · intro hlt
      exact absurd hlt (lt_irrefl beyond)
  · constructor
    · intro
      exact beyond_pos
    · intro
      cases s <;> exact ⟨0, rfl⟩
  · rw [sub_self_finite hm, repack_zero]
    constructor
    · intro
      exact units_lt_beyond hdouble.1 hdouble.2
    · intro
      exact ⟨0, rfl⟩

end SpatialAccess.Double

namespace SpatialAccess

open Double

instance : CostNumber Float where
  zero_le_zero := zero_le_iff.2 ⟨0, worth?_zero⟩
  le_add {x w} hx hw := by
    obtain ⟨a, ha⟩ := zero_le_iff.1 hx
    obtain ⟨b, hb⟩ := zero_le_iff.1 hw
    rw [le_iff_of_worth? ha (worth?_add ha hb), le_min_iff]
    refine ⟨?_, (exists_units ha).2⟩
    calc a = nearest a := (nearest_worth ha).symm
      _ ≤ nearest (a + b) := nearest_mono (Nat.le_add_right a b)
  add_le_add {x y w} hx hxy hw := by
    obtain ⟨a, ha⟩ := zero_le_iff.1 hx
    obtain ⟨b, hb⟩ := zero_le_iff.1 (OrderedNumber.le_trans hx hxy)
    obtain ⟨c, hc⟩ := zero_le_iff.1 hw
    rw [le_iff_of_worth? ha hb] at hxy
    rw [le_iff_of_worth? (worth?_add ha hc) (worth?_add hb hc)]
    exact min_le_min_right _ (nearest_mono (Nat.add_le_add_right hxy c))
  isFinite_zero := (isFinite_iff (x := ((0 : Nat) : Float)) (a := 0) worth?_zero).2 beyond_pos
  isFinite_of_le {x y} hx hxy hy := by
    obtain ⟨a, ha⟩ := zero_le_iff.1 hx
    obtain ⟨b, hb⟩ := zero_le_iff.1 (OrderedNumber.le_trans hx hxy)
    rw [isFinite_iff hb] at hy
    rw [le_iff_of_worth? ha hb] at hxy
    exact (isFinite_iff ha).2 (lt_of_le_of_lt hxy hy)

end SpatialAccess
