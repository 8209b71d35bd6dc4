import SpatialAccess.Clock
import SpatialAccess.Proofs.Number.Double.Rational
import SpatialAccess.Proofs.Text.Digits

/-!
# Times are read as they were written

* `Clock.written`: the text of a whole number of seconds. `Clock.format_eq`: times are written as the
  nearest one.
* **`Clock.read_written`**: such a text is read as hours, minutes and seconds, and added up.
* **`Clock.exists_read_format`**: over doubles nothing is rounded on the way, so a time is read as the
  whole number that it was rounded to.
* **`Clock.read_format_nearest`**: integers come back as they are, all other times as the nearest
  integer.
-/

namespace SpatialAccess

namespace Clock

/-! ## Texts -/

theorem toList_twoDigits (n : ℕ) :
    (twoDigits n).toList = if n < 10 then '0' :: Nat.toDigits 10 n else Nat.toDigits 10 n := by
  unfold twoDigits
  split
  · rw [String.toList_append]
    exact congrArg ('0' :: ·) Nat.toList_repr
  · exact Nat.toList_repr

theorem digits_twoDigits (n : ℕ) : Digits (twoDigits n).toList := by
  rw [toList_twoDigits]
  split
  · exact .cons (by decide) (.toDigits n)
  · exact .toDigits n

theorem ofDigits_twoDigits (n : ℕ) : Decimal.ofDigits (twoDigits n).toList = n := by
  rw [toList_twoDigits]
  split
  · rw [Decimal.ofDigits_zero_cons, Decimal.ofDigits_toDigits]
  · exact Decimal.ofDigits_toDigits n

/-- The text of a number of seconds, with a minus sign in front or without. -/
def written (negative : Bool) (total : ℕ) : String :=
  (if negative then "-" else "") ++ twoDigits (total / 3600) ++ ":" ++
    twoDigits (total % 3600 / 60) ++ ":" ++ twoDigits (total % 60)

/-- Hours, minutes and seconds as characters. -/
def body (total : ℕ) : List Char :=
  (twoDigits (total / 3600)).toList ++ ':' ::
    ((twoDigits (total % 3600 / 60)).toList ++ ':' :: (twoDigits (total % 60)).toList)

theorem toList_written (negative : Bool) (total : ℕ) :
    (written negative total).toList = (if negative then ['-'] else []) ++ body total := by
  have hcolon : ":".toList = [':'] := by decide
  cases negative <;> simp [written, body, hcolon]

theorem pieces_body (total : ℕ) : Text.pieces ':' (body total) =
    [(twoDigits (total / 3600)).toList, (twoDigits (total % 3600 / 60)).toList,
      (twoDigits (total % 60)).toList] := by
  have hcolon : ∀ n, ':' ∉ (twoDigits n).toList := fun n => (digits_twoDigits n).notMem (by decide)
  rw [body, Text.pieces_append_cons (hcolon _), Text.pieces_append_cons (hcolon _),
    Text.pieces_of_notMem (hcolon _)]

/-- The characters are digits and colons, the first one of them a digit. -/
theorem mem_body {total : ℕ} {c : Char} (h : c ∈ body total) : c.isDigit = true ∨ c = ':' := by
  simp only [body, List.mem_append, List.mem_cons] at h
  obtain h | rfl | h | rfl | h := h
  · exact .inl ((digits_twoDigits _).isDigit c h)
  · exact .inr rfl
  · exact .inl ((digits_twoDigits _).isDigit c h)
  · exact .inr rfl
  · exact .inl ((digits_twoDigits _).isDigit c h)

theorem exists_body_eq_cons (total : ℕ) : ∃ c cs, body total = c :: cs ∧ c.isDigit = true := by
  have hdigits := digits_twoDigits (total / 3600)
  obtain ⟨c, cs, hcs⟩ := List.exists_cons_of_ne_nil hdigits.ne_nil
  refine ⟨c, _, congrArg (· ++ _) hcs, hdigits.isDigit c ?_⟩
  rw [hcs]
  exact List.mem_cons_self

theorem trim_written (negative : Bool) (total : ℕ) :
    Text.trim (written negative total) = written negative total := by
  refine Text.trim_eq_self fun c hc => ?_
  rw [toList_written, List.mem_append] at hc
  obtain hsign | hbody := hc
  · cases negative
    · cases hsign
    · rw [List.mem_singleton.1 hsign]
      decide
  · obtain hdigit | rfl := mem_body hbody
    · exact Text.isBlank_of_isDigit hdigit
    · decide

/-! ## Reading -/

variable {α : Type} [Number α]

variable (α) in
/-- A natural that is read as itself, and may stand in a time. -/
structure ReadsBack (n : ℕ) : Prop where
  ofLiteral : (Number.ofLiteral? (.finite false n 0) : Option α) = some (n : α)
  isFinite : Number.isFinite (n : α) = true
  nonneg : ((0 : ℕ) : α) ≤ (n : α)

theorem format_eq (seconds : α) : format seconds =
    written (seconds < ((0 : ℕ) : α)) (Number.roundNat (Number.abs seconds)) := by
  simp [format, written]

theorem readPart_twoDigits {n : ℕ} (h : ReadsBack α n) (whole : String) :
    readPart whole (twoDigits n).toList = .ok (n : α) := by
  have hread : (Number.read? (Text.trim (String.ofList (twoDigits n).toList)) : Option α) =
      some (n : α) := by
    rw [(digits_twoDigits n).trim, Number.read?, Decimal.Literal.read?_digits (digits_twoDigits n),
      ofDigits_twoDigits]
    exact h.ofLiteral
  unfold readPart
  rw [hread]
  exact if_pos ⟨h.isFinite, h.nonneg⟩

/-- Hours, minutes and seconds, added up. -/
def secondsOf (total : ℕ) : α :=
  ((total / 3600 : ℕ) : α) * ((3600 : ℕ) : α) + ((total % 3600 / 60 : ℕ) : α) * ((60 : ℕ) : α) +
    ((total % 60 : ℕ) : α)

theorem readParts_body {total : ℕ} (h : ∀ n ≤ total, ReadsBack α n) (whole : String) :
    readParts whole (Text.pieces ':' (body total)) = .ok (secondsOf total : α) := by
  have hhours : total / 3600 ≤ total := Nat.div_le_self _ _
  have hminutes : total % 3600 / 60 ≤ total := (Nat.div_le_self _ _).trans (Nat.mod_le _ _)
  have hseconds : total % 60 ≤ total := Nat.mod_le _ _
  rw [pieces_body, readParts, readPart_twoDigits (h _ hhours), readPart_twoDigits (h _ hminutes),
    readPart_twoDigits (h _ hseconds)]
  rfl

/-- **Reading what was written.** -/
theorem read_written {total : ℕ} (h : ∀ n ≤ total, ReadsBack α n) (negative : Bool) :
    read (written negative total) =
      .ok ((if negative then -((1 : ℕ) : α) else ((1 : ℕ) : α)) * secondsOf total) := by
  obtain ⟨c, cs, hbody, hdigit⟩ := exists_body_eq_cons total
  have hparts := readParts_body h (written negative total)
  simp only [read, trim_written, toList_written]
  cases negative with
  | true =>
    rw [if_pos rfl, if_pos rfl, List.singleton_append]
    simp only [hparts]
    rfl
  | false =>
    rw [hbody] at hparts
    rw [if_neg Bool.false_ne_true, if_neg Bool.false_ne_true, List.nil_append, hbody]
    split
    · next hnil => cases hnil
    · next hminus =>
      cases hminus
      cases hdigit
    · simp only [hparts]
      rfl

/-! ## Doubles -/

open Double

/-- Naturals up to `2 ^ 53` are read as themselves. -/
theorem readsBack_natCast {n : ℕ} (hn : n ≤ 2 ^ 53) : ReadsBack Float n := by
  have hworth := worth?_natCast hn
  have hlength : (Nat.toDigits 10 n).length ≤ 16 :=
    (Nat.length_toDigits_le_iff (by omega) (by omega)).2 (by omega)
  refine ⟨?_, (isFinite_iff hworth).2 (mul_oneWorth_lt_beyond (by omega)), zero_le_iff.2 ⟨_, hworth⟩⟩
  obtain rfl | hpos := Nat.eq_zero_or_pos n
  · decide +kernel
  · have hmagnitude : Decimal.Literal.magnitude n 0 = (n : Float) := by
      unfold Decimal.Literal.magnitude
      rw [if_neg hpos.ne', if_neg (by omega), if_neg (by omega), if_neg (by omega)]
      rfl
    exact congrArg some hmagnitude

/-- Hours, minutes and seconds add up to what they were taken from. -/
theorem worth?_secondsOf {total : ℕ} (h : total ≤ 2 ^ 53) :
    worth? (secondsOf total : Float) = some ((total * oneWorth : ℕ) : ℤ) := by
  have hhours : worth? ((((total / 3600 : ℕ) : Float)) * ((3600 : ℕ) : Float)) =
      some ((total / 3600 * 3600 * oneWorth : ℕ) : ℤ) :=
    worth?_mul_natural (worth?_natCast (by omega)) (worth?_natCast (by omega)) (by omega) (by omega)
      (by omega)
  have hminutes : worth? (((total % 3600 / 60 : ℕ) : Float) * ((60 : ℕ) : Float)) =
      some ((total % 3600 / 60 * 60 * oneWorth : ℕ) : ℤ) :=
    worth?_mul_natural (worth?_natCast (by omega)) (worth?_natCast (by omega)) (by omega) (by omega)
      (by omega)
  have hseconds : worth? ((total % 60 : ℕ) : Float) = some ((total % 60 * oneWorth : ℕ) : ℤ) :=
    worth?_natCast (by omega)
  have hsum := worth?_add_natural (worth?_add_natural hhours hminutes (by omega)) hseconds (by omega)
  have htotal : total / 3600 * 3600 + total % 3600 / 60 * 60 + total % 60 = total := by omega
  rw [htotal] at hsum
  exact hsum

/-- The sign is put in front by a product. -/
theorem worth?_sign_mul {x : Float} {n : ℕ} (hx : worth? x = some ((n * oneWorth : ℕ) : ℤ))
    (hn : n ≤ 2 ^ 53) (negative : Bool) :
    worth? ((if negative then -((1 : ℕ) : Float) else ((1 : ℕ) : Float)) * x) =
      some ((if negative then -(n : ℤ) else n) * oneWorth) := by
  rw [Nat.cast_mul] at hx
  cases negative with
  | true =>
    have hone : worth? (-((1 : ℕ) : Float)) = some ((-1 : ℤ) * oneWorth) := by decide +kernel
    have hproduct := worth?_mul_int hone hx (by omega) (by omega) (by omega)
    rw [neg_one_mul (n : ℤ)] at hproduct
    exact hproduct
  | false =>
    have hone : worth? ((1 : ℕ) : Float) = some ((1 : ℤ) * oneWorth) := by decide +kernel
    have hproduct := worth?_mul_int hone hx (by omega) (by omega) (by omega)
    rw [one_mul (n : ℤ)] at hproduct
    exact hproduct

/-- **Reading a time that was written** gives the nearest whole number of seconds. -/
theorem exists_read_format {t : Float} {v : ℤ} (ht : worth? t = some v)
    (hv : v.natAbs ≤ 2 ^ 53 * oneWorth) :
    ∃ r, read (format t) = .ok r ∧
      worth? r = some ((if v < 0 then -(ones v.natAbs : ℤ) else ones v.natAbs) * oneWorth) := by
  have htotal : Number.Double.roundNat t.abs = ones v.natAbs := roundNat_eq (worth?_abs ht) hv
  have hnegative : t < ((0 : ℕ) : Float) ↔ v < 0 := lt_iff_of_worth? ht worth?_zero
  have hle : ones v.natAbs ≤ 2 ^ 53 := ones_le hv
  have hformat : format t = written (t < ((0 : ℕ) : Float)) (ones v.natAbs) := by
    rw [← htotal]
    exact format_eq t
  have hread := read_written (fun n hn => readsBack_natCast (hn.trans hle)) (t < ((0 : ℕ) : Float))
  refine ⟨_, hformat ▸ hread, ?_⟩
  rw [worth?_sign_mul (worth?_secondsOf hle) hle]
  simp only [hnegative, decide_eq_true_eq]

theorem worth?_ofInt {n : ℤ} (hn : n.natAbs ≤ 2 ^ 53) :
    worth? (Float.ofInt n) = some (n * oneWorth) := by
  cases n with
  | ofNat k =>
    have hcast : worth? ((k : ℕ) : Float) = some ((k * oneWorth : ℕ) : ℤ) := worth?_natCast hn
    rw [Nat.cast_mul] at hcast
    exact hcast
  | negSucc k =>
    have hcast : worth? ((k + 1 : ℕ) : Float) = some (((k + 1) * oneWorth : ℕ) : ℤ) :=
      worth?_natCast hn
    have hneg := worth?_neg hcast
    rw [Nat.cast_mul, ← neg_mul] at hneg
    exact hneg

/-- A whole number of seconds comes back as it is. -/
theorem read_format_ofInt {n : ℤ} (hn : |n| ≤ 2 ^ 53) :
    read (format (Float.ofInt n)) = .ok (Float.ofInt n) := by
  obtain rfl | hne := eq_or_ne n 0
  · decide +kernel
  have hsmall : n.natAbs ≤ 2 ^ 53 := by
    rw [Int.abs_eq_natAbs] at hn
    omega
  have hworth := worth?_ofInt hsmall
  have hnatAbs : (n * oneWorth : ℤ).natAbs = n.natAbs * oneWorth := by
    rw [Int.natAbs_mul, Int.natAbs_natCast]
  obtain ⟨r, hread, hr⟩ := exists_read_format hworth
    (hnatAbs.trans_le (Nat.mul_le_mul_right oneWorth hsmall))
  have hpos : (0 : ℤ) < oneWorth := Int.natCast_pos.2 oneWorth_pos
  have hneg : (n * oneWorth : ℤ) < 0 ↔ n < 0 := by
    rw [mul_neg_iff]
    omega
  have hsign : (if n < 0 then -(n.natAbs : ℤ) else n.natAbs) = n := by
    split <;> omega
  simp only [hneg, hnatAbs, ones_mul_oneWorth, hsign] at hr
  rw [hread, eq_of_worth? hr hworth (mul_ne_zero hne hpos.ne')]

/-- **Written times are read as the nearest integer**, halves away from zero. -/
theorem read_format_nearest :
    (∀ n : ℤ, |n| ≤ 2 ^ 53 → read (format (Float.ofInt n)) = .ok (Float.ofInt n)) ∧
    ∀ (t : Float) (q : ℚ), rat? t = some q → |q| ≤ 2 ^ 53 →
      ∃ r : Float, read (format t) = .ok r ∧ rat? r = some (roundAway q : ℚ) := by
  refine ⟨fun n hn => read_format_ofInt hn, fun t q ht hq => ?_⟩
  obtain ⟨v, hv, -, hcast⟩ := rat?_eq_some_iff.1 ht
  have hsmall : v.natAbs ≤ 2 ^ 53 * oneWorth := by
    have hone : (0 : ℚ) < oneWorth := Nat.cast_pos.2 oneWorth_pos
    have habs : (v.natAbs : ℚ) = |q| * oneWorth := by
      rw [Nat.cast_natAbs, Int.cast_abs, hcast, abs_mul, abs_of_pos hone]
    have hle : (v.natAbs : ℚ) ≤ ((2 ^ 53 * oneWorth : ℕ) : ℚ) := by
      rw [habs, Nat.cast_mul, Nat.cast_pow]
      exact mul_le_mul_of_nonneg_right hq hone.le
    exact Nat.cast_le.1 hle
  obtain ⟨r, hread, hr⟩ := exists_read_format hv hsmall
  rw [← roundAway_eq hcast] at hr
  refine ⟨r, hread, rat?_eq_some_iff.2 ⟨_, hr, ?_, by push_cast; rfl⟩⟩
  have hround : (roundAway q).natAbs = ones v.natAbs := by
    rw [roundAway_eq hcast]
    split <;> omega
  have hle := ones_le hsmall
  rw [Int.natAbs_mul, Int.natAbs_natCast, hround]
  exact mul_oneWorth_lt_beyond (by omega)

/-- A hundred hours before midnight, and half a second before it. -/
theorem read_format_nearest_negative :
    format (Float.ofInt (-360000)) = "-100:00:00" ∧
    read "-100:00:00" = .ok (Float.ofInt (-360000)) ∧
    rat? (-0.5) = some (-1 / 2) ∧
    ∃ r : Float, read (format (-0.5 : Float)) = .ok r ∧ rat? r = some (-1) := by
  have hformat : format (Float.ofInt (-360000)) = "-100:00:00" := by decide +kernel
  have hhalf : rat? (-0.5) = some (-1 / 2) := by decide +kernel
  have hround : roundAway (-1 / 2) = -1 := by norm_num [roundAway]
  have hinteger := read_format_nearest.1 (-360000) (by decide)
  obtain ⟨r, hread, hr⟩ := read_format_nearest.2 (-0.5) (-1 / 2) hhalf (by norm_num)
  rw [hround] at hr
  exact ⟨hformat, hformat ▸ hinteger, hhalf, r, hread, hr⟩

end Clock

end SpatialAccess
