import Mathlib.Data.List.TakeWhile
import Mathlib.Data.Nat.Digits.Lemmas
import SpatialAccess.Decimal.Literal
import SpatialAccess.Proofs.Text.Items

/-!
# Texts of digits

* `Digits`: a run of decimal digits.
* **`Decimal.Literal.read?_digits`**: such a run is read as a number without sign, point or exponent.
* `Decimal.ofDigits_toDigits`: and as the number that it was written for.
-/

namespace SpatialAccess

/-! ## Runs of digits -/

/-- A run of decimal digits. -/
structure Digits (cs : List Char) : Prop where
  ne_nil : cs ≠ []
  isDigit : ∀ c ∈ cs, c.isDigit = true

theorem Text.isBlank_of_isDigit {c : Char} (h : c.isDigit = true) : isBlank c = false := by
  obtain ⟨hlow, hhigh⟩ := Char.isDigit_iff_toNat.1 h
  have hlow' : 48 ≤ c.toNat := hlow
  have hhigh' : c.toNat ≤ 57 := hhigh
  rw [isBlank]
  generalize c.toNat = n at hlow' hhigh'
  simp
  omega

theorem Text.toLower_of_isDigit {c : Char} (h : c.isDigit = true) : c.toLower = c := by
  simp only [Char.isDigit, Bool.and_eq_true, decide_eq_true_eq] at h
  refine dif_neg ?_
  rintro ⟨hupper, -⟩
  exact absurd (UInt32.le_trans hupper h.2) (by decide)

namespace Digits

theorem notMem {cs : List Char} (h : Digits cs) {c : Char} (hc : c.isDigit = false) : c ∉ cs := by
  intro hmem
  rw [h.isDigit c hmem] at hc
  cases hc

theorem trim {cs : List Char} (h : Digits cs) : Text.trim (String.ofList cs) = String.ofList cs :=
  Text.trim_eq_self fun c hc =>
    Text.isBlank_of_isDigit (h.isDigit c (by rwa [String.toList_ofList] at hc))

theorem toDigits (n : ℕ) : Digits (Nat.toDigits 10 n) where
  ne_nil := Nat.toDigits_ne_nil
  isDigit _ hc := Nat.isDigit_of_mem_toDigits (by decide) (by decide) hc

theorem cons {c : Char} {cs : List Char} (hc : c.isDigit = true) (h : Digits cs) :
    Digits (c :: cs) where
  ne_nil := List.cons_ne_nil _ _
  isDigit := List.forall_mem_cons.2 ⟨hc, h.isDigit⟩

end Digits

namespace Decimal

theorem ofDigits_toDigits (n : ℕ) : ofDigits (Nat.toDigits 10 n) = n :=
  Nat.ofDigitChars_toDigits (by decide) (by decide)

theorem ofDigits_zero_cons (cs : List Char) : ofDigits ('0' :: cs) = ofDigits cs := rfl

/-- **A run of digits is a number** without sign, point and exponent. -/
theorem Literal.read?_digits {cs : List Char} (h : Digits cs) :
    Literal.read? (String.ofList cs) = some (.finite false (ofDigits cs) 0) := by
  have hwhole : cs.takeWhile Char.isDigit = cs := List.takeWhile_eq_self_iff.2 h.isDigit
  have hrest : cs.dropWhile Char.isDigit = [] := List.dropWhile_eq_nil_iff.2 h.isDigit
  have hlower : cs.map Char.toLower = cs :=
    (List.map_congr_left fun c hc => Text.toLower_of_isDigit (h.isDigit c hc)).trans (List.map_id cs)
  -- no digit is a letter of one of the words
  have hword : ∀ word : List Char, (∃ c ∈ word, c.isDigit = false) → cs ≠ word := by
    rintro word ⟨c, hc, hdigit⟩ rfl
    exact h.notMem hdigit hc
  have hnan : cs ≠ ['n', 'a', 'n'] := hword _ ⟨'n', List.mem_cons_self, rfl⟩
  have hinf : cs ≠ ['i', 'n', 'f'] := hword _ ⟨'i', List.mem_cons_self, rfl⟩
  have hinfinity : cs ≠ ['i', 'n', 'f', 'i', 'n', 'i', 't', 'y'] :=
    hword _ ⟨'i', List.mem_cons_self, rfl⟩
  have hunsigned : Literal.unsigned? false cs = some (.finite false (ofDigits cs) 0) := by
    simp [Literal.unsigned?, hlower, hnan, hinf, hinfinity, hwhole, hrest, Literal.fraction,
      h.ne_nil, Literal.exponent?]
  have hminus : '-' ∉ cs := h.notMem (by decide)
  have hplus : '+' ∉ cs := h.notMem (by decide)
  rw [Literal.read?, String.toList_ofList]
  split
  · exact absurd List.mem_cons_self hminus
  · exact absurd List.mem_cons_self hplus
  · exact hunsigned

end Decimal

end SpatialAccess
