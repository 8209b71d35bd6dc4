import SpatialAccess.Id
import SpatialAccess.Number

/-!
# Laws of numbers

What is proved of numbers without saying which ones is proved from laws that hold of doubles and of
exact numbers alike.

* `OrderedNumber`: comparisons are a total preorder on all that is a number; what is not a number
  compares with nothing.
* `OrderedNumber.le_of_not_lt`, `OrderedNumber.lt_of_not_le`: the usual consequences.
* `OrderedNumber.lower_le_left`, `OrderedNumber.le_upper_left`: the smaller and the larger of two
  numbers.
* `CostNumber`: adding what is not negative neither lowers a cost nor changes the order of costs.
* `MarginNumber`: taking away a margin does not raise a number, and adding one does not lower it.
* `RateNumber`: a chance that is not smaller is met by no fewer of the 64-bit words.
* `CountNumber`: naturals as small as identifiers are exact, and whole parts are compared with them.
-/

namespace SpatialAccess

/-- Comparisons are a total preorder on the values that are below themselves, and no other value
compares with anything. -/
class OrderedNumber (α : Type) [Number α] : Prop where
  le_left {a b : α} : a ≤ b → a ≤ a
  le_right {a b : α} : a ≤ b → b ≤ b
  le_trans {a b c : α} : a ≤ b → b ≤ c → a ≤ c
  le_total {a b : α} : a ≤ a → b ≤ b → a ≤ b ∨ b ≤ a
  lt_iff_le_not_le {a b : α} : a < b ↔ a ≤ b ∧ ¬b ≤ a
  beq_iff_le_le {a b : α} : (a == b) = true ↔ a ≤ b ∧ b ≤ a
  /-- The order of sorting is total, -/
  totalLE_total (a b : α) : Number.totalLE a b = true ∨ Number.totalLE b a = true
  /-- and it never contradicts a comparison. -/
  le_of_totalLE {a b : α} : a ≤ a → b ≤ b → Number.totalLE a b = true → a ≤ b

namespace OrderedNumber

variable {α : Type} [Number α] [OrderedNumber α] {a b c : α}

theorem isNaN_eq_false_iff : Number.isNaN a = false ↔ a ≤ a := by
  rw [Number.isNaN, Bool.not_eq_false', beq_iff_le_le, and_self]

theorem le_of_lt (h : a < b) : a ≤ b :=
  (lt_iff_le_not_le.1 h).1

theorem not_lt_of_le (h : a ≤ b) : ¬b < a := fun hba =>
  (lt_iff_le_not_le.1 hba).2 h

theorem not_le_of_lt (h : a < b) : ¬b ≤ a :=
  (lt_iff_le_not_le.1 h).2

theorem le_of_not_lt (ha : a ≤ a) (hb : b ≤ b) (h : ¬a < b) : b ≤ a := by
  obtain hab | hba := le_total ha hb
  · by_cases hba : b ≤ a
    · exact hba
    · exact absurd (lt_iff_le_not_le.2 ⟨hab, hba⟩) h
  · exact hba

theorem lt_of_not_le (ha : a ≤ a) (hb : b ≤ b) (h : ¬a ≤ b) : b < a := by
  obtain hab | hba := le_total ha hb
  · exact absurd hab h
  · exact lt_iff_le_not_le.2 ⟨hba, h⟩

theorem lt_of_lt_of_le (hab : a < b) (hbc : b ≤ c) : a < c := by
  refine lt_iff_le_not_le.2 ⟨le_trans (le_of_lt hab) hbc, fun hca => ?_⟩
  exact not_le_of_lt hab (le_trans hbc hca)

theorem lower_le_left (ha : a ≤ a) : Number.lower a b ≤ a := by
  rw [Number.lower, isNaN_eq_false_iff.2 ha]
  split
  · contradiction
  · split
    · next hlt => exact le_of_lt hlt
    · exact ha

theorem lower_le_right (ha : a ≤ a) (hb : b ≤ b) : Number.lower a b ≤ b := by
  rw [Number.lower, isNaN_eq_false_iff.2 ha]
  split
  · contradiction
  · split
    · exact hb
    · next hlt => exact le_of_not_lt hb ha hlt

theorem le_upper_left (ha : a ≤ a) : a ≤ Number.upper a b := by
  rw [Number.upper, isNaN_eq_false_iff.2 ha]
  split
  · contradiction
  · split
    · next hlt => exact le_of_lt hlt
    · exact ha

theorem le_upper_right (ha : a ≤ a) (hb : b ≤ b) : b ≤ Number.upper a b := by
  rw [Number.upper, isNaN_eq_false_iff.2 ha]
  split
  · contradiction
  · split
    · exact hb
    · next hlt => exact le_of_not_lt ha hb hlt

end OrderedNumber

/-- Numbers that costs can be added in: a sum of costs is not below its first part, and it does not
fall if that part rises. -/
class CostNumber (α : Type) [Number α] : Prop extends OrderedNumber α where
  zero_le_zero : ((0 : Nat) : α) ≤ ((0 : Nat) : α)
  le_add {c w : α} : ((0 : Nat) : α) ≤ c → ((0 : Nat) : α) ≤ w → c ≤ c + w
  add_le_add {a b w : α} : ((0 : Nat) : α) ≤ a → a ≤ b → ((0 : Nat) : α) ≤ w → a + w ≤ b + w
  isFinite_zero : Number.isFinite ((0 : Nat) : α) = true
  /-- What is below something finite is finite. -/
  isFinite_of_le {a b : α} : ((0 : Nat) : α) ≤ a → a ≤ b → Number.isFinite b = true →
    Number.isFinite a = true

/-- Numbers that margins can be put around: a margin is finite and not negative. -/
class MarginNumber (α : Type) [Number α] : Prop extends OrderedNumber α where
  sub_le {x margin : α} : x ≤ x → ((0 : Nat) : α) ≤ margin → Number.isFinite margin = true →
    x - margin ≤ x
  le_add {x margin : α} : x ≤ x → ((0 : Nat) : α) ≤ margin → Number.isFinite margin = true →
    x ≤ x + margin
  /-- One is a margin. -/
  zero_le_one : ((0 : Nat) : α) ≤ ((1 : Nat) : α)
  isFinite_one : Number.isFinite ((1 : Nat) : α) = true

/-- Numbers that can be chances: scaled to the words of a stream they keep their order. -/
class RateNumber (α : Type) [Number α] : Prop extends OrderedNumber α where
  toNat_scaled_le {p q : α} : p ≤ q →
    Number.toNat (p * ((Nat.pow 2 64 : Nat) : α)) ≤ Number.toNat (q * ((Nat.pow 2 64 : Nat) : α))

/-- Numbers to count in, as far as there are identifiers. -/
class CountNumber (α : Type) [Number α] : Prop extends OrderedNumber α where
  natCast_le_natCast {m n : Nat} : m ≤ n → n ≤ Id.limit → (m : α) ≤ (n : α)
  natCast_add {m n : Nat} : m + n ≤ Id.limit → (m : α) + (n : α) = ((m + n : Nat) : α)
  /-- Sums start at negative zero. -/
  neg_zero_add {n : Nat} : n ≤ Id.limit → -((0 : Nat) : α) + (n : α) = (n : α)
  toNat_lt_iff {x : α} {n : Nat} : ((0 : Nat) : α) ≤ x → n ≤ Id.limit →
    (Number.toNat x < n ↔ x < (n : α))

namespace CountNumber

variable {α : Type} [Number α] [CountNumber α]

open OrderedNumber

/-- The whole part of a number is the natural at or below it, next to which the number is not yet
at the following one. -/
theorem toNat_eq_iff {x : α} (hx : ((0 : Nat) : α) ≤ x) {n : Nat} (hn : n + 1 ≤ Id.limit) :
    Number.toNat x = n ↔ (n : α) ≤ x ∧ x < ((n + 1 : Nat) : α) := by
  have hle : n ≤ Id.limit := Nat.le_of_succ_le hn
  have hself : (n : α) ≤ (n : α) := natCast_le_natCast (Nat.le_refl n) hle
  rw [← toNat_lt_iff hx hn]
  have hlow : (n : α) ≤ x ↔ ¬Number.toNat x < n := by
    rw [toNat_lt_iff hx hle]
    exact ⟨not_lt_of_le, le_of_not_lt (le_right hx) hself⟩
  rw [hlow]
  omega

end CountNumber

end SpatialAccess
