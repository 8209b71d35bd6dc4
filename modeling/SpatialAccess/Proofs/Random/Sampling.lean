import Mathlib.Data.List.Basic
import SpatialAccess.Proofs.Number.Laws
import SpatialAccess.Random.Sample

/-!
# What a sample keeps

* `Draw.filterChance_sublist`, `Draw.keepRate_sublist`: a sample with a rate is a sublist, whatever
  the words of the stream are.
* `Draw.run_chance`: a chance below one takes one word and compares it with a threshold.
* **`Draw.run_filterChance`**: so every item has its own word, whatever the rate is.
* **`Draw.keepRate_mono`**: from the same stream a greater rate keeps all that a smaller one keeps.
-/

namespace SpatialAccess

/-- The next words of a stream. -/
def Stream.words : Nat → Stream → List UInt64
  | 0, _ => []
  | n + 1, s => s.next.1 :: words n s.next.2

namespace Draw

variable {α β : Type} [Number α]

theorem filterChance_sublist (rate : α) (items : List β) (s : Stream) :
    ((filterChance rate items).run s).1.Sublist items := by
  induction items generalizing s with
  | nil => exact List.Sublist.refl _
  | cons item items ih =>
    have hrest := ih ((chance rate).run s).2
    change (if ((chance rate).run s).1 = true then
      item :: ((filterChance rate items).run ((chance rate).run s).2).1
      else ((filterChance rate items).run ((chance rate).run s).2).1).Sublist _
    split
    · exact hrest.cons_cons item
    · exact hrest.cons item

theorem keepRate_sublist (items : List β) (rate : α) (s : Stream) :
    ((keepRate items rate).run s).1.Sublist items := by
  unfold keepRate
  split
  · exact List.Sublist.refl _
  · exact filterChance_sublist rate items s

/-! ## Two rates -/

/-- The words below it stand for yes. -/
def threshold (rate : α) : Nat :=
  Number.toNat (rate * ((Nat.pow 2 64 : Nat) : α))

theorem run_chance {rate : α} (h : ¬((1 : Nat) : α) ≤ rate) (s : Stream) :
    (chance rate).run s = (decide (s.next.1.toNat < threshold rate), s.next.2) := by
  unfold chance
  rw [if_neg h]
  rfl

/-- **Every item has its own word**, and is kept if that is below the threshold. -/
theorem run_filterChance {rate : α} (h : ¬((1 : Nat) : α) ≤ rate) (items : List β) (s : Stream) :
    ((filterChance rate items).run s).1 =
      ((items.zip (s.words items.length)).filter fun x => x.2.toNat < threshold rate).map
        Prod.fst := by
  induction items generalizing s with
  | nil => rfl
  | cons item items ih =>
    change (if ((chance rate).run s).1 = true then
      item :: ((filterChance rate items).run ((chance rate).run s).2).1
      else ((filterChance rate items).run ((chance rate).run s).2).1) = _
    rw [run_chance h, ih, List.length_cons, Stream.words, List.zip_cons_cons, List.filter_cons]
    by_cases hword : s.next.1.toNat < threshold rate <;> simp [hword]

/-- **A greater rate keeps all that a smaller one keeps.** -/
theorem keepRate_mono [RateNumber α] {p q : α} (h : p ≤ q) (items : List β) (s : Stream) :
    ((keepRate items p).run s).1.Sublist ((keepRate items q).run s).1 := by
  by_cases hq : ((1 : Nat) : α) ≤ q
  · have hall : ((keepRate items q).run s).1 = items := by
      unfold keepRate
      rw [if_pos hq]
      rfl
    rw [hall]
    exact keepRate_sublist items p s
  · have hp : ¬((1 : Nat) : α) ≤ p := fun hp => hq (OrderedNumber.le_trans hp h)
    have hthreshold : threshold p ≤ threshold q := RateNumber.toNat_scaled_le h
    unfold keepRate
    rw [if_neg hp, if_neg hq, run_filterChance hp, run_filterChance hq]
    -- both runs look at the same word of the same item
    refine List.Sublist.map _ (List.monotone_filter_right _ fun x hx => ?_)
    simp only [decide_eq_true_eq] at hx ⊢
    omega

end Draw

end SpatialAccess
