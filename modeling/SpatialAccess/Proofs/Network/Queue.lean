import SpatialAccess.Network.Routing
import SpatialAccess.Proofs.Number.Laws

/-!
# The queue of tentative costs

* `LeastCosts.enqueue_perm`: an entry more, and nothing else.
* **`LeastCosts.sorted_enqueue`**: costs never fall along a queue, and enqueuing keeps that.
-/

namespace SpatialAccess.LeastCosts

variable {α : Type} [Number α]

theorem enqueue_perm (entry : α × NodeId) (queue : Queue α) :
    (enqueue entry queue).Perm (entry :: queue) := by
  induction queue with
  | nil => exact List.Perm.refl _
  | cons e queue ih =>
    unfold enqueue
    split
    · exact List.Perm.refl _
    · exact (ih.cons e).trans (List.Perm.swap entry e queue)

variable [OrderedNumber α]

theorem le_of_before {a b : α × NodeId} (ha : a.1 ≤ a.1) (hb : b.1 ≤ b.1)
    (h : before a b = true) : a.1 ≤ b.1 := by
  refine OrderedNumber.le_of_totalLE ha hb ?_
  unfold before at h
  split at h
  · next hboth => exact (Bool.and_eq_true_iff.1 hboth).1
  · exact h

theorem le_of_not_before {a b : α × NodeId} (ha : a.1 ≤ a.1) (hb : b.1 ≤ b.1)
    (h : ¬before a b = true) : b.1 ≤ a.1 := by
  refine OrderedNumber.le_of_totalLE hb ha ?_
  unfold before at h
  split at h
  · next hboth => exact (Bool.and_eq_true_iff.1 hboth).2
  · exact (OrderedNumber.totalLE_total a.1 b.1).resolve_left h

/-- Costs never fall along a queue. -/
def Sorted (queue : Queue α) : Prop :=
  queue.Pairwise fun a b => a.1 ≤ b.1

theorem sorted_enqueue {entry : α × NodeId} {queue : Queue α} (hentry : entry.1 ≤ entry.1)
    (hself : ∀ e ∈ queue, e.1 ≤ e.1) (h : Sorted queue) : Sorted (enqueue entry queue) := by
  induction queue with
  | nil => exact List.pairwise_singleton _ _
  | cons e queue ih =>
    obtain ⟨he, hqueue⟩ := List.pairwise_cons.1 h
    have hself' : e.1 ≤ e.1 := hself e List.mem_cons_self
    unfold enqueue
    split
    · next hbefore =>
      have hle : entry.1 ≤ e.1 := le_of_before hentry hself' hbefore
      refine List.pairwise_cons.2 ⟨fun a ha => ?_, h⟩
      obtain rfl | ha := List.mem_cons.1 ha
      · exact hle
      · exact OrderedNumber.le_trans hle (he a ha)
    · next hbefore =>
      have hle : e.1 ≤ entry.1 := le_of_not_before hentry hself' hbefore
      refine List.pairwise_cons.2 ⟨fun a ha => ?_, ?_⟩
      · obtain rfl | ha := List.mem_cons.1 ((enqueue_perm entry queue).mem_iff.1 ha)
        · exact hle
        · exact he a ha
      · exact ih (fun a ha => hself a (List.mem_cons_of_mem e ha)) hqueue

end SpatialAccess.LeastCosts
