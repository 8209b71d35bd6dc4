import SpatialAccess.Proofs.Outcome

/-!
# Calls that may be refused

What is built call by call goes on after a call that was refused, with the state that the call has
left.

* `Calls.after`: the state behind calls. `Calls.accepted`: the calls that were not refused.
* `Calls.after_refused`: a refused call that changes nothing leaves no trace.
* **`Calls.holds_after`**: what is known of a state and of the calls that led to it is known behind
  all calls if every accepted call keeps it up and refused ones change nothing.
-/

namespace SpatialAccess.Calls

variable {σ ι ε : Type} (apply : ι → ExceptT ε (StateM σ) PUnit)

/-- The state behind calls, each of which is made on what the last one has left. -/
def after (s : σ) : List ι → σ
  | [] => s
  | call :: calls => after ((apply call).exec s).2 calls

/-- The calls that are not refused, in their order. -/
def accepted (s : σ) : List ι → List ι
  | [] => []
  | call :: calls =>
    match (apply call).exec s with
    | (.ok _, s') => call :: accepted s' calls
    | (.error _, s') => accepted s' calls

variable {apply} {s : σ}

theorem after_append (calls calls' : List ι) :
    after apply s (calls ++ calls') = after apply (after apply s calls) calls' := by
  induction calls generalizing s with
  | nil => rfl
  | cons call calls ih => exact ih

section Atomic

variable (hatomic : ∀ call, (apply call).Atomic)

include hatomic

/-- **A call that is refused leaves no trace**, whatever comes behind it. -/
theorem after_refused {before : List ι} {call : ι} {e : ε}
    (h : ((apply call).exec (after apply s before)).1 = .error e) :
    ((apply call).exec (after apply s before)).2 = after apply s before ∧
      ∀ rest, after apply s (before ++ call :: rest) = after apply s (before ++ rest) := by
  have hsame := hatomic call _ e h
  refine ⟨hsame, fun rest => ?_⟩
  rw [after_append, after_append, after, hsame]

theorem holds_after_append {Holds : σ → List ι → Prop}
    (hstep : ∀ s kept call s', Holds s kept → (apply call).exec s = (.ok ⟨⟩, s') →
      Holds s' (kept ++ [call]))
    {kept : List ι} (hs : Holds s kept) (calls : List ι) :
    Holds (after apply s calls) (kept ++ accepted apply s calls) := by
  induction calls generalizing s kept with
  | nil => rwa [after, accepted, List.append_nil]
  | cons call calls ih =>
    rw [after, accepted]
    rcases hcall : (apply call).exec s with ⟨e | ⟨⟩, s'⟩
    · have hsame := hatomic call s e (congrArg Prod.fst hcall)
      rw [hcall] at hsame
      exact ih (hsame ▸ hs)
    · rw [List.append_cons]
      exact ih (hstep s kept call s' hs hcall)

/-- **What every accepted call keeps up holds behind all calls**, if refused ones change nothing. -/
theorem holds_after (Holds : σ → List ι → Prop)
    (hstep : ∀ s kept call s', Holds s kept → (apply call).exec s = (.ok ⟨⟩, s') →
      Holds s' (kept ++ [call]))
    (hs : Holds s []) (calls : List ι) :
    Holds (after apply s calls) (accepted apply s calls) :=
  holds_after_append hatomic hstep hs calls

end Atomic

end SpatialAccess.Calls
