/-!
# Calls on a state

A call answers or is refused. Either way it leaves a state, and what it has changed before it was
refused stays changed.

* `ExceptT.exec`: what a call gives on a state, and the state that it leaves.
* `ExceptT.attempt`, `ExceptT.leave`: the same, and the state alone, for those who have no use for
  the state that a refused call leaves.
* `ExceptT.onPart`: a call on a part of a state.
-/

namespace ExceptT

variable {ε σ τ β : Type}

/-- What a call gives on a state, and the state that it leaves. -/
def exec (x : ExceptT ε (StateM σ) β) (s : σ) : Except ε β × σ :=
  x.run.run s

/-- What a call gives and the state that it leaves, or why it is refused. -/
def attempt (x : ExceptT ε (StateM σ) β) (s : σ) : Except ε (β × σ) :=
  match x.exec s with
  | (.ok b, s') => .ok (b, s')
  | (.error e, _) => .error e

/-- The state that a call leaves, or why it is refused. -/
def leave (x : ExceptT ε (StateM σ) β) (s : σ) : Except ε σ :=
  (x.attempt s).map Prod.snd

/-- A call on a part of a state, which is put back as the call leaves it. -/
def onPart (part : σ → τ) (put : σ → τ → σ) (x : ExceptT ε (StateM τ) β) :
    ExceptT ε (StateM σ) β :=
  ExceptT.mk fun s =>
    let (answer, t) := x.exec (part s)
    (answer, put s t)

end ExceptT
