import SpatialAccess.Output.Folder
import SpatialAccess.Surface.Run

/-!
# Writing while observing

An observer of a run has nobody to report an error to, so it keeps the first one until it is asked
for; nothing more is written while an error is kept.

* `SurfaceWriter`: whatever surfaces can be written to.
* `WriteObserver`: a writer's state and the error that is kept.
* `WriteObserver.observe`: one event of a run. `WriteObserver.takeError`: hands over the error.
-/

namespace SpatialAccess

/-- Writes surfaces to a state of type `σ`; a step that fails may change the state too. -/
structure SurfaceWriter (σ ε α : Type) where
  write : Surface α → σ → σ × Option ε
  finish : σ → σ × Option ε

/-- The writer to a folder. -/
def SurfaceWriter.toFolder : SurfaceWriter Folder OutputError Float where
  write surface folder :=
    match folder.write surface with
    | .ok folder => (folder, none)
    | .error e => (folder, some e)
  finish folder := (folder, none)

/-- The state of a writer, and the first error since the last one was handed over. -/
structure WriteObserver (σ ε : Type) where
  state : σ
  error? : Option ε := none
  deriving Repr

namespace WriteObserver

variable {σ ε α : Type}

/-- Keeps the outcome of a step of the writer; an error that is kept already stays. -/
def keep (o : WriteObserver σ ε) (step : σ × Option ε) : WriteObserver σ ε where
  state := step.1
  error? := o.error?.or step.2

/-- Follows one event of a run. -/
def observe (w : SurfaceWriter σ ε α) (o : WriteObserver σ ε) : RunEvent α → WriteObserver σ ε
  | .typeStart _ _ => o
  | .result surface => if o.error?.isSome then o else o.keep (w.write surface o.state)
  | .runEnd _ => o.keep (w.finish o.state)

/-- Follows the events of a run. -/
def observeAll (w : SurfaceWriter σ ε α) (o : WriteObserver σ ε) (events : List (RunEvent α)) :
    WriteObserver σ ε :=
  events.foldl (observe w) o

/-- Hands over the error that is kept. -/
def takeError (o : WriteObserver σ ε) : Option ε × WriteObserver σ ε :=
  (o.error?, { o with error? := none })

end WriteObserver

end SpatialAccess
