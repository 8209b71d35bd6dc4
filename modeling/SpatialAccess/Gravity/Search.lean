import SpatialAccess.Gravity.Model

/-!
# Searching for a good layout

One candidate at a time is moved to a random link, and the move is kept if it raises the score.

* `Layout`: links of the candidates with their score.
* `climb`: a random first layout and a number of moves, for any way of scoring.
* `GravityModel.localSearch`: the search with the scores of a model.
-/

namespace SpatialAccess.GravityModel

variable {α : Type} [Number α]

/-- Where the candidates are, and what that is worth. -/
structure Layout (α : Type) where
  links : List LinkId
  score : α
  deriving DecidableEq, Repr

/-- A random entry of a list. -/
def drawLink (links : List LinkId) : Draw LinkId := do
  return links.getD (← Draw.upTo64 0 (links.length - 1)) Id.invalid

/-- A random link for every candidate. -/
def drawLayout (links : List LinkId) (candidates : Nat) : Draw (List LinkId) :=
  (List.replicate candidates ()).mapM fun _ => drawLink links

section Climb

variable {M : Type → Type} [Monad M] [MonadLiftT Draw M]

/-- One move: a random candidate to a random link, kept if that raises the score. -/
def move (score : List LinkId → M α) (links : List LinkId) (best : Layout α) : M (Layout α) := do
  let k ← Draw.upTo64 0 (best.links.length - 1)
  let link ← drawLink links
  let trial := best.links.set k link
  let value ← score trial
  return if best.score < value then { links := trial, score := value } else best

/-- A number of moves. -/
def moves (score : List LinkId → M α) (links : List LinkId) : (count : Nat) → Layout α →
    M (Layout α)
  | 0, best => return best
  | count + 1, best => do
    let best ← move score links best
    moves score links count best

/-- The best layout found by a number of moves from a random layout. -/
def climb (score : List LinkId → M α) (links : List LinkId) (candidates count : Nat) :
    M (Layout α) := do
  let first ← drawLayout links candidates
  let value ← score first
  moves score links count { links := first, score := value }

end Climb

/-- A computation that draws and scores. -/
abbrev Search (α : Type) := ExceptT (DataError α) (StateT (UtilityCache α) Draw)

/-- Scores within a search. -/
def Search.score (m : GravityModel α) (links : List LinkId) : Search α α :=
  ExceptT.mk fun cache => return (m.computePotential links).run.run cache

/-- The best layout of a model that is found by a number of moves from a random layout. -/
def localSearch (m : GravityModel α) (links : List LinkId) (count : Nat) :
    Search α (Layout α) :=
  climb (Search.score m) links m.candidates.length count

end SpatialAccess.GravityModel
