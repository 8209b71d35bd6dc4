import SpatialAccess.Network.Basic

/-!
# Least costs

Costs are travel times in seconds. Trips by public transport follow the beeline; all others follow
the links of the network, and a tree holds their least costs from one node to every other.

* `TravelSpeeds`: the speeds that do not depend on the link. `TravelSpeeds.linkCost?`: the cost of a
  link.
* `LeastCostTree`: least costs from one node.
* `Router`: whatever grows such trees. `Network.leastCosts`: the router that settles the node of the
  least tentative cost first.
-/

namespace SpatialAccess

/-- Speeds in metres per second, and what a beeline is multiplied by for public transport. -/
structure TravelSpeeds (α : Type) where
  walk : α
  bike : α
  transit : α
  beeline : α
  deriving DecidableEq, Repr

variable {α : Type} [Number α]

namespace TravelSpeeds

/-- The default speeds: 3, 15 and 50 kilometres an hour. -/
def standard : TravelSpeeds α where
  walk := ((3 : Nat) : α) / 3.6
  bike := ((15 : Nat) : α) / 3.6
  transit := ((50 : Nat) : α) / 3.6
  beeline := 1.3

instance : Inhabited (TravelSpeeds α) := ⟨standard⟩

/-- Time for a distance on foot. -/
def walkTime (speeds : TravelSpeeds α) (distance : α) : α :=
  distance / speeds.walk

/-- Time for a beeline by public transport. -/
def transitTime (speeds : TravelSpeeds α) (distance : α) : α :=
  distance * speeds.beeline / speeds.transit

/-- The cost of a link; none if the mode does not use links. -/
def linkCost? (speeds : TravelSpeeds α) (network : Network α) (link : LinkId) :
    Mode → Option α
  | .freeSpeed => network.freespeedTime? link
  | .car => network.travelTime? link
  | .walk => (network.link? link).map fun l => l.length / speeds.walk
  | .bike => (network.link? link).map fun l => l.length / speeds.bike
  | .transit => none

end TravelSpeeds

/-- Least costs from one node to every node; a node without a label was never reached. -/
structure LeastCostTree (α : Type) where
  origin : NodeId
  mode : Mode
  labels : Array (Option α)
  deriving Repr

namespace LeastCostTree

/-- The least cost of a node, if it can be reached at finite cost. -/
def cost? (tree : LeastCostTree α) (node : NodeId) : Option α :=
  (tree.labels[node.index]?.join).filter Number.isFinite

/-- How many nodes can be reached at finite cost. -/
def reachedCount (tree : LeastCostTree α) : Nat :=
  tree.labels.countP fun label => label.any Number.isFinite

end LeastCostTree

/-- Grows the tree of least costs from a node in a mode. -/
abbrev Router (α : Type) := Network α → NodeId → Mode → Except (NetworkError α) (LeastCostTree α)

/-! ## Growing a tree -/

namespace LeastCosts

/-- Tentative costs that wait to be settled, least first. -/
abbrev Queue (α : Type) := List (α × NodeId)

/-- What is known while a tree grows. -/
structure State (α : Type) where
  labels : Array (Option α)
  queue : Queue α

/-- Whether an entry of a queue comes before another one: by cost, then by node. -/
def before (a b : α × NodeId) : Bool :=
  if Number.totalLE a.1 b.1 && Number.totalLE b.1 a.1 then a.2.index ≤ b.2.index
  else Number.totalLE a.1 b.1

/-- A queue with an entry more. -/
def enqueue (entry : α × NodeId) : Queue α → Queue α
  | [] => [entry]
  | e :: queue => if before entry e then entry :: e :: queue else e :: enqueue entry queue

/-- Whether a cost is below a label; anything finite is below the label of a node never reached. -/
def improves (cost : α) : Option α → Bool
  | some label => decide (cost < label)
  | none => Number.isFinite cost || decide (cost < ((0 : Nat) : α))

/-- Labels the target of a link anew if it is reached at less cost over this link. `cost` is that of
its source. -/
def relax (costOf : LinkId → Option α) (network : Network α) (cost : α) (s : State α)
    (link : LinkId) : State α :=
  match network.link? link, costOf link with
  | some l, some step =>
    let target := l.target
    let next := cost + step
    match s.labels[target.index]? with
    | some label =>
      if improves next label then
        { labels := s.labels.set! target.index (some next)
          queue := enqueue (next, target) s.queue }
      else s
    | none => s
  | _, _ => s

/-- Settles the first entry of the queue: looks at all links that leave its node, unless the node
has a lower label by now. -/
def settle (costOf : LinkId → Option α) (network : Network α) (entry : α × NodeId)
    (s : State α) : State α :=
  let (cost, node) := entry
  match s.labels[node.index]?.join with
  | some label =>
    if label < cost then s else (network.out node).foldl (relax costOf network cost) s
  | none => s

/-- Settles entries until none is left, at most `fuel` times. -/
def grow (costOf : LinkId → Option α) (network : Network α) : (fuel : Nat) → State α → State α
  | 0, s => s
  | fuel + 1, s =>
    match s.queue with
    | [] => s
    | entry :: queue => grow costOf network fuel (settle costOf network entry { s with queue })

/-- How many entries are settled at most. If no link has a cost below zero, every entry but the first
one belongs to a link, so that there are at most one more than links; with costs below zero there
may be more, and no end to them if a cycle gains by every turn. -/
def fuel (network : Network α) : Nat :=
  network.links.size + 1 + Nat.pow 2 60

/-- The labels after growing from a node. -/
def labels (costOf : LinkId → Option α) (network : Network α) (origin : NodeId) :
    Array (Option α) :=
  let zero : α := ((0 : Nat) : α)
  let unreached := Array.replicate network.nodes.size none
  (grow costOf network (fuel network)
    { labels := unreached.set! origin.index (some zero), queue := [(zero, origin)] }).labels

end LeastCosts

/-- The router for given speeds. The mode is checked before the node. -/
def Network.leastCosts (speeds : TravelSpeeds α) : Router α := fun network origin mode =>
  if !mode.isRouted then .error (.notRouted mode)
  else if network.nodes.size ≤ origin.index then .error (.nodeNotFound origin)
  else .ok {
    origin, mode
    labels := LeastCosts.labels (fun link => speeds.linkCost? network link mode) network origin }

end SpatialAccess
