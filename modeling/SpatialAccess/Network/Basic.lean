import SpatialAccess.Geometry
import SpatialAccess.Network.Error
import Std.Data.HashMap

/-!
# Street networks

A network has nodes with coordinates and directed links between them. The links that leave a node
lie next to each other in one array of links sorted by their source. Nodes and links are numbered by
naturals here. Numbers of 32 bits would start again behind `2 ^ 32` of them, so networks are taken
to have fewer nodes and fewer links than that.

* `Node`, `Link`, `Network`: the parts.
* `NetworkBuilder`: a network that still grows; `NetworkBuilder.build` finishes it.
* `Network.out`: the links that leave a node.
* `Network.middle?`, `Network.midpoint?`: the middle of a link.
* `Network.snap?`, `Network.attach?`, `Network.nearest`: the nodes closest to a point.
-/

namespace SpatialAccess

/-- A place where links meet. -/
structure Node (α : Type) where
  label : String
  coord : Point α
  deriving Repr, DecidableEq

/-- A one-way connection; its length is in metres, its speed in metres per second. -/
structure Link (α : Type) where
  label : String
  source : NodeId
  target : NodeId
  length : α
  speed : α
  deriving Repr

/-- A finished network. -/
structure Network (α : Type) where
  nodes : Array (Node α)
  links : Array (Link α)
  /-- Where in `outLinks` the links that leave a node begin; one entry more than there are nodes,
  and none above the number of links. -/
  outStart : Array Nat
  /-- All links, by source. -/
  outLinks : Array LinkId
  /-- Congested travel times by link, if there are any. -/
  congested : Option (Array α) := none
  nodeByLabel : Std.HashMap String NodeId
  linkByLabel : Std.HashMap String LinkId

/-- A network that still grows. -/
structure NetworkBuilder (α : Type) where
  nodes : Array (Node α) := #[]
  links : Array (Link α) := #[]
  nodeByLabel : Std.HashMap String NodeId := {}

/-! ## Building -/

namespace NetworkBuilder

variable {α : Type}

/-- The node of a label; the last one if there are several. -/
def lookupNode? (b : NetworkBuilder α) (label : String) : Option NodeId :=
  b.nodeByLabel[label]?

/-- A builder with a node more, which gets the next identifier. -/
def addNode (b : NetworkBuilder α) (label : String) (coord : Point α) :
    NodeId × NetworkBuilder α :=
  let id : NodeId := ⟨b.nodes.size⟩
  (id, { b with
    nodes := b.nodes.push { label, coord }
    nodeByLabel := b.nodeByLabel.insert label id })

/-- A builder with a link more, which gets the next identifier. Nobody checks that its ends are
nodes. -/
def addLink (b : NetworkBuilder α) (link : Link α) : LinkId × NetworkBuilder α :=
  (⟨b.links.size⟩, { b with links := b.links.push link })

/-- Label of a node. -/
def nodeLabel (b : NetworkBuilder α) (node : NodeId) : String :=
  (b.nodes[node.index]?.map Node.label).getD ""

/-- A builder with links both ways between two nodes, labelled by the labels of their ends. -/
def addRoad (b : NetworkBuilder α) (source target : NodeId) (length speed : α) :
    (LinkId × LinkId) × NetworkBuilder α :=
  let (s, t) := (b.nodeLabel source, b.nodeLabel target)
  let (there, b) := b.addLink { label := s ++ "_" ++ t, source, target, length, speed }
  let (back, b) :=
    b.addLink { label := t ++ "_" ++ s, source := target, target := source, length, speed }
  ((there, back), b)

/-- The source of a link. -/
def source (b : NetworkBuilder α) (link : LinkId) : Nat :=
  (b.links[link.index]?.map fun l => l.source.index).getD 0

/-- How many links leave each node. -/
def outDegrees (b : NetworkBuilder α) : Array Nat :=
  b.links.foldl (fun degrees l => degrees.modify l.source.index (· + 1))
    (Array.replicate b.nodes.size 0)

/-- The sums of ever longer beginnings of a list, that of nothing first. -/
def runningSums (total : Nat) : List Nat → List Nat
  | [] => [total]
  | n :: ns => total :: runningSums (total + n) ns

/-- The finished network. Every link is taken to leave a node; the node that it leads to is not
looked at. -/
def build (b : NetworkBuilder α) : Network α :=
  let ids := (List.range b.links.size).map fun i => (⟨i⟩ : LinkId)
  { nodes := b.nodes
    links := b.links
    outStart := (runningSums 0 b.outDegrees.toList).toArray
    outLinks := (ids.mergeSort fun k l => b.source k ≤ b.source l).toArray
    nodeByLabel := b.nodeByLabel
    linkByLabel := (ids.zip b.links.toList).foldl (fun map (id, l) => map.insert l.label id) {} }

end NetworkBuilder

/-! ## Looking up -/

namespace Network

variable {α : Type}

/-- The network without nodes. -/
def empty : Network α :=
  NetworkBuilder.build {}

/-- Whether there are no nodes. -/
def isEmpty (n : Network α) : Bool :=
  n.nodes.isEmpty

/-- The node of an identifier. -/
def node? (n : Network α) (id : NodeId) : Option (Node α) :=
  n.nodes[id.index]?

/-- The link of an identifier. -/
def link? (n : Network α) (id : LinkId) : Option (Link α) :=
  n.links[id.index]?

/-- The node of a label; the last one if there are several. -/
def lookupNode? (n : Network α) (label : String) : Option NodeId :=
  n.nodeByLabel[label]?

/-- The link of a label; the last one if there are several. -/
def lookupLink? (n : Network α) (label : String) : Option LinkId :=
  n.linkByLabel[label]?

/-- Where a node lies. -/
def nodeCoord? (n : Network α) (id : NodeId) : Option (Point α) :=
  (n.node? id).map Node.coord

/-- The label of a node. -/
def nodeLabel? (n : Network α) (id : NodeId) : Option String :=
  (n.node? id).map Node.label

/-- The label of a link. -/
def linkLabel? (n : Network α) (id : LinkId) : Option String :=
  (n.link? id).map Link.label

/-- All links in order. -/
def linkIds (n : Network α) : List LinkId :=
  (List.range n.links.size).map Id.mk

/-- The links that leave a node, in order. -/
def out (n : Network α) (id : NodeId) : List LinkId :=
  match n.outStart[id.index]?, n.outStart[id.index + 1]? with
  | some start, some stop => (n.outLinks.extract start stop).toList
  | _, _ => []

variable [Number α]

/-- Time for a link at free speed, in seconds. -/
def freespeedTime? (n : Network α) (id : LinkId) : Option α :=
  (n.link? id).map fun l => l.length / l.speed

/-- Time for a link with congestion, where that is known. -/
def travelTime? (n : Network α) (id : LinkId) : Option α :=
  match n.congested with
  | some times => times[id.index]?
  | none => n.freespeedTime? id

/-- A network with congested travel times, one for every link. -/
def setCongested (n : Network α) (times : Array α) : Except (NetworkError α) (Network α) :=
  if times.size = n.links.size then .ok { n with congested := some times }
  else .error (.timesLength n.links.size times.size)

/-- The middle of a link, where `some none` says that there is no such link. The look-up breaks off,
and there is nothing at all, if the link is there but one of its ends is no node. -/
def middle? (n : Network α) (id : LinkId) : Option (Option (Point α)) :=
  match n.link? id with
  | none => some none
  | some link => do
    return some ((← n.nodeCoord? link.source).midpoint (← n.nodeCoord? link.target))

/-- The middle of a link whose ends are nodes. -/
def midpoint? (n : Network α) (id : LinkId) : Option (Point α) :=
  (n.middle? id).join

/-- The smallest box around all nodes. -/
def box? (n : Network α) : Option (Box α) :=
  Box.ofPoints? (n.nodes.toList.map Node.coord)

/-- All nodes with their squared distance to a point. -/
def distancesSq (n : Network α) (p : Point α) : List (NodeId × α) :=
  n.nodes.toList.zipIdx.map fun (node, i) => (⟨i⟩, node.coord.distanceSq p)

/-- The node closest to a point, the first one if several are; there is one unless there are no
nodes. -/
def snap? (n : Network α) (p : Point α) : Option NodeId :=
  match n.distancesSq p with
  | [] => none
  | first :: others =>
    some (others.foldl (fun best next => if next.2 < best.2 then next else best) first).1

/-- The node closest to a point, with the beeline to it. -/
def attach? (n : Network α) (p : Point α) : Option (NodeId × α) := do
  let node ← n.snap? p
  return (node, p.distance (← n.nodeCoord? node))

/-- The closest nodes to a point, at most `count`, by distance. -/
def nearest (n : Network α) (p : Point α) (count : Nat) : List NodeId :=
  (((n.distancesSq p).mergeSort fun k l => Number.totalLE k.2 l.2).take count).map Prod.fst

end Network

end SpatialAccess
