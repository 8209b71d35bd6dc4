import SpatialAccess.Surface.Opportunity
import SpatialAccess.Surface.Settings

/-!
# Computing accessibility

The accessibility of a point in a mode is the sum, over all opportunities that can be reached, of
their attraction at the cost of getting there. In a routed mode the cost is a walk to the closest
node, a least-cost path, and a walk from the node closest to the opportunity; public transport goes
along the beeline.

* `SurfaceModel`: settings, network, router and measuring points. `SurfaceModel.build`: checks them.
* `SurfaceModel.computeBy`: the surface of an activity type, for any way of asking for trees. Points
  that are closest to the same node share their trees (`nodeGroups`).
* `SurfaceModel.pointValues`, `SurfaceModel.compute`: the values of one point and the surface of an
  activity type, with the trees of the router.
* `SurfaceModel.anchorDensity`: anchors per cell.
-/

namespace SpatialAccess

/-- All that surfaces are computed from. -/
structure SurfaceModel (α : Type) where
  settings : SurfaceSettings α
  network : Network α
  router : Router α
  grid : MeasuringGrid α

/-- The numbers of points, grouped by the node closest to them; groups are in order of nodes. -/
def nodeGroups {α : Type} (points : List (MeasuringPoint α)) : List (List Nat) :=
  let numbered := points.zipIdx.map fun (p, i) => (p.node.index, i)
  let sorted := numbered.mergeSort fun a b => a.1 ≤ b.1
  (sorted.splitBy fun a b => a.1 == b.1).map fun group => group.map Prod.snd

namespace SurfaceModel

variable {α : Type} [Number α]

/-- The model of settings and a network. Without a grid it is laid out over the box of the settings,
or else over the network. -/
def build (settings : SurfaceSettings α) (network : Network α) (router : Router α)
    (grid? : Option (MeasuringGrid α)) : Except (SurfaceError α) (SurfaceModel α) := do
  if settings.modes.isEmpty then
    .error (.config .noModes)
  if network.isEmpty then
    .error (.network .emptyNetwork)
  let grid ← match grid? with
    | some grid => .ok grid
    | none =>
      (MeasuringGrid.covering settings.box? settings.cellSize network).mapError SurfaceError.network
  return { settings, network, router, grid }

/-! ## Values -/

/-- The cost of an opportunity from a point; none if the tree does not reach it. -/
def cost? (m : SurfaceModel α) (point : MeasuringPoint α) (tree? : Option (LeastCostTree α))
    (o : Opportunity α) : Option α :=
  let speeds := m.settings.speeds
  match tree? with
  | some tree => (tree.cost? o.node).map fun onNetwork =>
      speeds.walkTime point.access + onNetwork + speeds.walkTime o.egress
  | none => some (speeds.transitTime (point.coord.distance o.coord))

/-- The accessibility of a point in a mode; it has to be finite. -/
def value (m : SurfaceModel α) (point : MeasuringPoint α) (set : OpportunitySet α) (mode : Mode)
    (tree? : Option (LeastCostTree α)) : Except (SurfaceError α) α :=
  let betas := m.settings.betasFor mode
  let attractions := set.items.filterMap fun o =>
    (m.cost? point tree? o).map fun cost => betas.potential cost o.capacity
  let sum := Number.sum attractions
  if Number.isFinite sum then .ok sum else .error (.data (.badAccessibility point.id mode.name sum))

/-- The values of a point, given the trees from the node closest to it. -/
def valuesWith (m : SurfaceModel α) (set : OpportunitySet α)
    (trees : List (Option (LeastCostTree α))) (point : MeasuringPoint α) :
    Except (SurfaceError α) (List α) :=
  (m.settings.modes.zip trees).mapM fun (mode, tree?) => m.value point set mode tree?

/-- How many anchors there are in every cell. -/
def anchorDensity (m : SurfaceModel α) (facilities : Facilities α) : Array α :=
  let cells := (facilities.offering m.settings.anchorType).filterMap fun f =>
    m.grid.cellOf? f.coord
  cells.foldl (fun density cell => density.modify cell.index (· + ((1 : Nat) : α)))
    (Array.replicate m.grid.size ((0 : Nat) : α))

/-- A surface with the values of one point filled in. -/
def insertRow (surface : Surface α) (point : MeasuringPoint α) (row : List α) :
    Except (SurfaceError α) (Surface α) :=
  (surface.modes.zip row).foldlM (fun s (mode, value) => s.insert point.id mode value) surface

/-- The surface of given values. -/
def fillIn (m : SurfaceModel α) (set : OpportunitySet α) (facilities : Facilities α)
    (values : Array (List α)) : Except (SurfaceError α) (Surface α) := do
  let blank := Surface.blank set.activityType m.grid.points m.settings.modes
  let filled ← (m.grid.points.toList.zip values.toList).foldlM
    (fun surface (point, row) => insertRow surface point row) blank
  filled.setDensity (m.anchorDensity facilities)

section Asking

variable {M : Type → Type} [Monad M] [MonadLiftT (Except (SurfaceError α)) M]
  (ask : NodeId → Mode → M (LeastCostTree α))

/-- The tree from a node in a mode; none if the mode is not routed. -/
def treeBy? (origin : NodeId) (mode : Mode) : M (Option (LeastCostTree α)) :=
  if mode.isRouted then some <$> ask origin mode else pure none

/-- The trees from a node, for every mode of the settings. -/
def treesBy (m : SurfaceModel α) (origin : NodeId) : M (List (Option (LeastCostTree α))) :=
  m.settings.modes.mapM (treeBy? ask origin)

/-- The values of the points of a group, with their numbers. -/
def groupValuesBy (m : SurfaceModel α) (set : OpportunitySet α) (group : List Nat) :
    M (List (Nat × List α)) := do
  match group.filterMap fun i => m.grid.points[i]?.map fun point => (i, point) with
  | [] => return []
  | members@((_, first) :: _) =>
    let trees ← m.treesBy ask first.node
    members.mapM fun (i, point) => do return (i, ← liftM (m.valuesWith set trees point))

/-- The values of all points by number. -/
def allValuesBy (m : SurfaceModel α) (set : OpportunitySet α) : M (Array (List α)) := do
  let grouped ← (nodeGroups m.grid.points.toList).mapM (m.groupValuesBy ask set)
  return grouped.flatten.foldl (fun values (i, row) => values.setIfInBounds i row)
    (Array.replicate m.grid.size [])

/-- The surface of an activity type. -/
def computeBy (m : SurfaceModel α) (set : OpportunitySet α) (facilities : Facilities α) :
    M (Surface α) := do
  let values ← m.allValuesBy ask set
  liftM (m.fillIn set facilities values)

end Asking

/-! ## Asking the router -/

/-- The answer of the router. -/
def answer (m : SurfaceModel α) (origin : NodeId) (mode : Mode) :
    Except (SurfaceError α) (LeastCostTree α) :=
  (m.router m.network origin mode).mapError SurfaceError.network

/-- The tree from a node in a mode; none if the mode is not routed. -/
def tree? (m : SurfaceModel α) (origin : NodeId) (mode : Mode) :
    Except (SurfaceError α) (Option (LeastCostTree α)) :=
  treeBy? m.answer origin mode

/-- The trees from a node, for every mode of the settings. -/
def trees (m : SurfaceModel α) (origin : NodeId) :
    Except (SurfaceError α) (List (Option (LeastCostTree α))) :=
  m.treesBy m.answer origin

/-- The values of a point, for every mode of the settings. -/
def pointValues (m : SurfaceModel α) (set : OpportunitySet α) (point : MeasuringPoint α) :
    Except (SurfaceError α) (List α) := do
  m.valuesWith set (← m.trees point.node) point

/-- The values of the points of a group, with their numbers. -/
def groupValues (m : SurfaceModel α) (set : OpportunitySet α) (group : List Nat) :
    Except (SurfaceError α) (List (Nat × List α)) :=
  m.groupValuesBy m.answer set group

/-- The values of all points by number. -/
def allValues (m : SurfaceModel α) (set : OpportunitySet α) :
    Except (SurfaceError α) (Array (List α)) :=
  m.allValuesBy m.answer set

/-- The surface of an activity type. -/
def compute (m : SurfaceModel α) (set : OpportunitySet α) (facilities : Facilities α) :
    Except (SurfaceError α) (Surface α) :=
  m.computeBy m.answer set facilities

end SurfaceModel

end SpatialAccess
