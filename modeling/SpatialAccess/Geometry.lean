import SpatialAccess.Number
import SpatialAccess.Decimal.Rounded

/-!
# Points and boxes

Coordinates are planar and in metres, so distances are Euclidean.

* `Point`: distance, squared distance, midpoint.
* `Box`: a rectangle along the axes; the smallest one around points, padding, closed membership.
-/

namespace SpatialAccess

/-- A planar coordinate. -/
structure Point (α : Type) where
  x : α
  y : α
  deriving Repr, DecidableEq

/-- The rectangle `[minX, maxX] × [minY, maxY]`. -/
structure Box (α : Type) where
  minX : α
  minY : α
  maxX : α
  maxY : α
  deriving Repr, DecidableEq

variable {α : Type} [Number α]

namespace Point

/-- Squared Euclidean distance. -/
def distanceSq (p q : Point α) : α :=
  let dx := p.x - q.x
  let dy := p.y - q.y
  dx * dx + dy * dy

/-- Euclidean distance. -/
def distance (p q : Point α) : α :=
  Number.sqrt (p.distanceSq q)

/-- Midpoint of the segment between two points. -/
def midpoint (p q : Point α) : Point α :=
  ⟨(p.x + q.x) * 0.5, (p.y + q.y) * 0.5⟩

/-- Coordinates to the millimetre. -/
def text (p : Point Float) : String :=
  s!"({Decimal.fixed 3 p.x}, {Decimal.fixed 3 p.y})"

end Point

namespace Box

/-- The smallest box that holds the box and a point. -/
def extend (b : Box α) (p : Point α) : Box α where
  minX := Number.lower b.minX p.x
  minY := Number.lower b.minY p.y
  maxX := Number.upper b.maxX p.x
  maxY := Number.upper b.maxY p.y

/-- The smallest box around a list of points; there is none around no points. -/
def ofPoints? : List (Point α) → Option (Box α)
  | [] => none
  | p :: ps => some (ps.foldl extend ⟨p.x, p.y, p.x, p.y⟩)

/-- A box grown by a margin on every side. -/
def padded (b : Box α) (margin : α) : Box α where
  minX := b.minX - margin
  minY := b.minY - margin
  maxX := b.maxX + margin
  maxY := b.maxY + margin

/-- Extent along the x axis. -/
def width (b : Box α) : α :=
  b.maxX - b.minX

/-- Extent along the y axis. -/
def height (b : Box α) : α :=
  b.maxY - b.minY

/-- Membership, edges included. -/
def contains (b : Box α) (p : Point α) : Bool :=
  decide (b.minX ≤ p.x) && decide (p.x ≤ b.maxX) && decide (b.minY ≤ p.y) && decide (p.y ≤ b.maxY)

/-- Both ranges of a box to the millimetre. -/
def text (b : Box Float) : String :=
  let range (low high : Float) := s!"[{Decimal.fixed 3 low}, {Decimal.fixed 3 high}]"
  range b.minX b.maxX ++ " x " ++ range b.minY b.maxY

end Box

end SpatialAccess
