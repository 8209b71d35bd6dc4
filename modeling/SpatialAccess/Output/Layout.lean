import SpatialAccess.Decimal.Shortest
import SpatialAccess.Surface.Basic
import SpatialAccess.Table.Writer

/-!
# Columns of accessibility tables

* `accessibilityHeader`: the coordinate, the modes and the density.
* `accessibilityRecord`: one row of a surface; a value that was not set is an empty field.
* `accessibilityTable`: the whole table.
-/

namespace SpatialAccess

open Decimal (display)

/-- Titles of the columns. -/
def accessibilityHeader (modes : List Mode) : List String :=
  ["x", "y"] ++ modes.map (fun m => m.name ++ "_accessibility") ++ ["population_density"]

/-- The fields of one row. -/
def accessibilityRecord (row : SurfaceRow Float) : List String :=
  let value (v : Option Float) : String := (v.map display).getD ""
  [display row.point.coord.x, display row.point.coord.y] ++ row.values.map value ++
    [display row.density]

/-- The text of the table of a surface. -/
def accessibilityTable (surface : Surface Float) : String :=
  Table.text (accessibilityHeader surface.modes :: surface.rows.map accessibilityRecord)

end SpatialAccess
