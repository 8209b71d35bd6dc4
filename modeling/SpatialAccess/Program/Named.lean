import SpatialAccess.Program.AccessibilityRun
import SpatialAccess.Program.RetailSiting

/-!
# Programs by name

* `programs`: the names of the programs and what they do with their arguments.
-/

namespace SpatialAccess

/-- The programs by name. -/
def programs : List (String × (List Argument → Report)) :=
  [ ("grid_accessibility", AccessibilityRun.run), ("retail_siting", RetailSiting.run) ]

end SpatialAccess
