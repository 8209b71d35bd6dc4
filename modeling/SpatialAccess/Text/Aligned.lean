/-!
# Text in columns

* `Text.leftAligned`, `Text.rightAligned`: blanks behind or before a text up to a width; a longer
  text stays whole.
-/

namespace SpatialAccess.Text

/-- A number of blanks. -/
def blanks (count : Nat) : String :=
  String.ofList (List.replicate count ' ')

/-- A text at the left of a column. -/
def leftAligned (width : Nat) (s : String) : String :=
  s ++ blanks (width - s.length)

/-- A text at the right of a column. -/
def rightAligned (width : Nat) (s : String) : String :=
  blanks (width - s.length) ++ s

end SpatialAccess.Text
