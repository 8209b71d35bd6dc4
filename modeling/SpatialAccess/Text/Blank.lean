/-!
# Blanks and pieces

* `Text.isBlank`: the characters with the Unicode property White_Space.
* `Text.trim`: a text without the blanks around it.
* `Text.pieces`: the parts of a text between separators.
* `Text.items`: the trimmed, non-empty parts of a comma-separated list.
-/

namespace SpatialAccess.Text

/-- Whether a character has the Unicode property White_Space. -/
def isBlank (c : Char) : Bool :=
  let n := c.toNat
  (0x09 ≤ n && n ≤ 0x0d) || n == 0x20 || n == 0x85 || n == 0xa0 || n == 0x1680 ||
    (0x2000 ≤ n && n ≤ 0x200a) || n == 0x2028 || n == 0x2029 || n == 0x202f || n == 0x205f ||
    n == 0x3000

/-- A list of characters without the blanks at both ends. -/
def trimList (cs : List Char) : List Char :=
  ((cs.dropWhile isBlank).reverse.dropWhile isBlank).reverse

/-- A text without the blanks at both ends. -/
def trim (s : String) : String :=
  String.ofList (trimList s.toList)

/-- The parts of a list of characters between separators; there is always one more than there are
separators. -/
def pieces (separator : Char) : List Char → List (List Char)
  | [] => [[]]
  | c :: cs =>
    if c = separator then [] :: pieces separator cs
    else
      match pieces separator cs with
      | [] => [[c]]
      | p :: ps => (c :: p) :: ps

/-- The parts of a text between separators. -/
def split (separator : Char) (s : String) : List String :=
  (pieces separator s.toList).map String.ofList

/-- The trimmed parts of a comma-separated list, empty ones left out. -/
def items (s : String) : List String :=
  ((split ',' s).map trim).filter fun item => !item.isEmpty

/-- A text with ASCII capitals made small. -/
def lower (s : String) : String :=
  String.ofList (s.toList.map Char.toLower)

end SpatialAccess.Text
