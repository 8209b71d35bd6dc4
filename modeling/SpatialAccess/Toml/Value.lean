import SpatialAccess.Decimal.Shortest

/-!
# Values of a TOML document

* `Toml.Value`: scalars, dates, arrays and tables. A table knows how it came about, which decides
  whether later lines may add to it.
* `Toml.within`: changes the table at the end of a path of keys.
* `Toml.define`, `Toml.openTable`, `Toml.openArrayTable`: the three ways a line adds to a document.
-/

namespace SpatialAccess.Toml

/-- A value, or a table in the making. -/
inductive Value where
  | text (s : String)
  | integer (n : Int)
  | float (x : Float)
  | boolean (b : Bool)
  /-- A date, a time, or both, in normal form. -/
  | moment (written : String)
  | array (items : List Value)
  /-- A table written in braces, closed to later lines. -/
  | inline (entries : List (String × Value))
  /-- A table of lines. `implicit`: no header of its own yet; `dotted`: made by a dotted key. -/
  | table (implicit dotted : Bool) (entries : List (String × Value))
  /-- An array of tables; only the last table can still grow, and only it is kept. -/
  | tables (last : List (String × Value))

/-- Keys and values of a table, in the order they were first written. -/
abbrev Entries := List (String × Value)

/-- Entries with another value under a key that is there. -/
def replace (key : String) (value : Value) (entries : Entries) : Entries :=
  entries.map fun e => if e.1 == key then (key, value) else e

/-- Changes the table at the end of a path. Missing tables on the way are made, `dotted` or not; a
path of dotted keys does not enter a table that has a header. `own` tells whether the table at hand
was made by a dotted key, and `change` is told the same of the table it changes. -/
def within (dotted : Bool) (change : Bool → Entries → Option Entries) :
    (path : List String) → (own : Bool) → Entries → Option Entries
  | [], own, entries => change own entries
  | key :: path, _, entries =>
    match entries.lookup key with
    | none => do
      let inner ← within dotted change path dotted []
      return entries ++ [(key, .table true dotted inner)]
    | some (.table implicit ownDotted inner) =>
      if dotted && !implicit then none
      else do
        let inner ← within dotted change path ownDotted inner
        return replace key (.table implicit ownDotted inner) entries
    | some (.tables last) => do
      let last ← within dotted change path false last
      return replace key (.tables last) entries
    | some _ => none

/-- Puts a value under a dotted key. Tables on the way must be made by dotted keys, and the key must
be new. -/
def define (path : List String) (key : String) (value : Value) (own : Bool) (entries : Entries) :
    Option Entries :=
  let put (own : Bool) (entries : Entries) : Option Entries :=
    if own == path.isEmpty then none
    else if (entries.lookup key).isSome then none
    else some (entries ++ [(key, value)])
  within true put path own entries

/-- Opens the table of a header. It must be new, or so far known only as the parent of others. -/
def openTable (path : List String) (key : String) (entries : Entries) : Option Entries :=
  let start (_ : Bool) (entries : Entries) : Option Entries :=
    match entries.lookup key with
    | none => some (entries ++ [(key, .table false false [])])
    | some (.table true false inner) => some (replace key (.table false false inner) entries)
    | some _ => none
  within false start path false entries

/-- Opens a new table at the end of an array of tables. -/
def openArrayTable (path : List String) (key : String) (entries : Entries) : Option Entries :=
  let start (_ : Bool) (entries : Entries) : Option Entries :=
    match entries.lookup key with
    | none => some (entries ++ [(key, .tables [])])
    | some (.tables _) => some (replace key (.tables []) entries)
    | some _ => none
  within false start path false entries

/-- The text of a scalar. -/
def Value.scalarText? : Value → Option String
  | text s => some s
  | integer n => some (toString n)
  | float x => some (Decimal.display x)
  | boolean b => some (if b then "true" else "false")
  | _ => none

/-- The text of a scalar, or the texts of a list of scalars with commas between them. -/
def Value.listText? : Value → Option String
  | array items => (items.mapM Value.scalarText?).map (String.intercalate ",")
  | v => v.scalarText?

end SpatialAccess.Toml
