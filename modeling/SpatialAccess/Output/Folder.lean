import SpatialAccess.Output.Layout

/-!
# Folders of tables

Every surface is written to a folder of its own, named after its activity type, below one root.

* `Folder`: the tables written so far. `Folder.write`: one more.
* `Folder.path`: where the table of an activity type goes.
* `OutputError`: why a table cannot be written.
-/

namespace SpatialAccess

/-- Why a table cannot be written. -/
inductive OutputError where
  | invalidActivityType (activityType : String)
  /-- The folder cannot be made. -/
  | unwritable
  deriving DecidableEq, Repr

/-- Words for a table that cannot be written. -/
def OutputError.message : OutputError → String
  | invalidActivityType activityType =>
    s!"activity type {Text.quote activityType} cannot be used as a directory name"
  | unwritable => "I/O error"

/-- Tables below a root. -/
structure Folder where
  root : String
  /-- The text of every file, by path. -/
  files : List (String × String) := []
  /-- Paths in the order of writing; one that was written twice is there twice. -/
  written : List String := []
  deriving Repr, DecidableEq

namespace Folder

/-- Name of every table. -/
def fileName : String := "accessibilities.csv"

/-- Whether a text can be the name of a single folder. -/
def isName (s : String) : Bool :=
  decide (s ∉ ["", ".", ".."]) && s.all fun c => c != '/' && c != '\\'

/-- Whether a folder of a name can be made: the name is at most 255 bytes long, without a byte of
zero. -/
def isMakeable (s : String) : Bool :=
  s.utf8ByteSize ≤ 255 && s.all (· != '\x00')

/-- Where the table of an activity type goes. -/
def path (f : Folder) (activityType : String) : Except OutputError String :=
  if isName activityType then .ok (f.root ++ "/" ++ activityType ++ "/" ++ fileName)
  else .error (.invalidActivityType activityType)

/-- A folder with a table more, or with another table in place of the one of its activity type. -/
def write (f : Folder) (surface : Surface Float) : Except OutputError Folder := do
  let path ← f.path surface.activityType
  if !isMakeable surface.activityType then
    .error .unwritable
  let others := f.files.filter fun file => file.1 != path
  return { f with
    files := others ++ [(path, accessibilityTable surface)]
    written := f.written ++ [path] }

end Folder

end SpatialAccess
