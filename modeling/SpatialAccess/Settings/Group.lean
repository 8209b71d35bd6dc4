import SpatialAccess.Mode
import SpatialAccess.Settings.Error
import Std.Data.TreeMap

/-!
# Settings

Settings are texts under keys, in named groups. Typed settings read their values from a group; a
missing or unreadable value is an error before any computation.

* `Settings.Group`: keys and texts under one name. `Settings`: groups by name.
* `Group.parse?`, `Group.parse`, `Group.parseD`: a value that may be missing, that must be there,
  that has a default.
* `Group.items`: a comma-separated list.
-/

namespace SpatialAccess

/-- Keys and texts under one name; keys are in the order of their code points. -/
structure Settings.Group where
  name : String
  params : Std.TreeMap String String := {}

/-- Groups by name, in the order of code points. -/
structure Settings where
  groups : Std.TreeMap String Settings.Group := {}

namespace Settings

namespace Group

variable {α β : Type}

/-- A group with one more key, or with another text under a key. -/
def set (g : Group) (key value : String) : Group :=
  { g with params := g.params.insert key value }

/-- The text under a key. -/
def get? (g : Group) (key : String) : Option String :=
  g.params[key]?

/-- The text under a key that has to be there. -/
def require (g : Group) (key : String) : Except (ConfigError α) String :=
  match g.get? key with
  | some raw => .ok raw
  | none => .error (.undefinedKey key g.name)

/-- The value under a key, if there is one; `read` sees the text without blanks around it. -/
def parse? (g : Group) (read : String → Option β) (key : String) :
    Except (ConfigError α) (Option β) :=
  match g.get? key with
  | none => .ok none
  | some raw =>
    match read (Text.trim raw) with
    | some value => .ok (some value)
    | none => .error (.invalidValue key g.name raw)

/-- The value under a key that has to be there. -/
def parse (g : Group) (read : String → Option β) (key : String) : Except (ConfigError α) β := do
  match ← g.parse? read key with
  | some value => return value
  | none => .error (.undefinedKey key g.name)

/-- The value under a key, or a default. -/
def parseD (g : Group) (read : String → Option β) (key : String) (default : β) :
    Except (ConfigError α) β := do
  return (← g.parse? read key).getD default

/-- The items of the list under a key; none if the key is missing. -/
def items (g : Group) (key : String) : List String :=
  match g.get? key with
  | some raw => Text.items raw
  | none => []

end Group

/-- Settings with one more group; a group of that name is replaced. -/
def addGroup (s : Settings) (g : Group) : Settings :=
  { s with groups := s.groups.insert g.name g }

/-- The group of a name. -/
def group? (s : Settings) (name : String) : Option Group :=
  s.groups[name]?

/-- The group of a name that has to be there. -/
def requireGroup {α : Type} (s : Settings) (name : String) : Except (ConfigError α) Group :=
  match s.group? name with
  | some g => .ok g
  | none => .error (.undefinedGroup name)

/-- The text under a key of a group. -/
def find? (s : Settings) (group key : String) : Option String :=
  (s.group? group).bind fun g => g.get? key

/-- The two words for truth values. -/
def readBool? : String → Option Bool
  | "true" => some true
  | "false" => some false
  | _ => none

/-- The mode that a text names; any other text is an error. -/
def readMode {α : Type} (s : String) : Except (ConfigError α) Mode :=
  match Mode.read? s with
  | some mode => .ok mode
  | none => .error (.unknownMode (Mode.key s))

end Settings

end SpatialAccess
