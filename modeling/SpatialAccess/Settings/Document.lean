import SpatialAccess.Settings.Group
import SpatialAccess.Text.Utf8
import SpatialAccess.Toml.Document

/-!
# Settings documents

A settings document is a table of tables. Scalars become texts and lists of scalars become one text
with commas between the items; other values are refused.

* `Settings.ofText`: the settings of a document.
* `Settings.ofFile`: the same for the bytes of a file that may be missing.
-/

namespace SpatialAccess.Settings

open Toml (Entries)

/-- Entries by key; keys are taken in the order of their code points. -/
def byKey {β : Type} (entries : List (String × β)) : List (String × β) :=
  (Std.TreeMap.ofList entries compare).toList

/-- The key under which a date stands when it is read as a table. -/
def momentKey : String := "$__toml_private_datetime"

/-- The entries of a value that is a table, or that is read as one. -/
def tableEntries? : Toml.Value → Option Entries
  | .inline entries => some entries
  | .table _ _ entries => some entries
  | .moment written => some [(momentKey, .text written)]
  | _ => none

/-- The group of a table; the first value, by key, that is no scalar or list of scalars is
refused. -/
def ofEntries {α : Type} (name : String) (entries : Entries) : Except (ConfigError α) Group :=
  (byKey entries).foldlM (fun group (key, value) =>
    match value.listText? with
    | some text => .ok (group.set key text)
    | none => .error (.notScalar key name)) { name }

/-- The settings of a document. -/
def ofText {α : Type} (text : String) : Except (ConfigError α) Settings := do
  let some entries := Toml.document text | .error .malformed
  let some tables := entries.mapM fun (name, value) => (tableEntries? value).map (name, ·)
    | .error .malformed
  (byKey tables).foldlM (fun settings (name, entries) => do
    return settings.addGroup (← ofEntries name entries)) {}

/-- The settings in a file; `none` stands for a file that is not there. -/
def ofFile {α : Type} (file : Option (List UInt8)) : Except (ConfigError α) Settings :=
  match file.bind Text.Utf8.decode? with
  | some text => ofText text
  | none => .error .unreadable

end SpatialAccess.Settings
