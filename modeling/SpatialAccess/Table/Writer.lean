/-!
# Writing tables

Fields are separated by commas and records ended by newlines. A field is put in quotes if it holds a
comma, a quote or an end of line; a quote inside quotes is written twice.

* `Table.field`, `Table.record`, `Table.text`: one field, one record, a whole table.
-/

namespace SpatialAccess.Table

/-- Whether a field cannot stand without quotes. -/
def needsQuotes (s : String) : Bool :=
  s.any fun c => c == ',' || c == '"' || c == '\n' || c == '\r'

/-- A field in quotes. -/
def quoted (s : String) : String :=
  "\"" ++ String.join (s.toList.map fun c => if c == '"' then "\"\"" else c.toString) ++ "\""

/-- One field of a record. -/
def field (s : String) : String :=
  if needsQuotes s then quoted s else s

/-- One record with its end. The empty field is put in quotes if it is the only one, since a record
without text would not count as one. -/
def record (fields : List String) : String :=
  match fields with
  | [""] => "\"\"\n"
  | fields => ",".intercalate (fields.map field) ++ "\n"

/-- The text of a table. -/
def text (records : List (List String)) : String :=
  String.join (records.map record)

end SpatialAccess.Table
