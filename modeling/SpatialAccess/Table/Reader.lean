import SpatialAccess.Decimal.Integer
import SpatialAccess.Decimal.Literal
import SpatialAccess.Text.Utf8

/-!
# Tables of records

A table is a text of records; fields are separated by commas. A quote at the start of a field opens
a quoted part, in which a quote is written twice; what follows the closing quote belongs to the field
as it stands. Records end at line ends, and empty lines are passed over. The first record names the
columns.

* `Table.records`: the fields of each record, as bytes.
* `Table.Layout`: which field of a record belongs to which column.
* `Table.rows`: the records of a table as rows of texts, up to the first malformed one.
-/

namespace SpatialAccess.Table

/-- Bytes of one field. -/
abbrev Field := List UInt8

/-- Where in a record a reader is. -/
inductive Place where
  /-- Before the first byte of a record. -/
  | recordStart
  /-- Before the first byte of another field. -/
  | fieldStart
  | inField
  | inQuotes
  /-- Behind a quote that closes the quoted part or is the first of two. -/
  | afterQuote
  deriving DecidableEq, Repr

/-- What has been read: finished records, the finished fields of the record at hand, and the field
at hand; each list last first. -/
structure Scanner where
  place : Place := .recordStart
  records : List (List Field) := []
  fields : List Field := []
  field : Field := []

namespace Scanner

/-- Takes a byte into the field at hand. -/
def push (s : Scanner) (place : Place) (b : UInt8) : Scanner :=
  { s with place, field := b :: s.field }

/-- Ends the field at hand. -/
def endField (s : Scanner) : Scanner :=
  { s with place := .fieldStart, fields := s.field.reverse :: s.fields, field := [] }

/-- Ends the record at hand. -/
def endRecord (s : Scanner) : Scanner where
  records := (s.field.reverse :: s.fields).reverse :: s.records

/-- Whether a byte ends a line. -/
def isLineEnd (b : UInt8) : Bool :=
  b == 0x0a || b == 0x0d

/-- Takes a byte outside quotes. -/
def plain (s : Scanner) (b : UInt8) : Scanner :=
  if b == 0x2c then s.endField
  else if isLineEnd b then s.endRecord
  else s.push .inField b

/-- Takes one byte. -/
def step (s : Scanner) (b : UInt8) : Scanner :=
  match s.place with
  | .recordStart =>
    if isLineEnd b then s else if b == 0x22 then { s with place := .inQuotes } else s.plain b
  | .fieldStart => if b == 0x22 then { s with place := .inQuotes } else s.plain b
  | .inField => s.plain b
  | .inQuotes => if b == 0x22 then { s with place := .afterQuote } else s.push .inQuotes b
  | .afterQuote => if b == 0x22 then s.push .inQuotes b else s.plain b

/-- All records, the last one ended by the end of the table. -/
def finish (s : Scanner) : List (List Field) :=
  (if s.place = .recordStart then s else s.endRecord).records.reverse

end Scanner

/-- The fields of each record. -/
def records (bytes : List UInt8) : List (List Field) :=
  ((Text.Utf8.withoutMark bytes).foldl Scanner.step {}).finish

/-- For each column of a row the number of the field it is read from; `none` for a missing one. -/
abbrev Layout := List (Option Nat)

/-- The fields that a header names for the columns; nothing if it names a column twice. -/
def layout? (columns header : List String) : Option Layout :=
  columns.mapM fun column =>
    if 1 < header.count column then none else some (header.idxOf? column)

/-- The texts of a record by column: `none` where the column is missing. Without a readable header
columns are taken by position, and the first `least` of them have to be there. -/
def arrange (columns : List String) (least : Nat) (header : Option (List String))
    (fields : List String) : Option (List (Option String)) :=
  match header with
  | some header => do
    let layout ← layout? columns header
    return layout.map fun place => place.bind fun i => fields[i]?
  | none =>
    if fields.length < least then none
    else some ((List.range columns.length).map fun i => fields[i]?)

/-- The rows of a table, and whether they are all of it: reading stops at the first record that has
another number of fields than the first one, is no text, or does not fit the columns. -/
def rows (columns : List String) (least : Nat) (bytes : List UInt8) :
    List (List (Option String)) × Bool :=
  match records bytes with
  | [] => ([], true)
  | first :: rest =>
    let header := first.mapM Text.Utf8.decode?
    let read (record : List Field) : Option (List (Option String)) := do
      if record.length ≠ first.length then none
      else arrange columns least header (← record.mapM Text.Utf8.decode?)
    let good := (rest.map read).takeWhile Option.isSome
    (good.filterMap id, good.length == rest.length)

/-- A field that counts as missing when it is empty. -/
def optional (field : Option String) : Option String :=
  field.filter fun s => !s.isEmpty

/-- Reads a field that may be missing; a field that is there has to be readable. -/
def optionalWith {β : Type} (read : String → Option β) (field : Option String) :
    Option (Option β) :=
  match optional field with
  | none => some none
  | some s => (read s).map some

end SpatialAccess.Table
