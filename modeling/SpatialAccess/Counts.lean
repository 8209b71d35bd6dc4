import SpatialAccess.Call
import SpatialAccess.Network.Basic
import SpatialAccess.Table.Reader
import SpatialAccess.Table.Writer
import Std.Data.TreeMap

/-!
# Counted and simulated volumes

A station counts the vehicles on its link in the hours `1` to `24` of a day. Counts are compared with
simulated volumes hour by hour.

* `Count`, `LinkVolumes`: counted and simulated volumes.
* `Count.ofRows`, `Count.ofTable`, `Count.ofFile`: the counts of the rows of a table, of its bytes, of
  a file that may be missing.
* `CountsComparison.compare`: counted and simulated volumes side by side.
* `ErrorSums`, `HourError`, `hourErrors`: what errors add up to, and their means per hour.
* `comparisonTable`, `hourErrorTable`: both as tables.
-/

namespace SpatialAccess

/-- Why counts or volumes are refused. -/
inductive CountError where
  | invalidHour (hour : Nat)
  | unknownLink (label : String)
  /-- The records of the table are malformed. -/
  | badRecord
  /-- The file cannot be read at all. -/
  | unreadable
  deriving DecidableEq, Repr

/-- Words for refused counts or volumes. -/
def CountError.message : CountError → String
  | invalidHour hour => s!"hour {hour} is outside 1..=24"
  | unknownLink label => s!"unknown link {Text.quote label}"
  | badRecord => "CSV error"
  | unreadable => "I/O error"

/-- Number of hours of a day. -/
def hoursOfDay : Nat := 24

/-- The hours of a day. -/
def hours : List Nat :=
  (List.range hoursOfDay).map (· + 1)

/-- The slot of an hour, counted from `0`; an hour that is no hour of the day is refused. -/
def checkHour (hour : Nat) : Except CountError (Fin hoursOfDay) :=
  if h : 1 ≤ hour ∧ hour ≤ hoursOfDay then .ok ⟨hour - 1, by omega⟩ else .error (.invalidHour hour)

/-- Volumes counted on a link, by hour. -/
structure Count (α : Type) where
  link : LinkId
  station : String
  volumes : Std.TreeMap Nat α := {}

/-- Simulated volumes by link; those of a link have a slot for every hour of the day. -/
structure LinkVolumes (α : Type) where
  volumes : Std.HashMap LinkId (Vector α hoursOfDay) := {}

variable {α : Type}

/-- Counts with another volume for an hour. -/
def Count.set (c : Count α) (hour : Nat) (value : α) : Except CountError (Count α) := do
  let _ ← checkHour hour
  return { c with volumes := c.volumes.insert hour value }

/-- Sets the volume of a link in an hour; the other hours of a new link are zero. -/
def LinkVolumes.setM [Number α] (link : LinkId) (hour : Nat) (value : α) :
    ExceptT CountError (StateM (LinkVolumes α)) Unit := do
  let slot ← ofExcept (checkHour hour)
  modify fun v =>
    let own := v.volumes[link]?.getD (.replicate hoursOfDay ((0 : Nat) : α))
    { volumes := v.volumes.insert link (own.set slot value) }

/-- Simulated volumes with another one for a link and an hour. -/
def LinkVolumes.set [Number α] (v : LinkVolumes α) (link : LinkId) (hour : Nat) (value : α) :
    Except CountError (LinkVolumes α) :=
  (setM link hour value).leave v

/-- The simulated volume of a link and an hour; zero unless there is another one. -/
def LinkVolumes.get [Number α] (v : LinkVolumes α) (link : LinkId) (hour : Nat) : α :=
  match v.volumes[link]?, checkHour hour with
  | some own, .ok slot => own[slot]
  | _, _ => ((0 : Nat) : α)

/-! ## Reading counts -/

/-- One volume of a table of counts. -/
structure CountRow (α : Type) where
  link : String
  hour : Nat
  volume : α
  station : Option String
  deriving DecidableEq, Repr

namespace CountRow

/-- The columns of a table of counts. -/
def columns : List String := ["link_id", "hour", "volume", "station"]

/-- The row of the texts of its columns; nothing if a number is unreadable or one of the first three
columns is missing. -/
def ofFields [Number α] : List (Option String) → Option (CountRow α)
  | [link, hour, volume, station] => do
    return {
      link := ← link
      hour := ← hour.bind (Decimal.naturalOrHex? Decimal.limit32)
      volume := ← volume.bind Number.read?
      station := Table.optional station }
  | _ => none

end CountRow

namespace Count

/-- Counts with a row more. A link that was not there before gets a station at the end, named after
the first row of the link. -/
def addRow (network : Network α) (counts : List (Count α)) (row : CountRow α) :
    Except CountError (List (Count α)) := do
  let some link := network.lookupLink? row.link | .error (.unknownLink row.link)
  let counts :=
    if counts.any fun c => c.link == link then counts
    else counts ++ [{ link, station := row.station.getD row.link }]
  counts.mapM fun c => if c.link == link then c.set row.hour row.volume else .ok c

/-- The counts of rows. -/
def ofRows (network : Network α) (rows : List (CountRow α)) :
    Except CountError (List (Count α)) :=
  rows.foldlM (addRow network) []

variable [Number α]

/-- The counts of the bytes of a table. A malformed record is an error behind those of the rows
before it. -/
def ofTable (network : Network α) (bytes : List UInt8) : Except CountError (List (Count α)) := do
  let (fields, isAll) := Table.rows CountRow.columns 3 bytes
  let rows := (fields.map CountRow.ofFields).takeWhile Option.isSome
  let counts ← ofRows network (rows.filterMap id)
  if isAll && rows.length == fields.length then .ok counts else .error .badRecord

/-- The counts in a file; `none` stands for a file that is not there. -/
def ofFile (network : Network α) (file : Option (List UInt8)) :
    Except CountError (List (Count α)) :=
  match file with
  | some bytes => ofTable network bytes
  | none => .error .unreadable

end Count

/-! ## Comparing -/

/-- A counted and a simulated volume of one link and hour. -/
structure HourComparison (α : Type) where
  link : LinkId
  hour : Nat
  count : α
  simulated : α
  deriving DecidableEq, Repr

/-- What is compared: all links, or those whose middle is near a point. -/
structure CountsComparison (α : Type) where
  /-- What simulated volumes are multiplied by. -/
  scale : α
  /-- A centre and a greatest distance. -/
  near? : Option (Point α × α) := none

variable [Number α]

/-- The difference to the count in percent of it. Where nothing was counted it is zero if nothing was
simulated, and a hundred otherwise. -/
def HourComparison.relativeError (c : HourComparison α) : α :=
  if c.count == ((0 : Nat) : α) then
    if c.simulated == ((0 : Nat) : α) then ((0 : Nat) : α) else ((100 : Nat) : α)
  else (c.simulated - c.count) / c.count * ((100 : Nat) : α)

namespace CountsComparison

/-- Whether a link is compared. A link that dangles counts as out of range here; the networks that
are read have none. -/
def inRange (c : CountsComparison α) (network : Network α) (link : LinkId) : Bool :=
  match c.near? with
  | none => true
  | some (centre, radius) =>
    (network.midpoint? link).any fun middle => middle.distance centre ≤ radius

/-- One comparison for every hour that was counted, by station and then by hour. -/
def compare (c : CountsComparison α) (counts : List (Count α)) (simulated : LinkVolumes α)
    (network : Network α) : List (HourComparison α) :=
  (counts.filter fun x => c.inRange network x.link).flatMap fun x =>
    x.volumes.toList.map fun (hour, count) =>
      { link := x.link, hour, count, simulated := simulated.get x.link hour * c.scale }

end CountsComparison

/-! ## Mean errors -/

/-- Mean errors of one hour. -/
structure HourError (α : Type) where
  /-- Mean size of the relative error. -/
  relative : α
  /-- Mean of simulated less counted volume. -/
  bias : α
  /-- Mean size of that difference. -/
  absolute : α
  deriving DecidableEq, Repr

/-- What the errors of one hour add up to. -/
structure ErrorSums (α : Type) where
  /-- Number of comparisons. -/
  count : Nat
  relative : α
  bias : α
  absolute : α
  deriving DecidableEq, Repr

namespace ErrorSums

/-- The sums of no comparisons. -/
def zero : ErrorSums α where
  count := 0
  relative := ((0 : Nat) : α)
  bias := ((0 : Nat) : α)
  absolute := ((0 : Nat) : α)

/-- The sums with a comparison more. -/
def add (s : ErrorSums α) (c : HourComparison α) : ErrorSums α where
  count := s.count + 1
  relative := s.relative + Number.abs c.relativeError
  bias := s.bias + (c.simulated - c.count)
  absolute := s.absolute + Number.abs (c.simulated - c.count)

/-- The means that sums lead to; where nothing was added up they are zero. -/
def means (s : ErrorSums α) : HourError α :=
  if 0 < s.count then
    let number : α := (s.count : α)
    { relative := s.relative / number
      bias := s.bias / number
      absolute := s.absolute / number }
  else { relative := s.relative, bias := s.bias, absolute := s.absolute }

/-- The sums of all hours with a comparison more, which counts for its own hour; for no hour of the
day it does not count. -/
def addTo (sums : Vector (ErrorSums α) hoursOfDay) (c : HourComparison α) :
    Vector (ErrorSums α) hoursOfDay :=
  match checkHour c.hour with
  | .ok slot => sums.set slot (sums[slot].add c)
  | .error _ => sums

end ErrorSums

/-- The mean errors of every hour of the day, by slot. -/
def hourErrors (comparisons : List (HourComparison α)) : Vector (HourError α) hoursOfDay :=
  (comparisons.foldl ErrorSums.addTo (.replicate hoursOfDay .zero)).map ErrorSums.means

/-! ## Tables -/

open Decimal (display)

/-- Comparisons as the text of a table. -/
def comparisonTable (comparisons : List (HourComparison Float)) (network : Network Float) :
    String :=
  let label (link : LinkId) : String := (network.linkLabel? link).getD ""
  let record (c : HourComparison Float) : List String :=
    [label c.link, toString c.hour, display c.count, display c.simulated, display c.relativeError]
  Table.text (["link_id", "hour", "count", "sim", "rel_error"] :: comparisons.map record)

/-- Mean errors as the text of a table. -/
def hourErrorTable (errors : Vector (HourError Float) hoursOfDay) : String :=
  let record (hour : Nat) (e : HourError Float) : List String :=
    [toString hour, display e.relative, display e.bias, display e.absolute]
  Table.text (["hour", "mean_rel_error", "mean_abs_bias", "mean_abs_error"] ::
    (hours.zip errors.toList).map fun (hour, e) => record hour e)

end SpatialAccess
