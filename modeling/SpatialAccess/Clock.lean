import SpatialAccess.Number
import SpatialAccess.Text.Blank
import SpatialAccess.Text.Quoted

/-!
# Times of day

A time is a number of seconds since midnight; the next day's hours go on counting, and a time before
midnight is negative. It is written `HH:MM:SS`, `HH:MM`, or as plain seconds.

* `Clock.read`: the seconds of a written time.
* `Clock.format`: `HH:MM:SS`, to the nearest second.
-/

namespace SpatialAccess.Clock

/-- Why a text is no time. -/
inductive Error where
  /-- Nothing but blanks. -/
  | empty
  /-- A part is no finite number from zero up. -/
  | part (text : String)
  /-- More than three parts. -/
  | shape (text : String)
  deriving DecidableEq, Repr

/-- Words for an unreadable time. -/
def Error.message : Error → String
  | empty => "parse error: empty time string"
  | part text => s!"parse error: invalid time {Text.quote text}"
  | shape text =>
    s!"parse error: invalid time {Text.quote text}: expected HH:MM:SS, HH:MM, or seconds"

variable {α : Type} [Number α]

/-- One of the parts between colons; `whole` is the text it stands in. -/
def readPart (whole : String) (part : List Char) : Except Error α :=
  match (Number.read? (Text.trim (String.ofList part)) : Option α) with
  | none => .error (.part whole)
  | some x => if Number.isFinite x ∧ ((0 : Nat) : α) ≤ x then .ok x else .error (.part whole)

/-- Seconds of the parts between colons. -/
def readParts (whole : String) : List (List Char) → Except Error α
  | [s] => readPart whole s
  | [h, m] => do
    let h ← readPart whole h
    let m ← readPart whole m
    return h * ((3600 : Nat) : α) + m * ((60 : Nat) : α)
  | [h, m, s] => do
    let h ← readPart whole h
    let m ← readPart whole m
    let s ← readPart whole s
    return h * ((3600 : Nat) : α) + m * ((60 : Nat) : α) + s
  | _ => .error (.shape whole)

/-- Seconds since midnight of a written time. A minus sign in front negates the whole. -/
def read (text : String) : Except Error α :=
  let s := Text.trim text
  match s.toList with
  | [] => .error .empty
  | '-' :: cs => do
    let seconds ← readParts s (Text.pieces ':' cs)
    return -((1 : Nat) : α) * seconds
  | cs => do
    let seconds ← readParts s (Text.pieces ':' cs)
    return ((1 : Nat) : α) * seconds

/-- At least two digits. -/
def twoDigits (n : Nat) : String :=
  if n < 10 then "0" ++ toString n else toString n

/-- `HH:MM:SS` of a time, rounded to the nearest second; hours go on beyond 23. -/
def format (seconds : α) : String :=
  let sign := if seconds < ((0 : Nat) : α) then "-" else ""
  let total := Number.roundNat (Number.abs seconds)
  let hours := twoDigits (total / 3600)
  let minutes := twoDigits (total % 3600 / 60)
  sign ++ hours ++ ":" ++ minutes ++ ":" ++ twoDigits (total % 60)

end SpatialAccess.Clock
