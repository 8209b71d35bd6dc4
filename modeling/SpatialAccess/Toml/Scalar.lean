import SpatialAccess.Decimal.Literal
import SpatialAccess.Toml.Lexeme
import SpatialAccess.Toml.Value

/-!
# Numbers, dates and truth values of TOML

* `Toml.moment`: a date, a time of day, or both with or without an offset.
* `Toml.float`, `Toml.integer`: numbers, with underscores between digits.
* `Toml.scalar`: any of them, or a truth value.
-/

namespace SpatialAccess.Toml

/-! ## Dates and times -/

/-- Reads exactly `count` digits as a number from `low` to `high`. -/
def digitsWithin (count low high : Nat) (cs : List Char) : Option (Nat × List Char) := do
  let ds := cs.take count
  if ds.length < count then none
  else
    let n ← Decimal.digits? ds
    if low ≤ n ∧ n ≤ high then some (n, cs.drop count) else none

/-- Reads one given character. -/
def mark (c : Char) : List Char → Option (List Char)
  | d :: cs => if c = d then some cs else none
  | [] => none

/-- Number of days of a month. -/
def daysOfMonth (year month : Nat) : Nat :=
  if month = 2 then
    if year % 4 = 0 ∧ (year % 100 ≠ 0 ∨ year % 400 = 0) then 29 else 28
  else if [4, 6, 9, 11].contains month then 30
  else 31

/-- Digits of `n` with zeros in front. -/
def zeroPadded (width n : Nat) : String :=
  let ds := Nat.toDigits 10 n
  String.ofList (List.replicate (width - ds.length) '0' ++ ds)

/-- Reads `YYYY-MM-DD`, a day that exists. -/
def date (cs : List Char) : Option (String × List Char) := do
  let (year, cs) ← digitsWithin 4 0 9999 cs
  let cs ← mark '-' cs
  let (month, cs) ← digitsWithin 2 1 12 cs
  let cs ← mark '-' cs
  let (day, cs) ← digitsWithin 2 1 (daysOfMonth year month) cs
  return (zeroPadded 4 year ++ "-" ++ zeroPadded 2 month ++ "-" ++ zeroPadded 2 day, cs)

/-- Reads the digits behind the second, if a point is there; nine of them count. -/
def fraction (cs : List Char) : Option (String × List Char) :=
  match cs with
  | '.' :: rest =>
    let ds := rest.takeWhile Char.isDigit
    let kept := ((ds.take 9).reverse.dropWhile (· == '0')).reverse
    if ds.isEmpty then none
    else some (if kept.isEmpty then "" else String.ofList ('.' :: kept), rest.drop ds.length)
  | _ => some ("", cs)

/-- Reads `HH:MM:SS` with an optional fraction. -/
def time (cs : List Char) : Option (String × List Char) := do
  let (hour, cs) ← digitsWithin 2 0 23 cs
  let cs ← mark ':' cs
  let (minute, cs) ← digitsWithin 2 0 59 cs
  let cs ← mark ':' cs
  let (second, cs) ← digitsWithin 2 0 60 cs
  let (rest, cs) ← fraction cs
  let clock := zeroPadded 2 hour ++ ":" ++ zeroPadded 2 minute ++ ":" ++ zeroPadded 2 second
  return (clock ++ rest, cs)

/-- Reads `±HH:MM` behind its sign. -/
def offsetTime (sign : String) (cs : List Char) : Option (String × List Char) := do
  let (hour, cs) ← digitsWithin 2 0 23 cs
  let cs ← mark ':' cs
  let (minute, cs) ← digitsWithin 2 0 59 cs
  let sign := if hour = 0 ∧ minute = 0 then "+" else sign
  return (sign ++ zeroPadded 2 hour ++ ":" ++ zeroPadded 2 minute, cs)

/-- Reads an offset from universal time, if there is one. -/
def offset (cs : List Char) : Option (String × List Char) :=
  match cs with
  | '+' :: rest => offsetTime "+" rest
  | '-' :: rest => offsetTime "-" rest
  | c :: rest => if c == 'Z' || c == 'z' then some ("Z", rest) else some ("", cs)
  | [] => some ("", cs)

/-- Reads the time that follows a date, if there is one. -/
def timeOfDate (cs : List Char) : Option (String × List Char) :=
  match cs with
  | c :: rest =>
    if c == 'T' || c == 't' || c == ' ' then
      match time rest with
      | some (clock, rest) => do
        let (shift, rest) ← offset rest
        return ("T" ++ clock ++ shift, rest)
      | none => some ("", cs)
    else some ("", cs)
  | [] => some ("", cs)

/-- Reads a date, a date with a time, or a time. -/
def moment (cs : List Char) : Option (String × List Char) :=
  match date cs with
  | some (day, rest) => do
    let (clock, rest) ← timeOfDate rest
    return (day ++ clock, rest)
  | none => time cs

/-! ## Numbers -/

/-- Reads digits with single underscores between them; gives the digits alone. -/
def digitRun (isDigit : Char → Bool) : List Char → Option (List Char × List Char)
  | [] => none
  | c :: cs =>
    if isDigit c then
      match cs with
      | '_' :: d :: rest =>
        if isDigit d then
          (digitRun isDigit (d :: rest)).map fun (ds, rest) => (c :: ds, rest)
        else none
      | '_' :: [] => none
      | d :: rest =>
        if isDigit d then
          (digitRun isDigit (d :: rest)).map fun (ds, rest) => (c :: ds, rest)
        else some ([c], d :: rest)
      | [] => some ([c], [])
    else none

/-- Reads a sign, if there is one. -/
def signOf : List Char → Bool × List Char
  | '-' :: cs => (true, cs)
  | '+' :: cs => (false, cs)
  | cs => (false, cs)

/-- Reads decimal digits without a zero in front of others. -/
def decimalRun (cs : List Char) : Option (List Char × List Char) :=
  match cs with
  | '0' :: rest => some (['0'], rest)
  | _ => digitRun Char.isDigit cs

/-- Reads the exponent of a number behind its mark. -/
def exponent (cs : List Char) : Option (Int × List Char) := do
  let (negative, cs) := signOf cs
  let (ds, cs) ← digitRun Char.isDigit cs
  let n : Int := Decimal.ofDigits ds
  return (if negative then -n else n, cs)

/-- Reads an exponent mark and the exponent, if they are there. -/
def exponentIfAny (cs : List Char) : Option (Option Int × List Char) :=
  match cs with
  | c :: rest =>
    if c == 'e' || c == 'E' then (exponent rest).map fun (n, rest) => (some n, rest)
    else some (none, cs)
  | [] => some (none, [])

/-- Reads `inf` or `nan`. -/
def specialFloat (negative : Bool) : List Char → Option (Decimal.Literal × List Char)
  | 'i' :: 'n' :: 'f' :: cs => some (.infinity negative, cs)
  | 'n' :: 'a' :: 'n' :: cs => some (.nan, cs)
  | _ => none

/-- Reads a number with a fraction or an exponent. -/
def pointFloat (negative : Bool) (cs : List Char) : Option (Decimal.Literal × List Char) := do
  let (whole, cs) ← decimalRun cs
  let (places, cs) ← match cs with
    | '.' :: rest => digitRun Char.isDigit rest
    | _ => some ([], cs)
  let (e, cs) ← exponentIfAny cs
  if places.isEmpty && e.isNone then none
  else
    let digits := Decimal.ofDigits (whole ++ places)
    return (.finite negative digits (e.getD 0 - places.length), cs)

/-- Reads a floating-point number. One that overflows upward is refused. -/
def float (cs : List Char) : Option (Float × List Char) := do
  let (negative, rest) := signOf cs
  match pointFloat negative rest with
  | some (literal, rest) =>
    let x := literal.toFloat
    if x == 1.0 / 0.0 then none else some (x, rest)
  | none => (specialFloat negative rest).map fun (literal, rest) => (literal.toFloat, rest)

/-- Reads digits of another base behind its mark. -/
def basedInteger (base : Nat) (cs : List Char) : Option (Int × List Char) := do
  let isDigit (c : Char) := (Decimal.digitsOfBase? base [c]).isSome
  let (ds, cs) ← digitRun isDigit cs
  let n ← Decimal.digitsOfBase? base ds
  return (n, cs)

/-- Reads decimal digits behind a sign. -/
def decimalInteger (cs : List Char) : Option (Int × List Char) := do
  let (negative, rest) := signOf cs
  let (ds, rest) ← decimalRun rest
  let n : Int := Decimal.ofDigits ds
  return (if negative then -n else n, rest)

/-- Reads an integer of any size. -/
def anyInteger (cs : List Char) : Option (Int × List Char) :=
  match cs with
  | '0' :: 'x' :: rest => basedInteger 16 rest
  | '0' :: 'o' :: rest => basedInteger 8 rest
  | '0' :: 'b' :: rest => basedInteger 2 rest
  | _ => decimalInteger cs

/-- Reads an integer of 64 bits with a sign. -/
def integer (cs : List Char) : Option (Int × List Char) := do
  let (n, rest) ← anyInteger cs
  if -Int.pow 2 63 ≤ n ∧ n < Int.pow 2 63 then some (n, rest) else none

/-- Reads a date, a number or a truth value. -/
def scalar (cs : List Char) : Option (Value × List Char) :=
  match cs with
  | 't' :: 'r' :: 'u' :: 'e' :: rest => some (.boolean true, rest)
  | 'f' :: 'a' :: 'l' :: 's' :: 'e' :: rest => some (.boolean false, rest)
  | _ =>
    match moment cs with
    | some (s, rest) => some (.moment s, rest)
    | none =>
      match float cs with
      | some (x, rest) => some (.float x, rest)
      | none => (integer cs).map fun (n, rest) => (.integer n, rest)

end SpatialAccess.Toml
