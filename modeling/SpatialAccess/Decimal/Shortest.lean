import SpatialAccess.Decimal.Rounded

/-!
# Shortest decimal text of a double

The digits are the fewest that read back to the same double and, of those, the ones nearest to it;
of two equally near the larger. On a decimal grid only the two neighbours of the value have to be
tried: if any point of the grid reads back, so does one of them.

* `Decimal.shortestDigits`: the digits and the exponent of the last one.
* `Decimal.display`: positional text, without a point for whole values.
* `Decimal.spelled`: text that shows the value is no integer type: `1.0`, and an exponent far from
  one.
-/

namespace SpatialAccess.Decimal

/-- The reals that round to `mantissa · 2 ^ exponent`, in quarters of the unit of the last place:
from `low` to `high`, ends included iff `closed`. -/
structure RoundingInterval where
  value : Nat
  low : Nat
  high : Nat
  closed : Bool

/-- The rounding interval of a positive double. Below a power of two the neighbour is only half a
unit away. -/
def roundingInterval (mantissa : Nat) (exponent : Int) : RoundingInterval where
  value := 4 * mantissa
  low := if mantissa = Nat.pow 2 52 ∧ -1074 < exponent then 4 * mantissa - 1 else 4 * mantissa - 2
  high := 4 * mantissa + 2
  closed := mantissa % 2 = 0

/-- Whether `x / den` lies in the interval scaled by `num`. -/
def RoundingInterval.reads (i : RoundingInterval) (num x : Nat) : Bool :=
  if i.closed then i.low * num ≤ x && x ≤ i.high * num else i.low * num < x && x < i.high * num

/-- The point of the decimal grid of unit `10 ^ power` that reads back to the value and is nearest
to it. -/
def RoundingInterval.onGrid? (i : RoundingInterval) (exponent power : Int) : Option Nat :=
  let (num, den) := scaled 1 (exponent - 2) (-power)
  let below := i.value * num / den
  let above := below + 1
  let keepsBelow := i.reads num (below * den) && below != 0
  let keepsAbove := i.reads num (above * den)
  let gapBelow := i.value * num - below * den
  let gapAbove := above * den - i.value * num
  if keepsBelow && (!keepsAbove || gapBelow < gapAbove) then some below
  else if keepsAbove then some above
  else none

/-- Tries grids of `count`, `count + 1`, … digits, at most `tries` of them; the exact value is on
the last one. -/
def RoundingInterval.shortest (i : RoundingInterval) (exponent first : Int) :
    (tries count : Nat) → Nat × Int
  | 0, count => (i.value / 4, first - count)
  | tries + 1, count =>
    let power := first + 1 - count
    match i.onGrid? exponent power with
    | some n => (n, power)
    | none => i.shortest exponent first tries (count + 1)

/-- Fewest digits `n` and exponent `p` with `n · 10 ^ p` reading back to the positive double
`mantissa · 2 ^ exponent`; seventeen digits always suffice. -/
def shortestDigits (mantissa : Nat) (exponent : Int) : Nat × Int :=
  let (num, den) := scaled mantissa exponent 0
  (roundingInterval mantissa exponent).shortest exponent (decimalExponent num den) 17 1

/-- Drops the zeros that end a digit text. -/
def trimZeros (ds : List Char) : List Char :=
  (ds.reverse.dropWhile (· == '0')).reverse

/-- Positional text of `digits · 10 ^ power`. -/
def positional (digits : Nat) (power : Int) : String :=
  if 0 ≤ power then toString (digits * Nat.pow 10 power.toNat)
  else
    let places := (-power).toNat
    let whole := digits / Nat.pow 10 places
    let ds := trimZeros (padded places (digits % Nat.pow 10 places)).toList
    if ds.isEmpty then toString whole else toString whole ++ "." ++ String.ofList ds

/-- Shortest positional text: whole values have no point, and no exponent is ever used. -/
def display (x : Float) : String :=
  match Binary.ofFloat x with
  | .nan => "NaN"
  | .infinity negative => sign negative ++ "inf"
  | .finite negative m q =>
    if m = 0 then sign negative ++ "0"
    else
      let (n, p) := shortestDigits m q
      sign negative ++ positional n p

/-- Text of digits in the form `d.ddde±x`. -/
def exponential (digits : Nat) (power : Int) : String :=
  let all := (toString digits).toList
  let e := power + all.length - 1
  match trimZeros all with
  | [] => "0e0"
  | d :: [] => String.ofList [d] ++ "e" ++ toString e
  | d :: ds => String.ofList (d :: '.' :: ds) ++ "e" ++ toString e

/-- Shortest text in which a whole value keeps `.0` and values from `10 ^ 16` up and below
`10 ^ (-4)` have an exponent. -/
def spelled (x : Float) : String :=
  match Binary.ofFloat x with
  | .nan => "NaN"
  | .infinity negative => sign negative ++ "inf"
  | .finite negative m q =>
    if m = 0 then sign negative ++ "0.0"
    else
      let (n, p) := shortestDigits m q
      let size := x.abs
      if 1e-4 ≤ size ∧ size < 1e16 then
        let text := positional n p
        sign negative ++ (if text.contains '.' then text else text ++ ".0")
      else sign negative ++ exponential n p

end SpatialAccess.Decimal
