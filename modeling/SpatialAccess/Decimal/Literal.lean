/-!
# Written numbers

A number in a document is a sign, then `inf`, `infinity` or `nan` in any letter case, or decimal
digits with an optional point and an optional exponent; at least one digit stands beside the point
and none of blanks, underscores or hexadecimal digits is allowed.

* `Decimal.Literal`: what was written, before any rounding.
* `Decimal.Literal.read?`: the grammar.
* `Decimal.Literal.toFloat`: the nearest double.
-/

namespace SpatialAccess.Decimal

/-- A number as written: `digits · 10 ^ exponent` with a sign, or one of the two special words. -/
inductive Literal where
  | nan
  | infinity (negative : Bool)
  | finite (negative : Bool) (digits : Nat) (exponent : Int)
  deriving DecidableEq, Repr

/-- The value of a run of decimal digits, most significant first. -/
def ofDigits (cs : List Char) : Nat :=
  cs.foldl (fun n c => 10 * n + (c.toNat - '0'.toNat)) 0

/-- A non-empty run of decimal digits and nothing else. -/
def digits? (cs : List Char) : Option Nat :=
  if !cs.isEmpty && cs.all Char.isDigit then some (ofDigits cs) else none

namespace Literal

/-- The text after the mantissa: nothing, or an exponent mark, a sign and digits. -/
def exponent? : List Char → Option Int
  | [] => some 0
  | mark :: rest =>
    if mark == 'e' || mark == 'E' then
      match rest with
      | '-' :: cs => (digits? cs).map fun n => -(n : Int)
      | '+' :: cs => (digits? cs).map fun n => (n : Int)
      | cs => (digits? cs).map fun n => (n : Int)
    else none

/-- The digits behind a decimal point, if there is one, and what follows them. -/
def fraction (cs : List Char) : List Char × List Char :=
  match cs with
  | '.' :: rest => (rest.takeWhile Char.isDigit, rest.dropWhile Char.isDigit)
  | _ => ([], cs)

/-- A number without its sign. -/
def unsigned? (negative : Bool) (cs : List Char) : Option Literal :=
  let word := cs.map Char.toLower
  if word = "nan".toList then some nan
  else if word = "inf".toList || word = "infinity".toList then some (infinity negative)
  else
    let whole := cs.takeWhile Char.isDigit
    let (places, rest) := fraction (cs.dropWhile Char.isDigit)
    if whole.isEmpty && places.isEmpty then none
    else
      (exponent? rest).map fun e =>
        finite negative (ofDigits (whole ++ places)) (e - places.length)

/-- Reads a whole text as one number. -/
def read? (s : String) : Option Literal :=
  match s.toList with
  | '-' :: cs => unsigned? true cs
  | '+' :: cs => unsigned? false cs
  | cs => unsigned? false cs

/-- The double nearest to `digits · 10 ^ exponent`. Values of `10 ^ 309` and more overflow and
values below `10 ^ (-323)` vanish, so no power of ten beyond those is ever formed. -/
def magnitude (digits : Nat) (exponent : Int) : Float :=
  if digits = 0 then 0.0
  else
    let top : Int := (Nat.toDigits 10 digits).length + exponent
    if top > 309 then 1.0 / 0.0
    else if top < -323 then 0.0
    else if exponent < 0 then Float.ofScientific digits true (-exponent).toNat
    else Float.ofScientific digits false exponent.toNat

/-- The double nearest to the written number; an even last bit decides a tie. -/
def toFloat : Literal → Float
  | nan => 0.0 / 0.0
  | infinity negative => if negative then -(1.0 / 0.0) else 1.0 / 0.0
  | finite negative digits exponent =>
    if negative then -(magnitude digits exponent) else magnitude digits exponent

end Literal

end SpatialAccess.Decimal
