import SpatialAccess.Decimal.Binary

/-!
# Doubles with a fixed number of digits

The exact value of the double is rounded; a value midway between two texts takes the one with an
even last digit.

* `Decimal.fixed`: a given number of places behind the point.
* `Decimal.scientific`: one digit, a point, a given number of places, and a bare exponent.
-/

namespace SpatialAccess.Decimal

/-- Digits of `n`, with zeros in front up to `width`. -/
def padded (width n : Nat) : String :=
  let ds := Nat.toDigits 10 n
  String.ofList (List.replicate (width - ds.length) '0' ++ ds)

/-- Minus sign of a negative value. -/
def sign (negative : Bool) : String :=
  if negative then "-" else ""

/-- A text of digits with a point before the last `places` of them. -/
def withPoint (places n : Nat) : String :=
  if places = 0 then padded 1 n
  else padded 1 (n / Nat.pow 10 places) ++ "." ++ padded places (n % Nat.pow 10 places)

/-- Positional text with exactly `places` digits behind the point. -/
def fixed (places : Nat) (x : Float) : String :=
  match Binary.ofFloat x with
  | .nan => "NaN"
  | .infinity negative => sign negative ++ "inf"
  | .finite negative m q =>
    let (num, den) := scaled m q places
    sign negative ++ withPoint places (roundDiv num den)

/-- The leading `places + 1` digits of a positive fraction and the exponent of the first one. A
value that rounds up to the next power of ten takes that power. -/
def leadingDigits (places num den : Nat) : Nat × Int :=
  let e := decimalExponent num den
  let shift := (places : Int) - e
  let n := roundDiv (num * Nat.pow 10 shift.toNat) (den * Nat.pow 10 (-shift).toNat)
  if n = Nat.pow 10 (places + 1) then (Nat.pow 10 places, e + 1) else (n, e)

/-- Text with one digit before the point, `places` behind it, and an exponent without padding. -/
def scientific (places : Nat) (x : Float) : String :=
  match Binary.ofFloat x with
  | .nan => "NaN"
  | .infinity negative => sign negative ++ "inf"
  | .finite negative m q =>
    if m = 0 then sign negative ++ withPoint places 0 ++ "e0"
    else
      let (num, den) := scaled m q 0
      let (n, e) := leadingDigits places num den
      sign negative ++ withPoint places n ++ "e" ++ toString e

end SpatialAccess.Decimal
