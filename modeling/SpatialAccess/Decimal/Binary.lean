/-!
# Doubles as binary fractions

* `Decimal.Binary`: not a number, an infinity, or `± mantissa · 2 ^ exponent`.
* `Decimal.Binary.ofFloat`: the exact value of a double, from its bits.
* `Decimal.roundDiv`: a quotient of naturals rounded to the nearest one.
-/

namespace SpatialAccess.Decimal

/-- The exact value of a double. -/
inductive Binary where
  | nan
  | infinity (negative : Bool)
  | finite (negative : Bool) (mantissa : Nat) (exponent : Int)
  deriving DecidableEq, Repr

/-- The value that sign, exponent field and fraction field of a double stand for. -/
def Binary.ofFields (negative : Bool) (exponentField fractionField : Nat) : Binary :=
  if exponentField = 2047 then
    if fractionField = 0 then .infinity negative else .nan
  else if exponentField = 0 then .finite negative fractionField (-1074)
  else .finite negative (Nat.pow 2 52 + fractionField) (exponentField - 1075)

/-- The exact value of a double. -/
def Binary.ofFloat (x : Float) : Binary :=
  let bits := x.toBits.toNat
  Binary.ofFields (decide (Nat.pow 2 63 ≤ bits)) (bits / Nat.pow 2 52 % Nat.pow 2 11)
    (bits % Nat.pow 2 52)

/-- `mantissa · 2 ^ exponent · 10 ^ power` as a fraction of naturals. -/
def scaled (mantissa : Nat) (exponent power : Int) : Nat × Nat :=
  (mantissa * Nat.pow 2 exponent.toNat * Nat.pow 10 power.toNat,
    Nat.pow 2 (-exponent).toNat * Nat.pow 10 (-power).toNat)

/-- The natural nearest to `num / den`; of two equally near ones the even one. -/
def roundDiv (num den : Nat) : Nat :=
  let q := num / den
  let r := num % den
  if 2 * r < den then q
  else if den < 2 * r then q + 1
  else if q % 2 = 0 then q else q + 1

/-- The number `e` with `10 ^ e ≤ num / den < 10 ^ (e + 1)`, for a positive fraction. -/
def decimalExponent (num den : Nat) : Int :=
  let guess : Int := (Nat.toDigits 10 num).length - (Nat.toDigits 10 den).length
  let reaches :=
    if 0 ≤ guess then den * Nat.pow 10 guess.toNat ≤ num else den ≤ num * Nat.pow 10 (-guess).toNat
  if reaches then guess else guess - 1

end SpatialAccess.Decimal
