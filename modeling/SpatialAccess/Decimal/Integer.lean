import SpatialAccess.Decimal.Literal

/-!
# Written integers

Decimal digits with an optional plus sign; a minus sign only where negative values are meant. The
value has to fit the width it is read for.

* `Decimal.natural?`: an integer from `0` up to below a limit.
* `Decimal.integer?`: an integer of a signed width.
-/

namespace SpatialAccess.Decimal

/-- One more than the greatest 32-bit natural. -/
def limit32 : Nat := Nat.pow 2 32

/-- One more than the greatest 64-bit natural. -/
def limit64 : Nat := Nat.pow 2 64

/-- A natural below `limit`. -/
def natural? (limit : Nat) (s : String) : Option Nat :=
  let cs := match s.toList with
    | '+' :: cs => cs
    | cs => cs
  (digits? cs).filter (· < limit)

/-- An integer from `-half` to `half - 1`. -/
def integer? (half : Nat) (s : String) : Option Int :=
  match s.toList with
  | '-' :: cs => ((digits? cs).filter (· ≤ half)).map fun n => -(n : Int)
  | _ => (natural? half s).map fun n => (n : Int)

/-- The value of a hexadecimal digit. -/
def hexDigit? (c : Char) : Option Nat :=
  let n := c.toNat
  if c.isDigit then some (n - '0'.toNat)
  else if 'a' ≤ c && c ≤ 'f' then some (n - 'a'.toNat + 10)
  else if 'A' ≤ c && c ≤ 'F' then some (n - 'A'.toNat + 10)
  else none

/-- The value of a non-empty run of digits of base `base`, at most sixteen. -/
def digitsOfBase? (base : Nat) (cs : List Char) : Option Nat :=
  if cs.isEmpty then none
  else cs.foldlM (fun n c => do
    let d ← hexDigit? c
    if d < base then some (base * n + d) else none) 0

/-- A natural below `limit` in decimal digits, or in hexadecimal ones after `0x`; a plus sign may
stand before the digits. -/
def naturalOrHex? (limit : Nat) (s : String) : Option Nat :=
  match s.toList with
  | '0' :: 'x' :: '+' :: cs => (digitsOfBase? 16 cs).filter (· < limit)
  | '0' :: 'x' :: cs => (digitsOfBase? 16 cs).filter (· < limit)
  | _ => natural? limit s

end SpatialAccess.Decimal
