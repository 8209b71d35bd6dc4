import SpatialAccess.Decimal.Literal

/-!
# Numbers

Coordinates, times, capacities and scores are numbers of one type. Programs run on doubles; laws
that hold only in exact arithmetic are stated for the reals. Both are instances of one class, so
that every definition is written once.

* `Number`: arithmetic, comparison, rounding to naturals, powers and logarithms.
* `Number.sum`: a sum from the left; the sum of nothing is negative zero, which only doubles can
  tell from zero.
* `Number.lower`, `Number.upper`: the smaller and the larger of two, where a value that is not a
  number loses.
-/

namespace SpatialAccess

/-- Numbers to compute with. Comparisons may all fail, as they do for a double that is not a
number. -/
class Number (α : Type) extends Add α, Sub α, Mul α, Div α, Neg α, NatCast α, OfScientific α,
    LT α, LE α, BEq α where
  decidableLT : DecidableLT α
  decidableLE : DecidableLE α
  /-- A total order that sorting can rely on. -/
  totalLE : α → α → Bool
  abs : α → α
  sqrt : α → α
  pow : α → α → α
  exp : α → α
  log : α → α
  /-- The whole part of a positive number; `0` for anything else. -/
  toNat : α → Nat
  /-- The least natural that is not below a positive number; `0` for anything else. -/
  ceilNat : α → Nat
  /-- The natural nearest to a positive number, halves upward; `0` for anything else. -/
  roundNat : α → Nat
  /-- Whether there is nothing behind the point. -/
  isWhole : α → Bool
  /-- The number nearest to a written one, where there is one. -/
  ofLiteral? : Decimal.Literal → Option α

attribute [reducible, instance] Number.decidableLT Number.decidableLE

namespace Number

variable {α : Type} [Number α]

/-- Reads a whole text as one number. -/
def read? (s : String) : Option α :=
  (Decimal.Literal.read? s).bind ofLiteral?

/-- Whether a value is not a number: it differs from itself. -/
def isNaN (x : α) : Bool :=
  !(x == x)

/-- Whether a value is a number and not infinite: only then its difference from itself is a
number. -/
def isFinite (x : α) : Bool :=
  !isNaN (x - x)

/-- The smaller of two numbers; the first one if they are equal. -/
def lower (a b : α) : α :=
  if isNaN a then b else if b < a then b else a

/-- The larger of two numbers; the first one if they are equal. -/
def upper (a b : α) : α :=
  if isNaN a then b else if a < b then b else a

/-- The sum of a list, added from the left. -/
def sum (xs : List α) : α :=
  xs.foldl (· + ·) (-((0 : Nat) : α))

/-- What a look-up of a number gives when there is nothing to find. -/
def undefined : α :=
  ((0 : Nat) : α) / ((0 : Nat) : α)

end Number

/-! ## Doubles -/

namespace Number.Double

/-- Position of a double in the order `-∞ < … < -0 < 0 < … < ∞ < NaN`. -/
def orderKey (x : Float) : Int :=
  let bits := x.toBits.toNat
  if bits < Nat.pow 2 63 then bits else Nat.pow 2 63 - 1 - bits

/-- The whole part of a positive double, at most `2 ^ 64 - 1`. -/
def toNat (x : Float) : Nat :=
  x.toUInt64.toNat

/-- The least natural not below a positive double, at most `2 ^ 64 - 1`; doubles from `2 ^ 53`
up are whole already. -/
def ceilNat (x : Float) : Nat :=
  let n := toNat x
  if x < 9007199254740992.0 ∧ Float.ofNat n < x then n + 1 else n

/-- The natural nearest to a positive double, at most `2 ^ 64 - 1`. -/
def roundNat (x : Float) : Nat :=
  let n := toNat x
  if x < 9007199254740992.0 ∧ 0.5 ≤ x - Float.ofNat n then n + 1 else n

/-- Whether a double is finite and whole. -/
def isWhole (x : Float) : Bool :=
  let size := x.abs
  x.isFinite && (9007199254740992.0 ≤ size || Float.ofNat (toNat size) == size)

end Number.Double

/-- Doubles with the rounding of the machine. -/
instance : Number Float where
  natCast := Float.ofNat
  decidableLT := inferInstance
  decidableLE := inferInstance
  totalLE x y := Number.Double.orderKey x ≤ Number.Double.orderKey y
  abs := Float.abs
  sqrt := Float.sqrt
  pow := Float.pow
  exp := Float.exp
  log := Float.log
  toNat := Number.Double.toNat
  ceilNat := Number.Double.ceilNat
  roundNat := Number.Double.roundNat
  isWhole := Number.Double.isWhole
  ofLiteral? l := some l.toFloat

end SpatialAccess
