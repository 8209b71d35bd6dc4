import SpatialAccess.Number

/-!
# A stream of random words

Four 64-bit words of state, mixed by shifts, rotations and additions (the `xoshiro256++` rule). The
words of the first state are drawn from a second, linear generator that starts at the seed (the
`PCG32` rule), so that neighbouring seeds give unrelated streams. The same seed always gives the same
draws.

* `Stream`: the state. `Stream.ofSeed`, `Stream.next`.
* `Draw`: a computation that takes words from a stream.
* `Draw.upTo32`, `Draw.upTo64`: a natural from a range, without bias.
* `Draw.chance`: a coin of given probability. `Draw.between`: a double from an interval.
* `Draw.child`: a stream of its own for one purpose.
-/

namespace SpatialAccess

/-- State of a random stream. -/
structure Stream where
  s0 : UInt64
  s1 : UInt64
  s2 : UInt64
  s3 : UInt64
  deriving DecidableEq, Repr

/-- A word turned left by `k` bits, `0 < k < 64`. -/
def rotateLeft (x k : UInt64) : UInt64 :=
  (x <<< k) ||| (x >>> (64 - k))

/-- The odd constant that separates the seeds of different purposes: the golden ratio's fraction in
64 bits. -/
def goldenGamma : UInt64 := 0x9e3779b97f4a7c15

/-- A half word turned right by `k` bits, `k < 32`. -/
def rotateRight32 (x k : UInt32) : UInt32 :=
  (x >>> k) ||| (x <<< (32 - k))

/-- The state of the linear generator behind a state. -/
def seedStep (state : UInt64) : UInt64 :=
  state * 6364136223846793005 + 11634580027462260723

/-- The half word that a state of the linear generator gives. -/
def seedOutput (state : UInt64) : UInt32 :=
  rotateRight32 (((state >>> 18) ^^^ state) >>> 27).toUInt32 (state >>> 59).toUInt32

/-- A word of two half words of the linear generator, the lower half first, and its state behind
them. -/
def seedWord (state : UInt64) : UInt64 × UInt64 :=
  let first := seedStep state
  let second := seedStep first
  ((seedOutput first).toUInt64 ||| ((seedOutput second).toUInt64 <<< 32), second)

namespace Stream

/-- The stream of a seed. -/
def ofSeed (seed : UInt64) : Stream :=
  let (s0, state) := seedWord seed
  let (s1, state) := seedWord state
  let (s2, state) := seedWord state
  let (s3, _) := seedWord state
  ⟨s0, s1, s2, s3⟩

/-- The next word, and the state behind it. -/
def next (s : Stream) : UInt64 × Stream :=
  let result := rotateLeft (s.s0 + s.s3) 23 + s.s0
  let s2 := s.s2 ^^^ s.s0
  let s3 := s.s3 ^^^ s.s1
  (result, ⟨s.s0 ^^^ s3, s.s1 ^^^ s2, s2 ^^^ (s.s1 <<< 17), rotateLeft s3 45⟩)

end Stream

/-- A computation that takes words from a random stream. -/
abbrev Draw := StateM Stream

namespace Draw

/-- The next 64-bit word. -/
def word : Draw UInt64 :=
  fun s => s.next

/-- The upper half of the next word. -/
def halfWord : Draw Nat := do
  return (← word).toNat / Nat.pow 2 32

/-- How often a draw is repeated before the last one is taken as it is. A draw is refused with
probability below one half, so this is never reached. -/
def patience : Nat := 1000

/-- Draws words of `bits` bits until the low half of the word times `range` passes `accept`; the
high half is then uniform below `range`. -/
def scaledWord (bits range : Nat) (draw : Draw Nat) (accept : Nat → Bool) : (tries : Nat) → Draw Nat
  | 0 => do
    return (← draw) * range / Nat.pow 2 bits
  | tries + 1 => do
    let product := (← draw) * range
    if accept (product % Nat.pow 2 bits) then return product / Nat.pow 2 bits
    else scaledWord bits range draw accept tries

/-- The greatest low half accepted for a range: `range` shifted to the top of the word, less one. -/
def zone (bits range : Nat) : Nat :=
  range * Nat.pow 2 (bits - 1 - range.log2) - 1

/-- A natural from `low` to `high`, both included, from half words. -/
def upTo32 (low high : Nat) : Draw Nat := do
  let range := high - low + 1
  return low + (← scaledWord 32 range halfWord (· ≤ zone 32 range) patience)

/-- A natural from `low` to `high`, both included, from whole words. -/
def upTo64 (low high : Nat) : Draw Nat := do
  let range := high - low + 1
  let whole : Draw Nat := do return (← word).toNat
  return low + (← scaledWord 64 range whole (· ≤ zone 64 range) patience)

/-- A natural below `range`, from half words, where every low half that is not in the overhanging
part is accepted. -/
def below32 (range : Nat) : Draw Nat :=
  let refused := (Nat.pow 2 32 - range) % range
  scaledWord 32 range halfWord (· ≤ Nat.pow 2 32 - 1 - refused) patience

/-- The double in `[low, high)` that a word's upper 52 bits select; drawn again if rounding carries
it to `high`. -/
def between (low high : Float) : (tries : Nat) → Draw Float
  | 0 => return low
  | tries + 1 => do
    let fraction := ((← word) >>> 12).toFloat / 4503599627370496.0
    let x := fraction * (high - low) + low
    if x < high then return x else between low high tries

section Chance

variable {α : Type} [Number α]

/-- True with probability `p`. A certain event takes no word; an impossible one does. -/
def chance (p : α) : Draw Bool := do
  if ((1 : Nat) : α) ≤ p then return true
  else
    let threshold := Number.toNat (p * ((Nat.pow 2 64 : Nat) : α))
    return decide ((← word).toNat < threshold)

end Chance

/-- A stream for the purpose number `offset`: its seed is the next word changed by the offset, so
that what one purpose draws never moves the draws of another. -/
def child (offset : UInt64) : Draw Stream := do
  return Stream.ofSeed ((← word) ^^^ (offset * goldenGamma))

end Draw

end SpatialAccess
