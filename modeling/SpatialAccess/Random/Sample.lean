import SpatialAccess.Random.Stream

/-!
# Samples

* `Draw.keepRate`: each item by itself with a given probability.
* `Draw.positions`: a number of distinct positions below a length.
* `takeAt`, `pick`: the items of a list at given positions, in list order.
* `Draw.keepAmountBy`, `Draw.keepAmount`: a given number of items.

How positions are drawn depends on the numbers: few ones are drawn one by one (`drawFew`), a dense
sample by shuffling the front of the whole list (`drawFront`), a large sparse one by drawing again
until a new position comes (`drawNew`).
-/

namespace SpatialAccess

namespace Draw

section Rate

variable {α β : Type} [Number α]

/-- Keeps each item with probability `rate`, in list order. -/
def filterChance (rate : α) : List β → Draw (List β)
  | [] => return []
  | item :: items => do
    let keep ← chance rate
    let rest ← filterChance rate items
    return if keep then item :: rest else rest

/-- Keeps each item with probability `rate`. A rate of one or more keeps all and takes no word. -/
def keepRate (items : List β) (rate : α) : Draw (List β) :=
  if ((1 : Nat) : α) ≤ rate then return items else filterChance rate items

end Rate

/-- One position per upper end `j`: a position up to `j`, or `j` itself when that one is taken. A
repeated position puts `j` in its place when `keepOrder`, and behind all others otherwise. -/
def drawFew (keepOrder : Bool) : (ends : List Nat) → (taken : List Nat) → Draw (List Nat)
  | [], taken => return taken
  | j :: ends, taken => do
    let t ← upTo32 0 j
    let taken :=
      if taken.contains t then
        if keepOrder then taken.insertIdx (taken.idxOf t) j else taken ++ [j]
      else taken ++ [t]
    drawFew keepOrder ends taken

/-- Exchanges each entry from `i` down to `1` with an entry at or before it. -/
def shuffleDown : (i : Nat) → Array Nat → Draw (Array Nat)
  | 0, entries => return entries
  | i + 1, entries => do
    let j ← upTo32 0 (i + 1)
    shuffleDown i (entries.swapIfInBounds (i + 1) j)

/-- Exchanges entry `i` with one at or behind it, `count` times with growing `i`. -/
def drawFront : (count i : Nat) → Array Nat → Draw (Array Nat)
  | 0, _, entries => return entries
  | count + 1, i, entries => do
    let j ← upTo32 i (entries.size - 1)
    drawFront count (i + 1) (entries.swapIfInBounds i j)

/-- Draws a position below `length` until it is none of `taken`. -/
def drawNew (length : Nat) (taken : List Nat) : (tries : Nat) → Draw Nat
  | 0 => return ((List.range length).find? fun i => !taken.contains i).getD 0
  | tries + 1 => do
    let t ← below32 length
    if taken.contains t then drawNew length taken tries else return t

/-- Draws `count` new positions one after the other. -/
def drawSparse (length : Nat) : (count : Nat) → (taken : List Nat) → Draw (List Nat)
  | 0, taken => return taken
  | count + 1, taken => do
    let t ← drawNew length taken patience
    drawSparse length count (taken ++ [t])

/-- Whether a sample of `amount` positions below `length` is dense enough to lay out the whole list.
How dense it has to be depends on whether the list is short. -/
def isDense (length amount : Nat) : Bool :=
  let isShort := length < 500000
  let l := Float32.ofNat length
  let a := Float32.ofNat amount
  if amount < 163 then
    let slope : Float32 := if isShort then 1.6 else 8.0 / 45.0
    let base : Float32 := if isShort then 10.0 else 70.0 / 9.0
    11 < amount && l < (base + slope * a) * a
  else
    let ratio : Float32 := if isShort then 270.0 else 330.0 / 9.0
    l < ratio * a

/-- `amount` distinct positions below `length`, in the order drawn; `amount ≤ length`, and the length
fits 32 bits. -/
def positions (length amount : Nat) : Draw (List Nat) := do
  if isDense length amount then
    return ((← drawFront amount 0 (Array.range length)).take amount).toList
  else if amount < 163 then
    let ends := (List.range amount).map (length - amount + ·)
    let drawn ← drawFew (amount < 50) ends []
    if amount < 50 then return drawn
    else return (← shuffleDown (amount - 1) drawn.toArray).toList
  else drawSparse length amount []

end Draw

/-- Goes through numbered items with positions in ascending order: an item is taken if its number is
the next position, which is used up then. -/
def takeAt {β : Type} : (items : List (β × Nat)) → (positions : List Nat) → List β
  | [], _ => []
  | (item, i) :: items, positions =>
    if positions.head? = some i then item :: takeAt items positions.tail
    else takeAt items positions

/-- The items at the given positions, in list order. -/
def pick {β : Type} (positions : List Nat) (items : List β) : List β :=
  takeAt items.zipIdx (positions.mergeSort (· ≤ ·))

namespace Draw

variable {β : Type}

/-- A number of items at positions that `draw` chooses, in list order. An amount that reaches the
length keeps all and takes no word. -/
def keepAmountBy (draw : (length amount : Nat) → Draw (List Nat)) (items : List β) (amount : Nat) :
    Draw (List β) := do
  if items.length ≤ amount then return items
  else return pick (← draw items.length amount) items

/-- A number of distinct items, in list order. -/
def keepAmount (items : List β) (amount : Nat) : Draw (List β) :=
  keepAmountBy positions items amount

end Draw

end SpatialAccess
