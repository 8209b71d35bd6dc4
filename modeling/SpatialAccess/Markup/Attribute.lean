import SpatialAccess.Decimal.Integer
import SpatialAccess.Markup.Token

/-!
# Attributes of a tag

* `Markup.attributes`: keys and raw values from left to right, up to the first malformed one.
* `Markup.unescape`: the text of a value, references replaced.
* `Markup.find`: the text under one key, without a look at what follows it.
-/

namespace SpatialAccess.Markup

/-- A key and the bytes between the quotes behind it. -/
structure Attribute where
  key : Bytes
  value : Bytes
  deriving Repr, DecidableEq

/-- Reads the quoted value that follows an equals sign. -/
def quotedValue (bytes : Bytes) : Option (Bytes × Bytes) :=
  match bytes.dropWhile isBlank with
  | [] => none
  | q :: rest =>
    if q == byte '"' || q == byte '\'' then
      match rest.dropWhile (· != q) with
      | [] => none
      | _ :: after => some (rest.takeWhile (· != q), after)
    else none

/-- Reads one attribute that starts with `b`; `seen` holds the keys before it. -/
def readAttribute (seen : List Bytes) (b : UInt8) (rest : Bytes) : Option (Attribute × Bytes) :=
  let inKey (b : UInt8) := b != byte '=' && !isBlank b
  let key := b :: rest.takeWhile inKey
  match (rest.dropWhile inKey).dropWhile isBlank with
  | [] => none
  | e :: rest =>
    if e == byte '=' && !seen.contains key then
      (quotedValue rest).map fun (value, rest) => ({ key, value }, rest)
    else none

/-- Reads attributes while `fuel`, a bound on the number of bytes, lasts. -/
def attributesFrom : (fuel : Nat) → (seen : List Bytes) → Bytes → List Attribute × Ending
  | 0, _, _ => ([], .complete)
  | fuel + 1, seen, bytes =>
    match bytes.dropWhile isBlank with
    | [] => ([], .complete)
    | b :: rest =>
      match readAttribute seen b rest with
      | none => ([], .malformed)
      | some (a, rest) =>
        let (as, ending) := attributesFrom fuel (a.key :: seen) rest
        (a :: as, ending)

/-- The attributes of a tag in order, up to the first malformed one. A key that was there before is
malformed. -/
def attributes (bytes : Bytes) : List Attribute × Ending :=
  attributesFrom (bytes.length + 1) [] bytes

/-- The character of a numeric reference without its number sign. -/
def numbered? (cs : List Char) : Option Char := do
  let n ← match cs with
    | 'x' :: ds => Decimal.digitsOfBase? 16 ds
    | ds => Decimal.digitsOfBase? 10 ds
  if n ≠ 0 ∧ n.isValidChar then some (Char.ofNat n) else none

/-- The character of a reference without its ampersand and semicolon. -/
def referenced? (cs : List Char) : Option Char :=
  match cs with
  | '#' :: ds => numbered? ds
  | _ =>
    match String.ofList cs with
    | "amp" => some '&'
    | "lt" => some '<'
    | "gt" => some '>'
    | "quot" => some '"'
    | "apos" => some '\''
    | _ => none

/-- Replaces references; `skip` characters belong to the last one. -/
def replaceReferences : (skip : Nat) → List Char → Option (List Char)
  | _, [] => some []
  | skip + 1, _ :: cs => replaceReferences skip cs
  | 0, c :: cs =>
    if c == '&' then do
      let name := cs.takeWhile fun c => c != ';' && c != '&'
      match cs.drop name.length with
      | ';' :: _ => do
        let d ← referenced? name
        let rest ← replaceReferences (name.length + 1) cs
        return d :: rest
      | _ => none
    else do
      let rest ← replaceReferences 0 cs
      return c :: rest

/-- The text of an attribute value; nothing if it is no UTF-8 or holds an unknown reference. -/
def unescape (value : Bytes) : Option String := do
  let s ← Text.Utf8.decode? value
  let cs ← replaceReferences 0 s.toList
  return String.ofList cs

/-- What is under a key of a tag. -/
inductive Finding where
  | value (text : String)
  | missing
  | malformed
  deriving Repr, DecidableEq

/-- What is under a key of a tag. Attributes behind it do not matter, nor does the text of those
before it. -/
def find (bytes : Bytes) (key : String) : Finding :=
  let (attributes, ending) := attributes bytes
  match attributes.find? fun a => a.key == key.toUTF8.toList with
  | some a =>
    match unescape a.value with
    | some text => .value text
    | none => .malformed
  | none => if ending = .complete then .missing else .malformed

end SpatialAccess.Markup
