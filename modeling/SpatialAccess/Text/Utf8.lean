/-!
# Texts from bytes

* `Text.Utf8.Malformed`: where and how a sequence of bytes stops being UTF-8.
* `Text.Utf8.decode`: the text a sequence of bytes stands for.
* `Text.Utf8.encode`: the bytes of a text.
-/

namespace SpatialAccess.Text.Utf8

/-- The first place where bytes are no UTF-8: a sequence of `length` bytes that no text has, or a
sequence that the end of the bytes cuts short. -/
inductive Malformed where
  | invalid (length index : Nat)
  | incomplete (index : Nat)
  deriving DecidableEq, Repr

/-- Words for a malformed sequence. -/
def Malformed.message : Malformed → String
  | .invalid length index =>
    s!"invalid utf-8 sequence of {length} bytes from index {index}"
  | .incomplete index => s!"incomplete utf-8 byte sequence from index {index}"

/-- Number of bytes that a first byte announces; `0` for a byte that starts nothing. -/
def width (b : Nat) : Nat :=
  if b < 0x80 then 1
  else if 0xc2 ≤ b && b ≤ 0xdf then 2
  else if 0xe0 ≤ b && b ≤ 0xef then 3
  else if 0xf0 ≤ b && b ≤ 0xf4 then 4
  else 0

/-- Whether a second byte may follow a first one: no overlong form, no surrogate and nothing above
the last code point. -/
def maySecond (first second : Nat) : Bool :=
  let low := if first = 0xe0 then 0xa0 else if first = 0xf0 then 0x90 else 0x80
  let high := if first = 0xed then 0x9f else if first = 0xf4 then 0x8f else 0xbf
  low ≤ second && second ≤ high

/-- Whether a byte may be the third or fourth of a sequence. -/
def mayFollow (b : Nat) : Bool :=
  0x80 ≤ b && b ≤ 0xbf

/-- The bytes `rest` of a sequence of `missing` more bytes, `done` of which have been read; gives
the code point, or the number of bytes that were right, or `none` at the end of the bytes. -/
def continuation (first done value : Nat) : (missing : Nat) → List UInt8 →
    Except (Option Nat) Nat
  | 0, _ => .ok value
  | _ + 1, [] => .error none
  | missing + 1, b :: rest =>
    let fits := if done = 1 then maySecond first b.toNat else mayFollow b.toNat
    if fits then continuation first (done + 1) (value * 64 + b.toNat % 64) missing rest
    else .error (some done)

/-- Payload bits of a first byte. -/
def leadBits (first : Nat) : Nat :=
  match width first with
  | 2 => first % 32
  | 3 => first % 16
  | 4 => first % 8
  | _ => first

/-- Reads characters from position `index` on; `skip` bytes belong to the last character. -/
def decodeFrom : (index skip : Nat) → List UInt8 → Except Malformed (List Char)
  | _, _, [] => .ok []
  | index, skip + 1, _ :: rest => decodeFrom (index + 1) skip rest
  | index, 0, b :: rest =>
    let first := b.toNat
    if width first = 0 then .error (.invalid 1 index)
    else
      match continuation first 1 (leadBits first) (width first - 1) rest with
      | .error none => .error (.incomplete index)
      | .error (some length) => .error (.invalid length index)
      | .ok code => do
        let cs ← decodeFrom (index + 1) (width first - 1) rest
        return Char.ofNat code :: cs

/-- The text a sequence of bytes stands for. -/
def decode (bytes : List UInt8) : Except Malformed String :=
  (decodeFrom 0 0 bytes).map String.ofList

/-- The text of a sequence of bytes that may be malformed. -/
def decode? (bytes : List UInt8) : Option String :=
  (decode bytes).toOption

/-- The bytes of a text. -/
def encode (s : String) : List UInt8 :=
  s.toUTF8.toList

/-- The bytes of a document without a byte order mark in front. -/
def withoutMark : List UInt8 → List UInt8
  | 0xef :: 0xbb :: 0xbf :: rest => rest
  | bytes => bytes

end SpatialAccess.Text.Utf8
