import SpatialAccess.Text.Utf8

/-!
# Tags of an XML document

Documents are bytes. Only tags matter here: text, comments, instructions and declarations are
passed over, but have to be finished.

* `Markup.Token`: a start tag, an empty element, or an end tag.
* `Markup.Ending`: whether the tokens reach the end of the document.
* `Markup.tokens`: the tokens of a document, up to the first one that is malformed.
-/

namespace SpatialAccess.Markup

/-- The bytes of a document or of a part of one. -/
abbrev Bytes := List UInt8

/-- The byte of an ASCII character. -/
def byte (c : Char) : UInt8 :=
  UInt8.ofNat c.toNat

/-- The bytes of an ASCII text. -/
def ascii (s : String) : Bytes :=
  s.toList.map byte

/-- Space, tab, and the two characters of line ends. -/
def isBlank (b : UInt8) : Bool :=
  b == 0x20 || b == 0x09 || b == 0x0a || b == 0x0d

/-- A tag. `attributes` is everything between the name and the end of the tag. -/
inductive Token where
  | start (name attributes : Bytes)
  | empty (name attributes : Bytes)
  | finish (name : Bytes)
  deriving Repr, DecidableEq

/-- How the tokens of a document end. -/
inductive Ending where
  | complete
  | malformed
  deriving Repr, DecidableEq

/-- The bytes of a tag up to the first `>` outside quotes, and what follows it. `quote` is the
quote that is open. -/
def tagBody (quote : Option UInt8) : Bytes → Option (Bytes × Bytes)
  | [] => none
  | b :: rest =>
    let more (quote : Option UInt8) := (tagBody quote rest).map fun (body, rest) => (b :: body, rest)
    match quote with
    | some q => if b == q then more none else more (some q)
    | none =>
      if b == byte '>' then some ([], rest)
      else if b == byte '\'' || b == byte '"' then more (some b)
      else more none

/-- The bytes up to the first `>` for which `isEnd` accepts the bytes in front of it, which are
handed over last first. -/
def upTo (isEnd : Bytes → Bool) (seen : Bytes) : Bytes → Option (Bytes × Bytes)
  | [] => none
  | b :: rest =>
    if b == byte '>' && isEnd seen then some (seen.reverse, rest)
    else upTo isEnd (b :: seen) rest

/-- Whether `word` stands at the front. -/
def startsWith (word : String) (bytes : Bytes) : Bool :=
  (ascii word).isPrefixOf bytes

/-- Whether `word` stands at the front, in any letter case. -/
def startsWithAnyCase (word : String) (bytes : Bytes) : Bool :=
  let small (b : UInt8) := if 0x41 ≤ b && b ≤ 0x5a then b + 0x20 else b
  ((ascii word).map small).isPrefixOf (bytes.map small)

/-- Reads a comment, a section of plain text or a document type declaration, from its exclamation
mark on; gives what follows it. -/
def declaration (bytes : Bytes) : Option Bytes :=
  match bytes with
  | _ :: 0x2d :: _ => do
    let closes (seen : Bytes) := 4 < seen.length && startsWith "--" seen
    let (body, rest) ← upTo closes [] bytes
    if startsWith "!--" body then some rest else none
  | _ :: 0x5b :: _ => do
    let (body, rest) ← upTo (startsWith "]]") [] bytes
    if startsWith "![CDATA[" body then some rest else none
  | _ => do
    let balanced (seen : Bytes) := seen.count (byte '<') == seen.count (byte '>')
    let (body, rest) ← upTo balanced [] bytes
    let named := (body.drop 8).any fun b => !isBlank b
    if startsWithAnyCase "!DOCTYPE" body && named then some rest else none

/-- Reads an instruction from its question mark on; gives what follows it. -/
def instruction (bytes : Bytes) : Option Bytes := do
  let (body, rest) ← upTo (startsWith "?") [] bytes
  if 1 < body.length then some rest else none

/-- Splits the inside of a start tag into its name and its attributes. -/
def nameOf (body : Bytes) : Bytes × Bytes :=
  (body.takeWhile fun b => !isBlank b, body.dropWhile fun b => !isBlank b)

/-- The name in an end tag: blanks behind it do not count, unless there is nothing else. -/
def endName (body : Bytes) : Bytes :=
  let name := (body.reverse.dropWhile isBlank).reverse
  if name.isEmpty then body else name

/-- Reads the markup behind a `<`: the token it stands for, if any, the names that are open then,
and what follows. -/
def markup (openNames : List Bytes) (bytes : Bytes) :
    Option (Option Token × List Bytes × Bytes) :=
  match bytes with
  | [] => none
  | b :: _ =>
    if b == byte '!' then (declaration bytes).map fun rest => (none, openNames, rest)
    else if b == byte '?' then (instruction bytes).map fun rest => (none, openNames, rest)
    else do
      let (body, rest) ← tagBody none bytes
      if b == byte '/' then
        let name := endName (body.drop 1)
        match openNames with
        | [] => none
        | expected :: outer =>
          if name == expected then some (some (.finish name), outer, rest) else none
      else if body.getLast? == some (byte '/') then
        let (name, attributes) := nameOf body.dropLast
        some (some (.empty name attributes), openNames, rest)
      else
        let (name, attributes) := nameOf body
        some (some (.start name attributes), name :: openNames, rest)

/-- Reads tokens while `fuel`, a bound on the number of bytes, lasts. -/
def scan : (fuel : Nat) → (openNames : List Bytes) → Bytes → List Token × Ending
  | 0, _, _ => ([], .complete)
  | fuel + 1, openNames, bytes =>
    match bytes.dropWhile (· != byte '<') with
    | [] => ([], .complete)
    | _ :: bytes =>
      match markup openNames bytes with
      | none => ([], .malformed)
      | some (token, openNames, rest) =>
        let (tokens, ending) := scan fuel openNames rest
        (token.toList ++ tokens, ending)

/-- The tags of a document in order, up to the first place that is malformed. A byte order mark in
front is skipped, and elements may be left open at the end. -/
def tokens (bytes : Bytes) : List Token × Ending :=
  let bytes := Text.Utf8.withoutMark bytes
  scan (bytes.length + 1) [] bytes

end SpatialAccess.Markup
