import SpatialAccess.Decimal.Integer

/-!
# Blanks, keys and strings of TOML

Each reader takes the characters that are left and gives what it read and what is left then, or
nothing if the characters do not fit. Loops are bounded by the number of characters.

* `Toml.skipBlanks`, `Toml.skipGaps`, `Toml.endOfLine`: what stands between the parts of a document.
* `Toml.string`: the four forms of a string.
* `Toml.keyPath`: keys with points between them.
-/

namespace SpatialAccess.Toml

/-- Reads something off the front of a list of characters. -/
abbrev Reader (β : Type) := List Char → Option (β × List Char)

/-- A space or a tab. -/
def isBlank (c : Char) : Bool :=
  c == ' ' || c == '\t'

/-- What may stand in a comment or a literal string: everything but controls other than the tab. -/
def isPlain (c : Char) : Bool :=
  c == '\t' || (0x20 ≤ c.toNat && c.toNat != 0x7f)

/-- Without spaces and tabs in front. -/
def skipBlanks (cs : List Char) : List Char :=
  cs.dropWhile isBlank

/-- Without blanks and line ends in front. -/
def skipLines : List Char → List Char
  | '\r' :: '\n' :: cs => skipLines cs
  | c :: cs => if isBlank c || c == '\n' then skipLines cs else c :: cs
  | [] => []

/-- The characters behind a comment, if there is one in front. -/
def skipComment : List Char → List Char
  | '#' :: cs => cs.dropWhile isPlain
  | cs => cs

/-- Reads one line end. -/
def newline? : List Char → Option (List Char)
  | '\n' :: cs => some cs
  | '\r' :: '\n' :: cs => some cs
  | _ => none

/-- Without blanks, comments and line ends in front; a comment goes up to a line end. -/
def skipGaps : (fuel : Nat) → List Char → List Char
  | 0, cs => cs
  | fuel + 1, cs =>
    let cs := skipLines cs
    match cs with
    | '#' :: _ =>
      match newline? (skipComment cs) with
      | some rest => skipGaps fuel rest
      | none => cs
    | _ => cs

/-- Reads what may follow on a line: blanks, a comment, and the end of the line or of all. -/
def endOfLine (cs : List Char) : Option (List Char) :=
  match skipComment (skipBlanks cs) with
  | [] => some []
  | cs => newline? cs

/-- The character of a code point written in hexadecimal digits. -/
def codePoint? (digits : List Char) : Option Char := do
  let n ← Decimal.digitsOfBase? 16 digits
  if n.isValidChar then some (Char.ofNat n) else none

/-- Reads what follows a backslash. -/
def escape : Reader Char
  | 'b' :: cs => some ('\x08', cs)
  | 't' :: cs => some ('\t', cs)
  | 'n' :: cs => some ('\n', cs)
  | 'f' :: cs => some ('\x0c', cs)
  | 'r' :: cs => some ('\r', cs)
  | '"' :: cs => some ('"', cs)
  | '\\' :: cs => some ('\\', cs)
  | 'u' :: cs =>
    if cs.length < 4 then none else (codePoint? (cs.take 4)).map fun c => (c, cs.drop 4)
  | 'U' :: cs =>
    if cs.length < 8 then none else (codePoint? (cs.take 8)).map fun c => (c, cs.drop 8)
  | _ => none

/-- Reads a string up to its double quote. -/
def basicBody : (fuel : Nat) → Reader (List Char)
  | 0, _ => none
  | fuel + 1, cs =>
    match cs with
    | '"' :: rest => some ([], rest)
    | '\\' :: rest => do
      let (c, rest) ← escape rest
      let (body, rest) ← basicBody fuel rest
      return (c :: body, rest)
    | c :: rest =>
      if isPlain c then do
        let (body, rest) ← basicBody fuel rest
        return (c :: body, rest)
      else none
    | [] => none

/-- Reads a string of several lines up to its three quotes; up to two more quotes in front of them
belong to the string. With `escapes`, a backslash begins an escape, or joins lines. -/
def longBody (quote : Char) (escapes : Bool) : (fuel : Nat) → Reader (List Char)
  | 0, _ => none
  | fuel + 1, cs =>
    let quotes := min (cs.takeWhile (· == quote)).length 5
    if 3 ≤ quotes then some (List.replicate (quotes - 3) quote, cs.drop quotes)
    else
      match cs with
      | '\r' :: '\n' :: rest => do
        let (body, rest) ← longBody quote escapes fuel rest
        return ('\n' :: body, rest)
      | c :: rest =>
        if escapes && c == '\\' then
          match newline? (skipBlanks rest) with
          | some rest => longBody quote escapes fuel (skipLines rest)
          | none => do
            let (c, rest) ← escape rest
            let (body, rest) ← longBody quote escapes fuel rest
            return (c :: body, rest)
        else if isPlain c || c == '\n' then do
          let (body, rest) ← longBody quote escapes fuel rest
          return (c :: body, rest)
        else none
      | [] => none

/-- Reads a string of one line between single quotes. -/
def literalBody (cs : List Char) : Option (List Char × List Char) :=
  let body := cs.takeWhile fun c => isPlain c && c != '\''
  match cs.drop body.length with
  | '\'' :: rest => some (body, rest)
  | _ => none

/-- Without one line end in front. -/
def dropNewline (cs : List Char) : List Char :=
  (newline? cs).getD cs

/-- Reads a string in one of its four forms. -/
def string (cs : List Char) : Option (String × List Char) := do
  let (body, rest) ←
    match cs with
    | '"' :: '"' :: '"' :: rest => longBody '"' true cs.length (dropNewline rest)
    | '\'' :: '\'' :: '\'' :: rest => longBody '\'' false cs.length (dropNewline rest)
    | '"' :: rest => basicBody cs.length rest
    | '\'' :: rest => literalBody rest
    | _ => none
  return (String.ofList body, rest)

/-- What a key may hold without quotes. -/
def isBareKeyChar (c : Char) : Bool :=
  c.isAlphanum || c == '_' || c == '-'

/-- Reads one key, bare or as a string of one line. -/
def key (cs : List Char) : Option (String × List Char) :=
  match cs with
  | '"' :: rest => (basicBody cs.length rest).map fun (s, rest) => (String.ofList s, rest)
  | '\'' :: rest => (literalBody rest).map fun (s, rest) => (String.ofList s, rest)
  | _ =>
    let name := cs.takeWhile isBareKeyChar
    if name.isEmpty then none else some (String.ofList name, cs.drop name.length)

/-- Reads keys with points between them and blanks around each. -/
def keys : (fuel : Nat) → Reader (List String)
  | 0, _ => none
  | fuel + 1, cs => do
    let (k, rest) ← key (skipBlanks cs)
    match skipBlanks rest with
    | '.' :: rest => do
      let (ks, rest) ← keys fuel rest
      return (k :: ks, rest)
    | rest => return ([k], rest)

/-- Nesting of arrays and tables and length of dotted keys stay below this. -/
def depthLimit : Nat := 80

/-- Reads a dotted key: the keys of the tables on the way, and the last key. -/
def keyPath (cs : List Char) : Option ((List String × String) × List Char) := do
  let (ks, rest) ← keys cs.length cs
  if depthLimit ≤ ks.length then none
  else
    let last ← ks.getLast?
    return ((ks.dropLast, last), rest)

end SpatialAccess.Toml
