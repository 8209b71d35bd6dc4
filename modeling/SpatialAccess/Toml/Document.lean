import SpatialAccess.Toml.Scalar

/-!
# TOML documents

* `Toml.value`: a value with everything nested in it.
* `Toml.document`: the tables of a whole text.
-/

namespace SpatialAccess.Toml

mutual

/-- Reads a value; `depth` counts the arrays and tables around it. -/
def value : (fuel depth : Nat) → Reader Value
  | 0, _, _ => none
  | fuel + 1, depth, cs =>
    match cs with
    | '"' :: _ => (string cs).map fun (s, rest) => (.text s, rest)
    | '\'' :: _ => (string cs).map fun (s, rest) => (.text s, rest)
    | '[' :: rest =>
      if depthLimit ≤ depth + 1 then none
      else (items fuel (depth + 1) rest).map fun (vs, rest) => (.array vs, rest)
    | '\x7b' :: rest =>
      if depthLimit ≤ depth + 1 then none
      else
        match skipBlanks rest with
        | '\x7d' :: rest => some (.inline [], rest)
        | rest => (pairs fuel (depth + 1) [] rest).map fun (es, rest) => (.inline es, rest)
    | _ => scalar cs

/-- Reads the items of an array up to its bracket; a comma may follow the last one. -/
def items : (fuel depth : Nat) → Reader (List Value)
  | 0, _, _ => none
  | fuel + 1, depth, cs =>
    match skipGaps cs.length cs with
    | ']' :: rest => some ([], rest)
    | cs => do
      let (v, rest) ← value fuel depth cs
      match skipGaps rest.length rest with
      | ',' :: rest => do
        let (vs, rest) ← items fuel depth rest
        return (v :: vs, rest)
      | ']' :: rest => return ([v], rest)
      | _ => none

/-- Reads the lines of a table in braces up to its brace; no comma may follow the last one. -/
def pairs : (fuel depth : Nat) → Entries → Reader Entries
  | 0, _, _, _ => none
  | fuel + 1, depth, entries, cs => do
    let ((path, last), rest) ← keyPath cs
    let rest ← mark '=' rest
    let (v, rest) ← value fuel depth (skipBlanks rest)
    let entries ← define path last v false entries
    match skipBlanks rest with
    | ',' :: rest => pairs fuel depth entries rest
    | '\x7d' :: rest => return (entries, rest)
    | _ => none

end

/-- The tables of a document so far, and the path of the table that lines go to. -/
structure Draft where
  entries : Entries := []
  path : List String := []

/-- Reads a line with a key and a value. -/
def keyLine (draft : Draft) (cs : List Char) : Option (Draft × List Char) := do
  let ((path, last), rest) ← keyPath cs
  let rest ← mark '=' rest
  let rest := skipBlanks rest
  let (v, rest) ← value (rest.length + 1) 0 rest
  let rest ← endOfLine rest
  let entries ← within false (fun own => define path last v own) draft.path false draft.entries
  return ({ draft with entries }, rest)

/-- Reads a header line behind its first bracket. -/
def headerLine (draft : Draft) (cs : List Char) : Option (Draft × List Char) :=
  match cs with
  | '[' :: rest => do
    let ((path, last), rest) ← keyPath rest
    let rest ← mark ']' rest
    let rest ← mark ']' rest
    let rest ← endOfLine rest
    let entries ← openArrayTable path last draft.entries
    return (⟨entries, path ++ [last]⟩, rest)
  | _ => do
    let ((path, last), rest) ← keyPath cs
    let rest ← mark ']' rest
    let rest ← endOfLine rest
    let entries ← openTable path last draft.entries
    return (⟨entries, path ++ [last]⟩, rest)

/-- Reads lines up to the end. -/
def lines : (fuel : Nat) → Draft → List Char → Option Entries
  | 0, _, _ => none
  | fuel + 1, draft, cs =>
    match skipBlanks cs with
    | [] => some draft.entries
    | '[' :: rest => do
      let (draft, rest) ← headerLine draft rest
      lines fuel draft rest
    | c :: rest =>
      if c == '#' || c == '\n' || c == '\r' then do
        let rest ← endOfLine (c :: rest)
        lines fuel draft rest
      else do
        let (draft, rest) ← keyLine draft (c :: rest)
        lines fuel draft rest

/-- The top-level entries of a document; nothing if it is malformed. A byte order mark in front is
skipped. -/
def document (text : String) : Option Entries :=
  let cs := match text.toList with
    | '\ufeff' :: cs => cs
    | cs => cs
  lines (cs.length + 1) {} cs

end SpatialAccess.Toml
