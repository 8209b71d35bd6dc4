import SpatialAccess.Text.Invisible

/-!
# Quoted texts in messages

A text stands between double quotes. A double quote, a backslash, newline, carriage return, tab and
NUL are written with a backslash; any other character that does not show is written as its code
point in hexadecimal. A single quote and everything visible stay as they are.

* `Text.quote`: the quoted form.
-/

namespace SpatialAccess.Text

/-- The written form of one character inside quotes. -/
def quoteChar (c : Char) : List Char :=
  if c = '"' then ['\\', '"']
  else if c = '\\' then ['\\', '\\']
  else if c = '\n' then ['\\', 'n']
  else if c = '\r' then ['\\', 'r']
  else if c = '\t' then ['\\', 't']
  else if c.toNat = 0 then ['\\', '0']
  else if isInvisible c then
    ['\\', 'u', '\x7b'] ++ Nat.toDigits 16 c.toNat ++ ['\x7d']
  else [c]

/-- A text between double quotes. -/
def quote (s : String) : String :=
  String.ofList ('"' :: s.toList.flatMap quoteChar ++ ['"'])

end SpatialAccess.Text
