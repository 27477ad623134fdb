import RaftMysql.Json.Basic
import RaftMysql.Decimal.Shortest

/-!
# Writing JSON

`Json.write` is the compact text of a value: no blanks, members in key order, doubles by their
shortest digits with a fraction or an exponent, and escapes for quotes, backslashes and controls
only.
-/

namespace RaftMysql.Json

/-- A hexadecimal digit. -/
def hexDigit (n : Nat) : Char := if n < 10 then Char.ofNat (48 + n) else Char.ofNat (87 + n)

/-- A character inside a written text. -/
def writeChar (c : Char) : List Char :=
  if c = '"' then ['\\', '"']
  else if c = '\\' then ['\\', '\\']
  else if c.toNat = 8 then ['\\', 'b']
  else if c.toNat = 9 then ['\\', 't']
  else if c.toNat = 10 then ['\\', 'n']
  else if c.toNat = 12 then ['\\', 'f']
  else if c.toNat = 13 then ['\\', 'r']
  else if c.toNat < 0x20 then ['\\', 'u', '0', '0', hexDigit (c.toNat / 16), hexDigit (c.toNat % 16)]
  else [c]

/-- A text between double quotes. -/
def writeText (s : String) : String :=
  String.ofList ('"' :: s.toList.flatMap writeChar ++ ['"'])

mutual

/-- The compact text of a value. -/
def write : Json → String
  | .null => "null"
  | .flag true => "true"
  | .flag false => "false"
  | .int n => toString n
  | .double bits => Decimal.scientific bits
  | .text s => writeText s
  | .list items => "[" ++ ",".intercalate (writeItems items) ++ "]"
  | .object members => "\x7b" ++ ",".intercalate (writeMembers members) ++ "\x7d"

/-- The texts of several values. -/
def writeItems : List Json → List String
  | [] => []
  | x :: xs => write x :: writeItems xs

/-- The texts of members, each a key and a value. -/
def writeMembers : List (String × Json) → List String
  | [] => []
  | (key, x) :: xs => (writeText key ++ ":" ++ write x) :: writeMembers xs

end

end RaftMysql.Json
