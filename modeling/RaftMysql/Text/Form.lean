/-!
# Form encoding

Texts as they stand in the query of a URL: letters, digits and four marks stand for themselves, a
blank is a plus sign, and every other byte is written with a percent sign and two hexadecimal digits.
-/

namespace RaftMysql.Text.Form

/-- A byte that stands for itself. -/
def isPlain (b : UInt8) : Bool :=
  (48 ≤ b && b ≤ 57) || (65 ≤ b && b ≤ 90) || (97 ≤ b && b ≤ 122) || b == 42 || b == 45 || b == 46
    || b == 95

/-- A hexadecimal digit in capitals. -/
def digit (n : Nat) : Char := if n < 10 then Char.ofNat (48 + n) else Char.ofNat (55 + n)

/-- A byte in form encoding. -/
def encodeByte (b : UInt8) : List Char :=
  if b == 32 then ['+']
  else if isPlain b then [Char.ofNat b.toNat]
  else ['%', digit (b.toNat / 16), digit (b.toNat % 16)]

/-- A text in form encoding. -/
def encode (s : String) : String := String.ofList (s.toUTF8.toList.flatMap encodeByte)

end RaftMysql.Text.Form
