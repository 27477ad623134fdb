/-!
# White space

`isBlank` is the white-space property of the character standard, 25 code points kept as the ranges
`blankRanges`; `trimBlanks` removes such characters from both ends of a text. Core's class of white
space, `Char.isWhitespace`, holds four of them only.
-/

namespace RaftMysql.Text

/-- The code points of white space, as closed ranges in ascending order. -/
def blankRanges : List (Nat × Nat) :=
  [(0x09, 0x0D), (0x20, 0x20), (0x85, 0x85), (0xA0, 0xA0), (0x1680, 0x1680), (0x2000, 0x200A),
   (0x2028, 0x2029), (0x202F, 0x202F), (0x205F, 0x205F), (0x3000, 0x3000)]

/-- White space in the sense of the character standard. -/
def isBlank (c : Char) : Bool :=
  blankRanges.any fun r => r.1 ≤ c.toNat && c.toNat ≤ r.2

/-- A text without the white space at its two ends, as characters. -/
def trimBlankList (cs : List Char) : List Char :=
  ((cs.dropWhile isBlank).reverse.dropWhile isBlank).reverse

/-- A text without the white space at its two ends. -/
def trimBlanks (s : String) : String :=
  String.ofList (trimBlankList s.toList)

end RaftMysql.Text
