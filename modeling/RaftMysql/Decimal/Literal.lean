/-!
# Decimal literals

A literal is an optional sign, digits with at most one point and at least one digit, and an optional
exponent. `readUnsigned?` reads one without sign, `read?` one with sign. The value stays exact, as an
integer times a power of ten; `Literal.nearest` is the double closest to it.
-/

namespace RaftMysql.Decimal

/-- A decimal digit. -/
def isDigit (c : Char) : Bool := '0' ≤ c && c ≤ '9'

/-- The number that a row of digits stands for. -/
def numeral (cs : List Char) : Nat :=
  cs.foldl (fun n c => n * 10 + (c.toNat - 48)) 0

/-- How many decimal digits a number has; zero has one. -/
def width (n : Nat) : Nat := (Nat.toDigits 10 n).length

/-- An exact decimal value, `digits` times ten to the power `exponent`, with a sign. -/
structure Literal where
  negative : Bool
  digits : Nat
  exponent : Int
  deriving DecidableEq, Repr

/-- The digits of an exponent, with an optional sign before them. -/
def readExponent? (cs : List Char) : Option Int :=
  match cs with
  | '-' :: ds => if ds ≠ [] ∧ ds.all isDigit then some (-(numeral ds : Int)) else none
  | '+' :: ds => if ds ≠ [] ∧ ds.all isDigit then some (numeral ds) else none
  | ds => if ds ≠ [] ∧ ds.all isDigit then some (numeral ds) else none

/-- The fraction digits after an optional point, and what follows them. -/
def readFraction (cs : List Char) : List Char × List Char :=
  match cs with
  | '.' :: rest => (rest.takeWhile isDigit, rest.dropWhile isDigit)
  | _ => ([], cs)

/-- A literal without sign that takes up the whole text. -/
def readUnsigned? (cs : List Char) : Option Literal :=
  let whole := cs.takeWhile isDigit
  let (fraction, rest) := readFraction (cs.dropWhile isDigit)
  if whole ++ fraction = [] then none
  else
    let scale : Int := -(fraction.length : Int)
    match rest with
    | [] => some ⟨false, numeral (whole ++ fraction), scale⟩
    | c :: ds =>
      if c = 'e' ∨ c = 'E' then
        (readExponent? ds).map fun e => ⟨false, numeral (whole ++ fraction), scale + e⟩
      else none

/-- A literal with an optional sign that takes up the whole text. -/
def read? (cs : List Char) : Option Literal :=
  match cs with
  | '-' :: ds => (readUnsigned? ds).map fun l => { l with negative := true }
  | '+' :: ds => readUnsigned? ds
  | ds => readUnsigned? ds

/-- The double closest to `digits` times ten to the power `exponent`, ties to even. Values beyond
the range of doubles are told by their size alone, so that no large power of ten is computed. -/
def nearest (digits : Nat) (exponent : Int) : Float :=
  let size : Int := width digits + exponent
  if digits = 0 then 0
  else if 310 < size then 1 / 0
  else if size < -330 then 0
  else Float.ofScientific digits (exponent < 0) exponent.natAbs

/-- The double closest to a literal. -/
def Literal.nearest (l : Literal) : Float :=
  let x := Decimal.nearest l.digits l.exponent
  if l.negative then -x else x

/-- A double from its text: a literal, or in any case one of the words for infinity and for no
number, with an optional sign. -/
def readFloat? (s : String) : Option Float :=
  match read? s.toList with
  | some l => some l.nearest
  | none =>
    let (negative, word) := match s.toList with
      | '-' :: cs => (true, cs)
      | '+' :: cs => (false, cs)
      | cs => (false, cs)
    let word := String.ofList (word.map Char.toLower)
    let infinite : Float := 1 / 0
    if word = "inf" ∨ word = "infinity" then some (if negative then -infinite else infinite)
    else if word = "nan" then some (0 / 0)
    else none

end RaftMysql.Decimal
