import RaftMysql.Text.Blank
import RaftMysql.Decimal.Literal

/-!
# Amounts of storage

A quantity is an unsigned literal with an optional suffix: `Ki` to `Ei` for powers of 1024, `m` and
`k` to `E` for powers of 1000. `Quantity.read?` gives its size as a double. A text ending in `E` or
`e` and digits is a literal with an exponent and not one with a suffix.
-/

namespace RaftMysql.Quantity

/-- The suffixes for powers of 1024. -/
def binarySuffixes : List (List Char × Nat) :=
  [(['K', 'i'], 1), (['M', 'i'], 2), (['G', 'i'], 3), (['T', 'i'], 4), (['P', 'i'], 5),
   (['E', 'i'], 6)]

/-- The suffixes for powers of 1000. -/
def decimalSuffixes : List (List Char × Int) :=
  [(['m'], -1), (['k'], 1), (['M'], 2), (['G'], 3), (['T'], 4), (['P'], 5), (['E'], 6)]

/-- The text before a suffix, if it ends in it. -/
def before? (suffix cs : List Char) : Option (List Char) :=
  if suffix.length ≤ cs.length ∧ cs.drop (cs.length - suffix.length) = suffix then
    some (cs.take (cs.length - suffix.length))
  else none

/-- An unsigned literal with an optional plus sign, as a finite double. -/
def readNumber? (cs : List Char) : Option Float :=
  let literal? := match cs with
    | '+' :: cs => Decimal.readUnsigned? cs
    | cs => Decimal.readUnsigned? cs
  match literal? with
  | some literal => if literal.nearest.isFinite then some literal.nearest else none
  | none => none

/-- A thousand to a small power, as a factor. -/
def thousandTo (power : Int) : Float :=
  if power = -1 then 0.001 else Float.ofNat (Nat.pow 1000 power.toNat)

/-- The number before the first of the decimal suffixes that leaves one, with the suffix applied. -/
def readDecimal? (cs : List Char) : List (List Char × Int) → Option Float
  | [] => none
  | (suffix, power) :: rest =>
    match (before? suffix cs).bind readNumber? with
    | some x => some (x * thousandTo power)
    | none => readDecimal? cs rest

/-- The size of a trimmed quantity. -/
def readChars? (cs : List Char) : Option Float :=
  match binarySuffixes.findSome? fun s => (before? s.1 cs).map fun rest => (rest, s.2) with
  | some (rest, power) => (readNumber? rest).map (· * Float.ofNat (Nat.pow 1024 power))
  | none => match readDecimal? cs decimalSuffixes with
    | some x => some x
    | none => readNumber? cs

/-- The size that a quantity stands for, blanks at its ends apart. -/
def read? (s : String) : Option Float := readChars? (Text.trimBlankList s.toList)

/-- The first quantity is strictly larger than the second; never so when one is unreadable. -/
def isLarger (new old : String) : Bool :=
  match read? new, read? old with
  | some a, some b => b < a
  | _, _ => false

/-- Two quantities of one size; unreadable ones are the same when their texts are. -/
def isSame (a b : String) : Bool :=
  match read? a, read? b with
  | some x, some y => x == y
  | _, _ => a == b

end RaftMysql.Quantity
