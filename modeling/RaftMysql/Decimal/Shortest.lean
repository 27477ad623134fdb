import RaftMysql.Decimal.Literal

/-!
# The fewest digits that identify a double

A finite double stands for an interval of real numbers, those that are closer to it than to its
neighbours. `shortest` is a decimal in that interval with as few digits as possible and, among those,
closest to the double; which of two equally close ones is a decision of the layout. Everything is
computed on naturals. `plain` and `scientific` lay such a decimal out.
-/

namespace RaftMysql.Decimal

/-- A finite double without its sign: `mantissa` times two to the power `exponent`. -/
structure Binary where
  mantissa : Nat
  exponent : Int
  /-- The gap to the next smaller double is half the gap to the next larger one. -/
  narrowBelow : Bool
  deriving Repr, DecidableEq

/-- The double with these bits, sign apart. -/
def Binary.ofBits (bits : UInt64) : Binary :=
  let e : Nat := (bits.toNat / Nat.pow 2 52) % Nat.pow 2 11
  let f : Nat := bits.toNat % Nat.pow 2 52
  if e = 0 then ⟨f, -1074, false⟩
  else ⟨Nat.pow 2 52 + f, (e : Int) - 1075, decide (f = 0) && decide (1 < e)⟩

/-- Which of two equally close decimals of one length stands for a double. -/
inductive Tie where
  /-- The larger one. -/
  | up
  /-- The one whose last digit is even. -/
  | even
  deriving Repr, DecidableEq

/-- Digits and a power of ten. -/
structure Scaled where
  digits : Nat
  exponent : Int
  deriving Repr, DecidableEq

/-- Compare `a` times a power of ten with `b` times a power of two. -/
def compareScaled (a : Nat) (ten : Int) (b : Nat) (two : Int) : Ordering :=
  compare (a * Nat.pow 10 ten.toNat * Nat.pow 2 (-two).toNat)
    (b * Nat.pow 2 two.toNat * Nat.pow 10 (-ten).toNat)

/-- The decimal lies in the interval of the double. The ends belong to it for an even mantissa. -/
def Binary.covers (x : Binary) (d : Scaled) : Bool :=
  let low := compareScaled d.digits d.exponent
    (4 * x.mantissa - if x.narrowBelow then 1 else 2) (x.exponent - 2)
  let high := compareScaled d.digits d.exponent (4 * x.mantissa + 2) (x.exponent - 2)
  let closed := x.mantissa % 2 = 0
  (low = .gt || (closed && low = .eq)) && (high = .lt || (closed && high = .eq))

/-- The least power of ten above the double. -/
def Binary.magnitude (x : Binary) : Int :=
  let guess : Int :=
    (width (x.mantissa * Nat.pow 2 x.exponent.toNat) : Int) - width (Nat.pow 2 (-x.exponent).toNat)
  if compareScaled 1 guess x.mantissa x.exponent = .gt then guess else guess + 1

/-- The double divided by a power of ten, rounded down. -/
def Binary.floorAt (x : Binary) (ten : Int) : Nat :=
  (x.mantissa * Nat.pow 2 x.exponent.toNat * Nat.pow 10 (-ten).toNat) /
    (Nat.pow 10 ten.toNat * Nat.pow 2 (-x.exponent).toNat)

/-- Of the two neighbours of a double on a grid of decimals, the lower with digits `below`, whether
the lower one is taken, given how the middle between them compares with the double. -/
def Tie.takesLower (tie : Tie) (below : Nat) : Ordering → Bool
  | .gt => true
  | .lt => false
  | .eq => match tie with
    | .up => false
    | .even => below % 2 = 0

/-- The candidate of the grid with this power of ten that the double identifies, if any. -/
def Binary.onGrid? (x : Binary) (tie : Tie) (ten : Int) : Option Scaled :=
  let below := x.floorAt ten
  let lower : Scaled := ⟨below, ten⟩
  let upper : Scaled := ⟨below + 1, ten⟩
  match x.covers lower, x.covers upper with
  | true, true =>
    let middle := compareScaled (2 * below + 1) ten (2 * x.mantissa) x.exponent
    if tie.takesLower below middle then some lower else some upper
  | true, false => some lower
  | false, true => some upper
  | false, false => none

/-- Digits without the zeros at their end. -/
def Scaled.strip (d : Scaled) : Nat → Scaled
  | 0 => d
  | fuel + 1 =>
    if d.digits ≠ 0 ∧ d.digits % 10 = 0 then
      Scaled.strip ⟨d.digits / 10, d.exponent + 1⟩ fuel
    else d

/-- The shortest decimal of a positive double. Seventeen digits always suffice; were they not to,
the exact value stands in. -/
def Binary.shortest (x : Binary) (tie : Tie) : Scaled :=
  let k := x.magnitude
  let found := (List.range 17).findSome? fun (n : Nat) => x.onGrid? tie (k - (n + 1 : Nat))
  let d := found.getD
    ⟨x.mantissa * Nat.pow 2 x.exponent.toNat * Nat.pow 5 (-x.exponent).toNat, min x.exponent 0⟩
  d.strip (width d.digits)

/-- The sign bit of a double is set. -/
def isNegative (bits : UInt64) : Bool := Nat.pow 2 63 ≤ bits.toNat

/-- The double is neither infinite nor no number at all. -/
def isFinite (bits : UInt64) : Bool := (bits.toNat / Nat.pow 2 52) % Nat.pow 2 11 ≠ 2047

/-- Digits with a point, without exponent; a whole number has no point. -/
def Scaled.plain (d : Scaled) : String :=
  let ds := Nat.toDigits 10 d.digits
  if 0 ≤ d.exponent then String.ofList (ds ++ List.replicate d.exponent.toNat '0')
  else
    let places := d.exponent.natAbs
    if places < ds.length then
      String.ofList (ds.take (ds.length - places) ++ '.' :: ds.drop (ds.length - places))
    else String.ofList ('0' :: '.' :: List.replicate (places - ds.length) '0' ++ ds)

/-- A double by its shortest digits, written out in full however large or small. Of two equally
close decimals it is the larger. -/
def plain (x : Float) : String :=
  let bits := x.toBits
  if x.isNaN then "NaN"
  else
    let sign := if isNegative bits then "-" else ""
    if !isFinite bits then sign ++ "inf"
    else if bits.toNat % Nat.pow 2 63 = 0 then sign ++ "0"
    else sign ++ ((Binary.ofBits bits).shortest .up).plain

/-- Digits laid out as a number with a fraction or an exponent: written out between a hundred
thousandth and ten to the sixteenth, otherwise with an exponent, which always shows its sign. -/
def Scaled.scientific (d : Scaled) : String :=
  let ds := Nat.toDigits 10 d.digits
  let point : Int := ds.length + d.exponent
  if 0 ≤ d.exponent ∧ point ≤ 16 then d.plain ++ ".0"
  else if -5 < point ∧ point ≤ 16 then d.plain
  else
    let mantissa := match ds with
      | [c] => String.ofList [c]
      | c :: cs => String.ofList (c :: '.' :: cs)
      | [] => "0"
    mantissa ++ (if 0 < point then "e+" else "e-") ++ toString (point - 1).natAbs

/-- A finite double as a number that reads back as a double and not as an integer. Of two equally
close decimals it is the one that ends in an even digit. -/
def scientific (bits : UInt64) : String :=
  let sign := if isNegative bits then "-" else ""
  if bits.toNat % Nat.pow 2 63 = 0 then sign ++ "0.0"
  else sign ++ ((Binary.ofBits bits).shortest .even).scientific

end RaftMysql.Decimal
