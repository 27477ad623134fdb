import RaftMysql.Time.Basic
import RaftMysql.Text.Blank
import RaftMysql.Decimal.Literal

/-!
# Lengths of time as text

A length of time is written as a row of numbers with units, from years down to nanoseconds, and read
back from any row of them. A year has 365.25 days and a month 30.44. Numbers may have a fraction as
long as it comes out even: in nanoseconds below the hour, in whole seconds from the hour up.
-/

namespace RaftMysql.Duration

open Text (isBlank)

/-! ### Writing -/

/-- A unit with its amount, left out when there is none of it. -/
def writePart (unit : String) (plural : Bool) (n : Nat) : List String :=
  if n = 0 then [] else [toString n ++ unit ++ if plural ∧ 1 < n then "s" else ""]

/-- A length of time in descending units. -/
def write (d : Duration) : String :=
  let s := d.seconds
  let n := d.subsecond
  let inYear := s % 31557600
  let inMonth := inYear % 2630016
  let inDay := inMonth % 86400
  if d = 0 then "0s"
  else " ".intercalate
    (writePart "year" true (s / 31557600) ++ writePart "month" true (inYear / 2630016)
      ++ writePart "day" true (inMonth / 86400) ++ writePart "h" false (inDay / 3600)
      ++ writePart "m" false (inDay % 3600 / 60) ++ writePart "s" false (inDay % 60)
      ++ writePart "ms" false (n / 1000000) ++ writePart "us" false (n / 1000 % 1000)
      ++ writePart "ns" false (n % 1000))

/-! ### Reading -/

/-- A unit: its length in nanoseconds, and whether it is an hour or longer. -/
structure Scale where
  nanos : Nat
  long : Bool
  deriving Repr, DecidableEq

/-- The unit that a word names. -/
def scale? (word : String) : Option Scale :=
  if word ∈ ["nanos", "nsec", "ns"] then some ⟨1, false⟩
  else if word ∈ ["usec", "us", "µs"] then some ⟨1000, false⟩
  else if word ∈ ["millis", "msec", "ms"] then some ⟨1000000, false⟩
  else if word ∈ ["seconds", "second", "secs", "sec", "s"] then some ⟨1000000000, false⟩
  else if word ∈ ["minutes", "minute", "mins", "min", "m"] then some ⟨60 * 1000000000, false⟩
  else if word ∈ ["hours", "hour", "hrs", "hr", "h"] then some ⟨3600 * 1000000000, true⟩
  else if word ∈ ["days", "day", "d"] then some ⟨86400 * 1000000000, true⟩
  else if word ∈ ["weeks", "week", "wks", "wk", "w"] then some ⟨604800 * 1000000000, true⟩
  else if word ∈ ["months", "month", "M"] then some ⟨2630016 * 1000000000, true⟩
  else if word ∈ ["years", "year", "yrs", "yr", "y"] then some ⟨31557600 * 1000000000, true⟩
  else none

/-- A number that must fit 64 bits. -/
def word? (n : Nat) : Option Nat := if n < Nat.pow 2 64 then some n else none

/-- A length of time with one more number of a unit, counted in a base of nanoseconds for short
units and of seconds for long ones. -/
def addCount? (total : Duration) (base count : Nat) : Option Duration := do
  let count ← word? count
  if base = 1 then let _ ← word? (total.subsecond + count)
  let sum := total + base * count
  let _ ← word? sum.seconds
  return sum

/-- A length of time with a number of a unit added: whole units and a fraction of one. -/
def add? (total : Duration) (word : String) (whole : Nat) (fraction : Option (Nat × Nat)) :
    Option Duration := do
  let scale ← scale? word
  let coarse := 1000000000
  let (base, size) :=
    if coarse ≤ scale.nanos then (coarse, scale.nanos / coarse) else (1, scale.nanos)
  let total ← addCount? total base (whole * size)
  match fraction with
  | none => return total
  | some (numerator, denominator) =>
    let (base, size) := if scale.long then (coarse, scale.nanos / coarse) else (1, scale.nanos)
    let product ← word? (numerator * size)
    if scale.nanos = 1 ∨ product % denominator ≠ 0 then none
    else addCount? total base (product / denominator)

/-- Where the reader stands: before a number, in its whole part, in its fraction, or in the unit,
whose letters are kept in reverse. -/
inductive Place where
  | start
  | whole (n : Nat)
  | fraction (n numerator denominator : Nat)
  | inUnit (n : Nat) (fraction : Option (Nat × Nat)) (letters : List Char)

/-- A letter of a unit. -/
def isUnitLetter (c : Char) : Bool :=
  ('a' ≤ c && c ≤ 'z') || ('A' ≤ c && c ≤ 'Z') || c == 'µ'

/-- The value of a digit. -/
def digitValue (c : Char) : Nat := c.toNat - 48

/-- One character. -/
def advance? (total : Duration) (place : Place) (c : Char) : Option (Duration × Place) :=
  match place with
  | .start =>
    if Decimal.isDigit c then some (total, .whole (digitValue c))
    else if isBlank c then some (total, .start)
    else none
  | .whole n =>
    if Decimal.isDigit c then (word? (n * 10 + digitValue c)).map fun n => (total, .whole n)
    else if isBlank c then some (total, .whole n)
    else if isUnitLetter c then some (total, .inUnit n none [c])
    else if c = '.' then some (total, .fraction n 0 1)
    else none
  | .fraction n numerator denominator =>
    if Decimal.isDigit c then do
      let denominator ← word? (denominator * 10)
      let numerator ← word? (numerator * 10 + digitValue c)
      return (total, .fraction n numerator denominator)
    else if isBlank c then some (total, place)
    else if isUnitLetter c ∧ denominator ≠ 1 then
      some (total, .inUnit n (some (numerator, denominator)) [c])
    else none
  | .inUnit n fraction letters =>
    if isUnitLetter c then some (total, .inUnit n fraction (c :: letters))
    else do
      let total ← add? total (String.ofList letters.reverse) n fraction
      if Decimal.isDigit c then return (total, .whole (digitValue c))
      else if isBlank c then return (total, .start)
      else none

/-- The length of time that the characters from a place on add up to. -/
def readFrom? (total : Duration) (place : Place) : List Char → Option Duration
  | [] => match place with
    | .start => some total
    | .inUnit n fraction letters => add? total (String.ofList letters.reverse) n fraction
    | _ => none
  | c :: cs => match advance? total place c with
    | none => none
    | some (total, place) => readFrom? total place cs

/-- The length of time that a text names; a lone zero needs no unit. -/
def read? (s : String) : Option Duration :=
  if s = "0" then some 0
  else if s.toList.all isBlank then none
  else readFrom? 0 .start s.toList

end RaftMysql.Duration
