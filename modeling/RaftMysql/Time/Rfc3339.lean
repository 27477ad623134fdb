import RaftMysql.Time.Basic
import RaftMysql.Text.Blank
import RaftMysql.Decimal.Literal

/-!
# Moments as text

`Time.write` is the RFC 3339 form in universal time with as many of 0, 3, 6 or 9 fraction digits as
are needed. `Time.read?` also accepts looser forms: a blank between date and time, blanks before the
numbers and their separators, fields with fewer digits, a signed year, and any offset. Second 60 is
a leap second. There are moments from the year -262143 to the year 262142.
-/

namespace RaftMysql.Time

open Text (isBlank)

/-! ### The calendar -/

/-- The days from the beginning of 1970 to a date. -/
def daysOf (year : Int) (month day : Nat) : Int :=
  let y := if month ≤ 2 then year - 1 else year
  let era := y.fdiv 400
  let yearOfEra := y - era * 400
  let shifted : Int := ((month : Int) + 9) % 12
  let dayOfYear := (153 * shifted + 2) / 5 + day - 1
  let dayOfEra := yearOfEra * 365 + yearOfEra / 4 - yearOfEra / 100 + dayOfYear
  era * 146097 + dayOfEra - 719468

/-- The date so many days after the beginning of 1970: year, month and day. -/
def dateOf (days : Int) : Int × Nat × Nat :=
  let z := days + 719468
  let era := z.fdiv 146097
  let dayOfEra := z - era * 146097
  let yearOfEra := (dayOfEra - dayOfEra / 1460 + dayOfEra / 36524 - dayOfEra / 146096) / 365
  let dayOfYear := dayOfEra - (365 * yearOfEra + yearOfEra / 4 - yearOfEra / 100)
  let shifted := (5 * dayOfYear + 2) / 153
  let day := dayOfYear - (153 * shifted + 2) / 5 + 1
  let month := if shifted < 10 then shifted + 3 else shifted - 9
  (yearOfEra + era * 400 + (if month ≤ 2 then 1 else 0), month.toNat, day.toNat)

/-- A year with a 29th of February. -/
def isLeapYear (year : Int) : Bool := year % 4 == 0 && (year % 100 != 0 || year % 400 == 0)

/-- The number of days of a month. -/
def monthLength (year : Int) (month : Nat) : Nat :=
  if month = 2 then if isLeapYear year then 29 else 28
  else if month = 4 ∨ month = 6 ∨ month = 9 ∨ month = 11 then 30
  else 31

/-! ### Writing -/

/-- A number with zeros in front up to a width. -/
def padded (width n : Nat) : String :=
  let ds := Nat.toDigits 10 n
  String.ofList (List.replicate (width - ds.length) '0' ++ ds)

/-- A year: four digits, and a sign where four do not suffice. -/
def writeYear (year : Int) : String :=
  if 0 ≤ year ∧ year ≤ 9999 then padded 4 year.toNat
  else (if year < 0 then "-" else "+") ++ padded 4 year.natAbs

/-- The fraction of a second, in groups of three digits. -/
def writeFraction (nanos : Nat) : String :=
  if nanos = 0 then ""
  else if nanos % 1000000 = 0 then "." ++ padded 3 (nanos / 1000000)
  else if nanos % 1000 = 0 then "." ++ padded 6 (nanos / 1000)
  else "." ++ padded 9 nanos

/-- A moment in universal time. -/
def write (t : Time) : String :=
  let (year, month, day) := dateOf (t.seconds.fdiv 86400)
  let ofDay := (t.seconds.fmod 86400).toNat
  let second := ofDay % 60 + t.nanos / 1000000000
  writeYear year ++ "-" ++ padded 2 month ++ "-" ++ padded 2 day ++ "T"
    ++ padded 2 (ofDay / 3600) ++ ":" ++ padded 2 (ofDay / 60 % 60) ++ ":" ++ padded 2 second
    ++ writeFraction (t.nanos % 1000000000) ++ "Z"

/-! ### Reading -/

/-- What a reading step leaves of the text, with what it found. -/
abbrev Step (α : Type) := List Char → Option (α × List Char)

/-- The text from its first character that is not blank. -/
def skipBlanks (cs : List Char) : List Char := cs.dropWhile isBlank

/-- One to `limit` digits. -/
def readDigits (limit : Nat) : Step Nat := fun cs =>
  let ds := (cs.take limit).takeWhile Decimal.isDigit
  if ds = [] then none else some (Decimal.numeral ds, cs.drop ds.length)

/-- One to `limit` digits after blanks. -/
def readField (limit : Nat) : Step Nat := fun cs => readDigits limit (skipBlanks cs)

/-- A year after blanks: up to four digits, or a sign and any number of digits. -/
def readYear : Step Int := fun cs =>
  match skipBlanks cs with
  | '-' :: cs => (readDigits cs.length cs).map fun (n, rest) => (-(n : Int), rest)
  | '+' :: cs => (readDigits cs.length cs).map fun (n, rest) => ((n : Int), rest)
  | cs => (readDigits 4 cs).map fun (n, rest) => ((n : Int), rest)

/-- A given character after blanks. -/
def expect (c : Char) (cs : List Char) : Option (List Char) :=
  match skipBlanks cs with
  | d :: rest => if d = c then some rest else none
  | [] => none

/-- The nanoseconds of an optional fraction; digits beyond the ninth are passed over. -/
def readNanos : Step Nat := fun cs =>
  match cs with
  | '.' :: cs =>
    let ds := cs.takeWhile Decimal.isDigit
    let kept := ds.take 9
    if ds = [] then none
    else some (Decimal.numeral kept * Nat.pow 10 (9 - kept.length), cs.dropWhile Decimal.isDigit)
  | cs => some (0, cs)

/-- An offset from universal time in seconds: the letter for none, or a sign, hours and minutes. -/
def readOffset : Step Int := fun cs =>
  match cs with
  | 'Z' :: rest => some (0, rest)
  | 'z' :: rest => some (0, rest)
  | u :: t :: c :: rest =>
    if u.toUpper = 'U' ∧ t.toUpper = 'T' ∧ c.toUpper = 'C' then some (0, rest)
    else
      let sign? : Option Int :=
        if u = '+' then some 1
        else if u = '-' ∨ u.toNat = 0x2212 then some (-1)
        else none
      sign?.bind fun sign =>
        if Decimal.isDigit t ∧ Decimal.isDigit c then
          let hours := Decimal.numeral [t, c]
          match rest.dropWhile fun d => d = ':' || isBlank d with
          | m :: n :: rest =>
            if '0' ≤ m ∧ m ≤ '5' ∧ Decimal.isDigit n ∧ hours < 24 then
              some (sign * ((hours * 3600 + Decimal.numeral [m, n] * 60 : Nat) : Int), rest)
            else none
          | _ => none
        else none
  | _ => none

/-- The moment lies in a year that has moments, in universal time. -/
def isInRange (t : Time) : Bool :=
  daysOf (-262143) 1 1 * 86400 ≤ t.seconds && t.seconds < daysOf 262143 1 1 * 86400

/-- The moment at a date and a time of day with an offset, if there is one. -/
def ofFields? (year : Int) (month day hour minute second nanos : Nat) (offset : Int) :
    Option Time :=
  if 1 ≤ month ∧ month ≤ 12 ∧ 1 ≤ day ∧ day ≤ monthLength year month ∧ hour < 24 ∧ minute < 60 ∧
      second ≤ 60 ∧ -262143 ≤ year ∧ year ≤ 262142 then
    let ofDay : Int := (hour * 3600 + minute * 60 + min second 59 : Nat)
    let t : Time := ⟨daysOf year month day * 86400 + ofDay - offset,
      nanos + if second = 60 then 1000000000 else 0⟩
    if t.isInRange then some t else none
  else none

/-- The moment that a text names. -/
def read? (s : String) : Option Time := do
  let (year, cs) ← readYear s.toList
  let (month, cs) ← readField 2 (← expect '-' cs)
  let (day, cs) ← readField 2 (← expect '-' cs)
  let cs ← match cs with
    | c :: rest => if c = 'T' ∨ c = 't' ∨ c = ' ' then some rest else none
    | [] => none
  let (hour, cs) ← readField 2 cs
  let (minute, cs) ← readField 2 (← expect ':' cs)
  let (second, cs) ← readField 2 (← expect ':' cs)
  let (nanos, cs) ← readNanos cs
  let (offset, cs) ← readOffset (skipBlanks cs)
  if skipBlanks cs = [] then ofFields? year month day hour minute second nanos offset else none

end RaftMysql.Time
