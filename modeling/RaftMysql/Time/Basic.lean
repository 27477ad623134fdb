/-!
# Moments and lengths of time

A `Duration` is a number of nanoseconds. A `Time` is a moment in universal time, to the nanosecond;
during a leap second its nanoseconds run on past a thousand million. `Time.since` is the signed
length of time between two moments.
-/

namespace RaftMysql

/-- A length of time in nanoseconds. -/
abbrev Duration := Nat

namespace Duration

/-- So many milliseconds. -/
def ofMillis (n : Nat) : Duration := n * 1000000

/-- So many seconds. -/
def ofSeconds (n : Nat) : Duration := n * 1000000000

/-- The whole seconds of a length of time. -/
def seconds (d : Duration) : Nat := d / 1000000000

/-- The nanoseconds beyond the whole seconds. -/
def subsecond (d : Duration) : Nat := d % 1000000000

/-- The whole milliseconds of a length of time. -/
def millis (d : Duration) : Nat := d / 1000000

/-- A length of time in seconds: its milliseconds as a double, divided by a thousand. -/
def inSeconds (d : Duration) : Float :=
  (Float.ofNat (millis d) + Float.ofNat (d % 1000000) / 1000000) / 1000

end Duration

/-- A moment: seconds since the beginning of 1970 and nanoseconds within the second. -/
structure Time where
  seconds : Int
  nanos : Nat
  deriving DecidableEq, Repr, Inhabited

namespace Time

/-- The first moment is not after the second. -/
def notAfter (a b : Time) : Bool :=
  a.seconds < b.seconds || (a.seconds == b.seconds && a.nanos ≤ b.nanos)

/-- The earlier of two moments. -/
def earlier (a b : Time) : Time := if b.notAfter a then b else a

/-- The moment lies in a leap second. -/
def isLeap (t : Time) : Bool := 1000000000 ≤ t.nanos

/-- The moment at which its second began. -/
def wholeSecond (t : Time) : Time := { t with nanos := if t.isLeap then 1000000000 else 0 }

/-- The seconds that a leap second adds between two moments, told by their times of day. -/
def leapAdjustment (t start : Time) : Int :=
  let a := t.seconds % 86400
  let b := start.seconds % 86400
  if b < a then if start.isLeap then 1 else 0
  else if a < b then if t.isLeap then -1 else 0
  else 0

/-- The nanoseconds from one moment to another, negative when the other comes first. -/
def since (t start : Time) : Int :=
  (t.seconds - start.seconds + leapAdjustment t start) * 1000000000
    + ((t.nanos : Int) - start.nanos)

/-- The moment a length of time later. -/
def after (t : Time) (d : Duration) : Time :=
  let nanos := t.nanos + d
  if t.isLeap then
    if nanos < 2000000000 then ⟨t.seconds, nanos⟩
    else
      let rest := nanos - 1000000000
      ⟨t.seconds + (rest / 1000000000 : Nat), rest % 1000000000⟩
  else ⟨t.seconds + (nanos / 1000000000 : Nat), nanos % 1000000000⟩

end Time

end RaftMysql
