import RaftMysql.Json.Document
import RaftMysql.Decimal.Literal

/-!
# The tokens of JSON texts

`Token.scan?` splits a text into punctuation, texts and other scalars, one character at a time. A
token already carries its value: whole numbers that fit 64 bits are exact, and all other numbers
become the double that `doubleOf?` computes from at most twenty leading digits and one power of ten.
-/

namespace RaftMysql.Json

/-- A token: punctuation, a text unless its escapes stand for none, or another scalar. -/
inductive Token where
  | openList
  | closeList
  | openRecord
  | closeRecord
  | colon
  | comma
  | text (value : Option String)
  | scalar (value : Document)
  deriving Repr

namespace Token

/-- The leading digits that fit 64 bits, and how many digits were left out. -/
def leadingDigits : Nat → List Char → Nat × Nat
  | n, [] => (n, 0)
  | n, c :: cs =>
    let m := n * 10 + (c.toNat - 48)
    if m < Nat.pow 2 64 then leadingDigits m cs else (n, (c :: cs).length)

/-- The double for digits times a power of ten: one rounded product or quotient, split where the
power itself would leave the range of doubles. Too large a number has none. -/
def doubleOf? (digits : Nat) (exponent : Int) : Option Float :=
  let scaled : Float :=
    if 0 ≤ exponent then Float.ofNat digits * Decimal.nearest 1 exponent
    else if -308 ≤ exponent then Float.ofNat digits / Decimal.nearest 1 (-exponent)
    else if -616 ≤ exponent then
      Float.ofNat digits / Decimal.nearest 1 308 / Decimal.nearest 1 (-exponent - 308)
    else 0
  if digits = 0 then some 0
  else if scaled.isInf then none
  else some scaled

/-- The value of an unsigned number with a fraction or an exponent. -/
def readDouble (negative : Bool) (whole fraction : List Char) (exponent : Int) : Document :=
  let (n, dropped) := leadingDigits 0 whole
  let (digits, unread) := leadingDigits n fraction
  match doubleOf? digits (exponent + dropped + unread - fraction.length) with
  | none => .unusable
  | some x => .double (if negative then -x else x).toBits

/-- A number: a sign, a whole part without needless zeros, a fraction, an exponent. -/
def readNumber? (cs : List Char) : Option Document :=
  let (negative, cs) := match cs with
    | '-' :: cs => (true, cs)
    | cs => (false, cs)
  let whole := cs.takeWhile Decimal.isDigit
  let rest := cs.dropWhile Decimal.isDigit
  if whole = [] ∨ (whole.head? = some '0' ∧ whole.length ≠ 1) then none
  else
    let (fraction, tail) := Decimal.readFraction rest
    if rest.head? = some '.' ∧ fraction = [] then none
    else match tail with
      | [] =>
        if rest.head? = some '.' then some (readDouble negative whole fraction 0)
        else
          let n := Decimal.numeral whole
          if negative then
            if n ≠ 0 ∧ n ≤ Nat.pow 2 63 then some (.int (-(n : Int)))
            else some (readDouble true whole [] 0)
          else if n < Nat.pow 2 64 then some (.int n)
          else some (readDouble false whole [] 0)
      | c :: ds =>
        if c = 'e' ∨ c = 'E' then
          (Decimal.readExponent? ds).map fun e => readDouble negative whole fraction e
        else none

/-- A word: one of the three that JSON knows. -/
def readWord? (cs : List Char) : Option Document :=
  match cs with
  | ['n', 'u', 'l', 'l'] => some .null
  | ['t', 'r', 'u', 'e'] => some (.flag true)
  | ['f', 'a', 'l', 's', 'e'] => some (.flag false)
  | _ => none

/-- The characters for code units, with surrogates paired up; half a pair has none. -/
def pairUnits? : List Nat → Option (List Char)
  | [] => some []
  | high :: rest =>
    if 0xD800 ≤ high ∧ high ≤ 0xDBFF then
      match rest with
      | [] => none
      | low :: rest =>
        if 0xDC00 ≤ low ∧ low ≤ 0xDFFF then
          (pairUnits? rest).map
            (Char.ofNat (0x10000 + (high - 0xD800) * 0x400 + (low - 0xDC00)) :: ·)
        else none
    else if 0xDC00 ≤ high ∧ high ≤ 0xDFFF then none
    else (pairUnits? rest).map (Char.ofNat high :: ·)

/-- A text from its code units. -/
def readText (units : List Nat) : Option String := (pairUnits? units).map String.ofList

/-- The value of a hexadecimal digit. -/
def hexValue? (c : Char) : Option Nat :=
  if Decimal.isDigit c then some (c.toNat - 48)
  else if 'a' ≤ c ∧ c ≤ 'f' then some (c.toNat - 87)
  else if 'A' ≤ c ∧ c ≤ 'F' then some (c.toNat - 55)
  else none

/-- Where the scanner stands: between tokens, or inside one whose beginning is kept in reverse. -/
inductive Place where
  | between
  | word (read : List Char)
  | number (read : List Char)
  | inText (read : List Nat)
  | escape (read : List Nat)
  | hex (read : List Nat) (missing : Nat) (value : Nat)

/-- A letter of a word. -/
def isLetter (c : Char) : Bool := 'a' ≤ c && c ≤ 'z'

/-- A character of a number. -/
def isNumeric (c : Char) : Bool :=
  Decimal.isDigit c || c == '-' || c == '+' || c == '.' || c == 'e' || c == 'E'

/-- A character between tokens. -/
def begin? (c : Char) : Option (Place × List Token) :=
  if c = ' ' ∨ c = '\n' ∨ c = '\t' ∨ c = '\r' then some (.between, [])
  else if c = '[' then some (.between, [.openList])
  else if c = ']' then some (.between, [.closeList])
  else if c = '\x7b' then some (.between, [.openRecord])
  else if c = '\x7d' then some (.between, [.closeRecord])
  else if c = ':' then some (.between, [.colon])
  else if c = ',' then some (.between, [.comma])
  else if c = '"' then some (.inText [], [])
  else if isNumeric c then some (.number [c], [])
  else if isLetter c then some (.word [c], [])
  else none

/-- The unit that a one-letter escape stands for. -/
def escaped? (c : Char) : Option Nat :=
  if c = '"' ∨ c = '\\' ∨ c = '/' then some c.toNat
  else if c = 'b' then some 8
  else if c = 'f' then some 12
  else if c = 'n' then some 10
  else if c = 'r' then some 13
  else if c = 't' then some 9
  else none

/-- One character: the place after it and the tokens that it completes. -/
def advance? (place : Place) (c : Char) : Option (Place × List Token) :=
  match place with
  | .between => begin? c
  | .word read =>
    if isLetter c then some (.word (c :: read), [])
    else do
      let value ← readWord? read.reverse
      let (place, tokens) ← begin? c
      return (place, .scalar value :: tokens)
  | .number read =>
    if isNumeric c then some (.number (c :: read), [])
    else do
      let value ← readNumber? read.reverse
      let (place, tokens) ← begin? c
      return (place, .scalar value :: tokens)
  | .inText read =>
    if c = '"' then some (.between, [.text (readText read.reverse)])
    else if c = '\\' then some (.escape read, [])
    else if c.toNat < 0x20 then none
    else some (.inText (c.toNat :: read), [])
  | .escape read =>
    if c = 'u' then some (.hex read 4 0, [])
    else (escaped? c).map fun unit => (.inText (unit :: read), [])
  | .hex read missing value => do
    let digit ← hexValue? c
    let value := value * 16 + digit
    if missing ≤ 1 then return (.inText (value :: read), [])
    else return (.hex read (missing - 1) value, [])

/-- The tokens that the end of the text completes. -/
def finish? : Place → Option (List Token)
  | .between => some []
  | .word read => (readWord? read.reverse).map ([.scalar ·])
  | .number read => (readNumber? read.reverse).map ([.scalar ·])
  | _ => none

/-- The tokens of the characters from a place on, after those already found, in reverse. -/
def scanFrom? (place : Place) (found : List Token) : List Char → Option (List Token)
  | [] => (finish? place).map fun tokens => found.reverse ++ tokens
  | c :: cs =>
    match advance? place c with
    | none => none
    | some (place, tokens) => scanFrom? place (tokens.reverse ++ found) cs

/-- The tokens of a text. -/
def scan? (s : String) : Option (List Token) :=
  scanFrom? .between [] s.toList

end Token

end RaftMysql.Json
