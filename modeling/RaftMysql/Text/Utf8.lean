/-!
# Reading bytes as text

`decodeLossy` reads bytes as UTF-8. A sequence that breaks off or never was one becomes a single
replacement character for its longest valid beginning, and reading goes on with the byte after it.
`decode?` accepts well-formed bytes only.
-/

namespace RaftMysql.Text.Utf8

/-- The character that stands for bytes that cannot be read. -/
def replacement : Char := Char.ofNat 0xFFFD

/-- What a first byte of several calls for: the bounds of the byte after it, and how many further
continuation bytes follow that one. The bounds keep out overlong forms, surrogates and code points
above the last one. -/
def lead? (b : Nat) : Option (Nat × Nat × Nat) :=
  if 0xC2 ≤ b ∧ b ≤ 0xDF then some (0x80, 0xBF, 0)
  else if b = 0xE0 then some (0xA0, 0xBF, 1)
  else if b = 0xED then some (0x80, 0x9F, 1)
  else if 0xE1 ≤ b ∧ b ≤ 0xEF then some (0x80, 0xBF, 1)
  else if b = 0xF0 then some (0x90, 0xBF, 2)
  else if 0xF1 ≤ b ∧ b ≤ 0xF3 then some (0x80, 0xBF, 2)
  else if b = 0xF4 then some (0x80, 0x8F, 2)
  else none

/-- A byte that may stand at the third or fourth place of a sequence. -/
def isContinuation (b : Nat) : Bool := 0x80 ≤ b && b ≤ 0xBF

/-- One step of reading: the character, whether the bytes were well formed, and how many bytes it
took. -/
def step (b : Nat) (rest : List UInt8) : Char × Bool × Nat :=
  if b < 0x80 then (Char.ofNat b, true, 1)
  else match lead? b with
    | none => (replacement, false, 1)
    | some (low, high, more) =>
      match rest with
      | [] => (replacement, false, 1)
      | c :: rest =>
        let c := c.toNat
        if ¬(low ≤ c ∧ c ≤ high) then (replacement, false, 1)
        else if more = 0 then (Char.ofNat ((b % 0x20) * 0x40 + c % 0x40), true, 2)
        else match rest with
          | [] => (replacement, false, 2)
          | d :: rest =>
            let d := d.toNat
            if ¬isContinuation d then (replacement, false, 2)
            else if more = 1 then
              (Char.ofNat ((b % 0x10) * 0x1000 + (c % 0x40) * 0x40 + d % 0x40), true, 3)
            else match rest with
              | [] => (replacement, false, 3)
              | e :: _ =>
                let e := e.toNat
                if ¬isContinuation e then (replacement, false, 3)
                else (Char.ofNat ((b % 0x08) * 0x40000 + (c % 0x40) * 0x1000 + (d % 0x40) * 0x40
                  + e % 0x40), true, 4)

/-- The characters of a byte sequence, each with whether its bytes were well formed; `skip` bytes
were already read. -/
def pieces : Nat → List UInt8 → List (Char × Bool)
  | _, [] => []
  | skip + 1, _ :: rest => pieces skip rest
  | 0, b :: rest =>
    let (c, ok, width) := step b.toNat rest
    (c, ok) :: pieces (width - 1) rest

/-- Bytes as text, with replacement characters for what is not well formed. -/
def decodeLossy (bytes : List UInt8) : String :=
  String.ofList ((pieces 0 bytes).map (·.1))

/-- Bytes as text, if they are well formed throughout. -/
def decode? (bytes : List UInt8) : Option String :=
  let cs := pieces 0 bytes
  if cs.all (·.2) then some (String.ofList (cs.map (·.1))) else none

end RaftMysql.Text.Utf8
