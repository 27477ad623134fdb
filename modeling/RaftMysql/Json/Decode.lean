import RaftMysql.Json.Document
import RaftMysql.Time.Rfc3339

/-!
# Reading typed values

Readers take a document to a value of some type and refuse everything else: numbers, texts and truth
values are never turned into each other, whole numbers must be written as such and fit, and `null`
stands for absence only where something may be absent. A structure is written as a record, whose
unknown members are passed over and whose known ones stand at most once, or as a list of its fields
in their declared order.
-/

namespace RaftMysql.Document

/-- A reader of typed values. -/
abbrev Reader (α : Type) := Document → Option α

variable {α : Type}

/-- A text. -/
def text? : Reader String
  | .text s => some s
  | _ => none

/-- A truth value. -/
def flag? : Reader Bool
  | .flag b => some b
  | _ => none

/-- A whole number between two bounds. -/
def intBetween? (low high : Int) : Reader Int
  | .int n => if low ≤ n ∧ n ≤ high then some n else none
  | _ => none

/-- A whole number of 32 bits with sign. -/
def int32? : Reader Int := intBetween? (-2147483648) 2147483647

/-- A whole number of 64 bits with sign. -/
def int64? : Reader Int := intBetween? (-9223372036854775808) 9223372036854775807

/-- A whole number of 32 bits without sign. -/
def nat32? : Reader Nat := fun d => (intBetween? 0 4294967295 d).map Int.toNat

/-- A whole number of 16 bits without sign. -/
def nat16? : Reader Nat := fun d => (intBetween? 0 65535 d).map Int.toNat

/-- A moment. -/
def time? : Reader Time := fun d => (text? d).bind Time.read?

/-- A value that may be absent. -/
def optional? (read : Reader α) : Reader (Option α)
  | .null => some none
  | d => (read d).map some

/-- A list. -/
def list? (read : Reader α) : Reader (List α)
  | .list items => items.mapM read
  | _ => none

/-- A table; of several values under one key the last stays. -/
def table? (read : Reader α) : Reader (Table α)
  | .record members =>
    (members.mapM fun m => (read m.2).map fun v => (m.1, v)).map Table.ofPairs
  | _ => none

/-- One of several names, as a text or as a record with that name over `null`. -/
def oneOf? (names : List (String × α)) : Reader α
  | .text s => names.lookup s
  | .record [(s, .null)] => names.lookup s
  | _ => none

/-- What a structure's fields were given as, by their names. -/
def fields? (names : List String) : Reader (String → Option Document)
  | .record members =>
    if names.all fun name => (members.filter (·.1 == name)).length ≤ 1 then
      some fun name => members.lookup name
    else none
  | .list items =>
    if items.length ≤ names.length then some fun name => (names.zip items).lookup name else none
  | _ => none

/-- What the fields of a structure were given as, by their names, if a list of them has to be
complete. -/
def allFields? (names : List String) : Reader (String → Option Document)
  | .list items => if items.length = names.length then fields? names (.list items) else none
  | d => fields? names d

/-- A field that may be left out, for its default. -/
def field (given : String → Option Document) (name : String) (read : Reader α) (default : α) :
    Option α :=
  match given name with
  | some d => read d
  | none => some default

/-- A field that must be there. -/
def required (given : String → Option Document) (name : String) (read : Reader α) : Option α :=
  (given name).bind read

end RaftMysql.Document
