import RaftMysql.Json.Basic

/-!
# JSON as it was written

A `Document` keeps what a `Json` value forgets: the order of members, members given twice, and
parts that are well formed but stand for no value (a text with half a surrogate pair, a number
beyond the range of doubles, a container nested too deep), which only a reader that skips them may
meet. `Json.ofDocument?` takes the last of several members under one key.
-/

namespace RaftMysql

/-- A JSON text as a tree. -/
inductive Document where
  | null
  | flag (value : Bool)
  | int (value : Int)
  | double (bits : UInt64)
  | text (value : String)
  | unusable
  | list (items : List Document)
  | record (members : List (String × Document))
  deriving Repr, Inhabited

/-- The document is `null`. -/
def Document.isNull : Document → Bool
  | .null => true
  | _ => false

mutual

/-- The value of a document, unless it holds a scalar that stands for none. -/
def Json.ofDocument? : Document → Option Json
  | .null => some .null
  | .flag b => some (.flag b)
  | .int n => some (.int n)
  | .double bits => some (.double bits)
  | .text s => some (.text s)
  | .unusable => none
  | .list xs => (ofDocuments? xs).map .list
  | .record members => (ofMembers? members).map fun ms => .object (Table.ofPairs ms)

/-- The values of several documents. -/
def Json.ofDocuments? : List Document → Option (List Json)
  | [] => some []
  | d :: ds => do return (← ofDocument? d) :: (← ofDocuments? ds)

/-- The values of members, in their order. -/
def Json.ofMembers? : List (String × Document) → Option (List (String × Json))
  | [] => some []
  | (key, d) :: ds => do return (key, ← ofDocument? d) :: (← ofMembers? ds)

end

mutual

/-- A value as a document. -/
def Document.ofJson : Json → Document
  | .null => .null
  | .flag b => .flag b
  | .int n => .int n
  | .double bits => .double bits
  | .text s => .text s
  | .list xs => .list (ofItems xs)
  | .object members => .record (ofMembers members)

/-- The documents of several values. -/
def Document.ofItems : List Json → List Document
  | [] => []
  | x :: xs => ofJson x :: ofItems xs

/-- The documents of members. -/
def Document.ofMembers : List (String × Json) → List (String × Document)
  | [] => []
  | (key, x) :: xs => (key, ofJson x) :: ofMembers xs

end

end RaftMysql
