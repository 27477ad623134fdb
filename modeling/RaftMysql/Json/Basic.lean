import RaftMysql.Table

/-!
# JSON values

A value is one of the seven shapes below. Whole numbers are kept exactly; a number written with a
fraction or an exponent is a double, held as its bits, and differs from the whole number of the same
size. The members of an object stand in key order. `Json.same` compares values as numbers are
compared, so that the two zeros of doubles count as one.
-/

namespace RaftMysql

/-- A JSON value. -/
inductive Json where
  | null
  | flag (value : Bool)
  | int (value : Int)
  | double (bits : UInt64)
  | text (value : String)
  | list (items : List Json)
  | object (members : List (String × Json))
  deriving Repr, Inhabited

namespace Json

/-- An object of the members that are present. -/
def ofMembers (members : List (String × Option Json)) : Json :=
  .object (Table.ofPairs (members.filterMap fun m => m.2.map fun v => (m.1, v)))

/-- An object of the given members. -/
def ofPairs (members : List (String × Json)) : Json := .object (Table.ofPairs members)

/-- An object whose members are all texts. -/
def ofTexts (t : Table String) : Json := .object (t.map fun p => (p.1, .text p.2))

/-- The member of an object under a key. -/
def member? (key : String) : Json → Option Json
  | .object members => Table.get? members key
  | _ => none

/-- The member at the end of a path of keys. -/
def at? (v : Json) : List String → Option Json
  | [] => some v
  | key :: path => (v.member? key).bind (at? · path)

/-- The text that the value is, if it is one. -/
def asText? : Json → Option String
  | .text s => some s
  | _ => none

/-- The whole number that the value is, if it is one. -/
def asInt? : Json → Option Int
  | .int n => some n
  | _ => none

/-- The truth value that the value is, if it is one. -/
def asFlag? : Json → Option Bool
  | .flag b => some b
  | _ => none

/-- The elements of the value, if it is a list. -/
def asList? : Json → Option (List Json)
  | .list xs => some xs
  | _ => none

/-- The members of the value, if it is an object. -/
def asObject? : Json → Option (Table Json)
  | .object members => some members
  | _ => none

/-- The texts of an object whose members are texts; others are passed over. -/
def asTexts (v : Json) : Table String :=
  (v.asObject?.getD []).filterMap fun p => p.2.asText?.map fun s => (p.1, s)

/-- The value is `null`. -/
def isNull : Json → Bool
  | .null => true
  | _ => false

/-- The value with a member put under a key. A value that is not an object becomes one. -/
def setMember (v : Json) (key : String) (value : Json) : Json :=
  .object (Table.insert (v.asObject?.getD []) key value)

/-- The value with a value put at the end of a path of keys, objects made on the way. -/
def setAt (v : Json) (path : List String) (value : Json) : Json :=
  match path with
  | [] => value
  | key :: path => v.setMember key (((v.member? key).getD (.object [])).setAt path value)

/-- The value without the member under a key. -/
def eraseMember (v : Json) (key : String) : Json :=
  match v with
  | .object members => .object (Table.erase members key)
  | v => v

/-- The value without what stands at the end of a path of keys. -/
def eraseAt (v : Json) (path : List String) : Json :=
  match path with
  | [] => v
  | [key] => v.eraseMember key
  | key :: path => match v.member? key with
    | some inner => v.setMember key (inner.eraseAt path)
    | none => v

mutual

/-- Equality of values, with doubles compared as numbers. -/
def same : Json → Json → Bool
  | .null, .null => true
  | .flag a, .flag b => a == b
  | .int a, .int b => a == b
  | .double a, .double b => Float.ofBits a == Float.ofBits b
  | .text a, .text b => a == b
  | .list xs, .list ys => sameItems xs ys
  | .object xs, .object ys => sameMembers xs ys
  | _, _ => false

/-- Equality of lists of values. -/
def sameItems : List Json → List Json → Bool
  | [], [] => true
  | x :: xs, y :: ys => same x y && sameItems xs ys
  | _, _ => false

/-- Equality of members, key by key. -/
def sameMembers : List (String × Json) → List (String × Json) → Bool
  | [], [] => true
  | (k, x) :: xs, (l, y) :: ys => k == l && same x y && sameMembers xs ys
  | _, _ => false

end

end Json

end RaftMysql
