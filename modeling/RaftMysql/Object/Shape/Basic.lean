import RaftMysql.Json.Decode
import RaftMysql.Text.Base64

/-!
# The form of platform objects

A `Shape` says what a value in a platform object may be. `Shape.fit?` brings a document into its
form: members that are unknown or `null` are left out, of several members under one key the last
stays, moments are written to the second, and members that are always written get their empty value.
Every known member must fit, also one that a later one replaces; unknown ones may be anything.
-/

namespace RaftMysql

/-- What a value may be. -/
inductive Shape where
  /-- Anything. -/
  | anything
  | text
  /-- Just this text, which may not be `null`. -/
  | exactly (value : String)
  | flag
  | int32
  | int64
  | time
  /-- Bytes in base 64; `null` stands for none of them. -/
  | bytes
  | intOrText
  | list (items : Shape)
  | table (values : Shape)
  /-- A record. Of each field it is known whether it is always written. -/
  | record (fields : List (String × Bool × Shape))

namespace Shape

/-- The value of a field that is always written, when it is not given. -/
def empty : Shape → Json
  | text | time | bytes => .text ""
  | exactly value => .text value
  | flag => .flag false
  | int32 | int64 | intOrText => .int 0
  | list _ => .list []
  | anything => .null
  | table _ => .object []
  | record fields => .object (Table.ofPairs (emptyFields fields))
where
  /-- The fields of a record that are always written, with their empty values. -/
  emptyFields : List (String × Bool × Shape) → List (String × Json)
    | [] => []
    | (name, always, shape) :: fields =>
      if always then (name, empty shape) :: emptyFields fields else emptyFields fields

/-- A field of this shape may be `null`, as if it were not there. -/
def mayBeNull : Shape → Bool
  | exactly _ => false
  | _ => true

/-- A scalar that a reader accepts, as it is. -/
def accepted {α : Type} (read : Document.Reader α) (d : Document) : Option Json :=
  (read d).bind fun _ => Json.ofDocument? d

mutual

/-- A document brought into a form, if it has it. -/
def fit? : Shape → Document → Option Json
  | anything, d => Json.ofDocument? d
  | text, d => accepted Document.text? d
  | exactly value, .text s => if s = value then some (.text s) else none
  | flag, d => accepted Document.flag? d
  | int32, d => accepted Document.int32? d
  | int64, d => accepted Document.int64? d
  | time, d => (Document.time? d).map fun t => .text t.wholeSecond.write
  | bytes, .text s => (Text.Base64.decode? s).map fun _ => .text s
  | bytes, .null => some (.text "")
  | intOrText, .text s => some (.text s)
  | intOrText, d => accepted Document.int32? d
  | list items, .list ds => (ds.mapM fun d => fit? items d).map .list
  | table values, .record members =>
    (members.mapM fun m => (fit? values m.2).map fun v => (m.1, v)).map Json.ofPairs
  | record fields, .record members => (fitFields? fields members).map Json.ofPairs
  | _, _ => none

/-- The fields of a record brought into their forms. -/
def fitFields? :
    List (String × Bool × Shape) → List (String × Document) → Option (List (String × Json))
  | [], _ => some []
  | (name, always, shape) :: fields, members => do
    let given ← (members.filter (·.1 == name)).mapM fun m =>
      if m.2.isNull && shape.mayBeNull then some none else (fit? shape m.2).map some
    let rest ← fitFields? fields members
    return match given.getLast?.join with
      | some v => (name, v) :: rest
      | none => if always then (name, empty shape) :: rest else rest

end

/-! ### Fields -/

/-- A field of a record. -/
abbrev Field := String × Bool × Shape

/-- A field that is written only when it is given. -/
def opt (name : String) (shape : Shape) : Field := (name, false, shape)

/-- A field that is always written. -/
def req (name : String) (shape : Shape) : Field := (name, true, shape)

/-- Fields of one shape that are written only when they are given. -/
def opts (shape : Shape) (names : List String) : List Field := names.map fun name => opt name shape

/-- Fields of one shape that are always written. -/
def reqs (shape : Shape) (names : List String) : List Field := names.map fun name => req name shape

end Shape

end RaftMysql
