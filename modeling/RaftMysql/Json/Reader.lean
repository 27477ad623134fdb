import RaftMysql.Json.Token

/-!
# Reading JSON

The reader takes token after token and keeps the containers that are still open on a stack.
Containers nested deeper than 127, and records with a key that is no text, are well formed but
stand for no value. `Document.read?` gives the text as a tree, `Json.read?` its value.
-/

namespace RaftMysql

namespace Document

/-- What a record holds so far, in reverse. A key may be no text. -/
abbrev Members := List (Option String × Document)

/-- A container that is still open, with what it holds so far in reverse. A key waits for its value
in the last two. -/
inductive Frame where
  | list (items : List Document)
  | record (members : Members)
  | keyed (members : Members) (key : Option String)
  | valued (members : Members) (key : Option String)

/-- What may come next. -/
inductive Expect where
  /-- A value. -/
  | value
  /-- A value, or the end of the list just opened. -/
  | valueOrEnd
  /-- A key, or the end of the record just opened. -/
  | keyOrEnd
  /-- A key. -/
  | key
  /-- The colon after a key. -/
  | colon
  /-- A comma or the end of the innermost container; or the end of the text. -/
  | next

/-- The state of the reader: what is expected, the open containers, and the finished tree. -/
structure Reading where
  expect : Expect
  frames : List Frame
  result : Option Document

/-- How deep a container may be nested that stands for a value. -/
def maxDepth : Nat := 127

/-- A complete container inside those that are still open. -/
def nested (frames : List Frame) (container : Document) : Document :=
  if (frames.drop (maxDepth - 1)).isEmpty then container else .unusable

/-- A complete record, from its members in reverse. -/
def recordOf (members : Members) : Document :=
  match members.reverse.mapM fun m => m.1.map fun key => (key, m.2) with
  | some members => .record members
  | none => .unusable

/-- The state after a complete value. -/
def Reading.close (frames : List Frame) (value : Document) : Option Reading :=
  match frames with
  | [] => some ⟨.next, [], some value⟩
  | .list items :: frames => some ⟨.next, .list (value :: items) :: frames, none⟩
  | .valued members key :: frames => some ⟨.next, .record ((key, value) :: members) :: frames, none⟩
  | _ => none

/-- The state after one more token. -/
def Reading.take (r : Reading) (token : Json.Token) : Option Reading :=
  if r.result.isSome then none
  else match r.expect, token, r.frames with
    | .value, .openList, frames => some ⟨.valueOrEnd, .list [] :: frames, none⟩
    | .valueOrEnd, .openList, frames => some ⟨.valueOrEnd, .list [] :: frames, none⟩
    | .value, .openRecord, frames => some ⟨.keyOrEnd, .record [] :: frames, none⟩
    | .valueOrEnd, .openRecord, frames => some ⟨.keyOrEnd, .record [] :: frames, none⟩
    | .value, .text s, frames => close frames ((s.map .text).getD .unusable)
    | .valueOrEnd, .text s, frames => close frames ((s.map .text).getD .unusable)
    | .value, .scalar v, frames => close frames v
    | .valueOrEnd, .scalar v, frames => close frames v
    | .valueOrEnd, .closeList, .list _ :: frames => close frames (nested frames (.list []))
    | .keyOrEnd, .closeRecord, .record _ :: frames => close frames (nested frames (.record []))
    | .keyOrEnd, .text key, .record members :: frames =>
      some ⟨.colon, .keyed members key :: frames, none⟩
    | .key, .text key, .record members :: frames =>
      some ⟨.colon, .keyed members key :: frames, none⟩
    | .colon, .colon, .keyed members key :: frames =>
      some ⟨.value, .valued members key :: frames, none⟩
    | .next, .comma, .list items :: frames => some ⟨.value, .list items :: frames, none⟩
    | .next, .comma, .record members :: frames => some ⟨.key, .record members :: frames, none⟩
    | .next, .closeList, .list items :: frames =>
      close frames (nested frames (.list items.reverse))
    | .next, .closeRecord, .record members :: frames =>
      close frames (nested frames (recordOf members))
    | _, _, _ => none

/-- The tree of a text, if the text is JSON. -/
def read? (s : String) : Option Document := do
  let tokens ← Json.Token.scan? s
  let final ← tokens.foldlM Reading.take ⟨.value, [], none⟩
  final.result

end Document

/-- The value of a text, if the text is JSON and all its scalars stand for values. -/
def Json.read? (s : String) : Option Json := (Document.read? s).bind ofDocument?

end RaftMysql
