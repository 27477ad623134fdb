import RaftMysql.Json.Basic

/-!
# Laying a desired value over a live one

`overlay live desired` is what a live value becomes when a desired one is laid over it: objects
member by member, lists of equal length element by element, anything else by the desired value. A
desired `null` says nothing.
-/

namespace RaftMysql.Json

mutual

/-- The live value with the desired one laid over it. -/
def overlay (live : Json) : Json → Json
  | .null => live
  | .object desired =>
    match live with
    | .object members => .object (overlayMembers members desired)
    | _ => .object desired
  | .list desired =>
    match live with
    | .list items => if items.length = desired.length then .list (overlayItems items desired)
      else .list desired
    | _ => .list desired
  | desired => desired

/-- Members with desired ones laid over them; a key that is new comes with its value as it is. -/
def overlayMembers (members : Table Json) : List (String × Json) → Table Json
  | [] => members
  | (key, value) :: rest =>
    let members := match Table.get? members key with
      | some existing => Table.insert members key (overlay existing value)
      | none => if value.isNull then members else Table.insert members key value
    overlayMembers members rest

/-- Elements with the desired ones laid over them, one by one. -/
def overlayItems (items : List Json) : List Json → List Json
  | [] => []
  | value :: rest =>
    match items with
    | [] => []
    | item :: items => overlay item value :: overlayItems items rest

end

end RaftMysql.Json
