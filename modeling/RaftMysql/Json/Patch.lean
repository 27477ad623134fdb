import RaftMysql.Json.Basic

/-!
# Merge patches

A merge patch changes an object member by member: `null` removes the member, an object is itself a
patch for the member, and any other value takes its place. A patch that is no object replaces the
whole value.
-/

namespace RaftMysql.Json

mutual

/-- The value with a merge patch applied. -/
def patch (v : Json) : Json → Json
  | .object changes => .object (patchMembers (v.asObject?.getD []) changes)
  | other => other

/-- Members with the changes of a patch applied. -/
def patchMembers (members : Table Json) : List (String × Json) → Table Json
  | [] => members
  | (key, change) :: changes =>
    let members := match change with
      | .null => Table.erase members key
      | change => Table.insert members key (patch ((Table.get? members key).getD .null) change)
    patchMembers members changes

end

end RaftMysql.Json
