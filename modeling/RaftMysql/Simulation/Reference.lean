import RaftMysql.Json.Pointer
import RaftMysql.Json.Patch

/-!
# Patches that refer to what they change

In a patch, a text that begins with `$/` is a reference: it stands for what the pointer after the
dollar sign points at in the object that is patched, or for `null` when there is nothing.
`Json.resolve` replaces the references, `Json.patchResolved` patches with what comes out.
-/

namespace RaftMysql.Json

/-- What a text of a patch stands for. -/
def resolveText (source : Json) (s : String) : Json :=
  match s.toList with
  | '$' :: '/' :: pointer => (source.pointer? (String.ofList ('/' :: pointer))).getD .null
  | _ => .text s

mutual

/-- A patch with its references replaced. -/
def resolve (source : Json) : Json → Json
  | .text s => resolveText source s
  | .list items => .list (resolveItems source items)
  | .object members => .object (resolveMembers source members)
  | v => v

/-- Items of a patch with their references replaced. -/
def resolveItems (source : Json) : List Json → List Json
  | [] => []
  | v :: vs => resolve source v :: resolveItems source vs

/-- Members of a patch with their references replaced. -/
def resolveMembers (source : Json) : List (String × Json) → List (String × Json)
  | [] => []
  | (k, v) :: ms => (k, resolve source v) :: resolveMembers source ms

end

/-- The value with a patch applied that may refer to it. -/
def patchResolved (v change : Json) : Json := v.patch (v.resolve change)

end RaftMysql.Json
