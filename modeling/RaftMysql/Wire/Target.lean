import RaftMysql.Text.Form

/-!
# Where calls go

A `Target` is a path and a query. `Target.ofText?` reads it off a text: the path ends at the first
question mark, and nothing counts from the first number sign on. A text that is too long, or in which
other characters stand than a path and a query may hold, is no target.
-/

namespace RaftMysql.Wire

/-- Where a call goes. -/
structure Target where
  path : String
  query : String := ""
  deriving DecidableEq, Repr

namespace Target

/-- A character that may stand in a path. -/
def isPathChar (c : Char) : Bool :=
  decide ('!' ≤ c ∧ c ≤ '~' ∧ c ∉ ['#', '<', '>', '?', '\x60'])

/-- A character that may stand in a query. -/
def isQueryChar (c : Char) : Bool :=
  decide ('!' ≤ c ∧ c ≤ '~' ∧ c ∉ ['"', '#', '<', '>'])

/-- How many bytes a target may have. -/
def maxSize : Nat := 65534

/-- The target that a text stands for. -/
def ofText? (s : String) : Option Target :=
  let cs := s.toList
  let path := cs.takeWhile fun c => c ≠ '?' && c ≠ '#'
  let query := match cs.drop path.length with
    | '?' :: rest => rest.takeWhile (· ≠ '#')
    | _ => []
  if s.utf8ByteSize ≤ maxSize ∧ path.all isPathChar ∧ query.all isQueryChar then
    some ⟨String.ofList path, String.ofList query⟩
  else none

/-- A parameter of a query, after those before it. -/
def parameter (name value : String) : String := "&" ++ name ++ "=" ++ Text.Form.encode value

end Target

end RaftMysql.Wire
