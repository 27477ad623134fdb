import RaftMysql.Json.Basic
import RaftMysql.Decimal.Literal

/-!
# Places inside a value

A pointer is empty, or a row of steps with a slash before each. A step names a member of an object
or the index of an element; in it `~1` stands for a slash and `~0` for a tilde.
-/

namespace RaftMysql.Json

/-- A step with its two escapes resolved. -/
def unescapeStep : List Char → List Char
  | '~' :: '1' :: rest => '/' :: unescapeStep rest
  | '~' :: '0' :: rest => '~' :: unescapeStep rest
  | c :: rest => c :: unescapeStep rest
  | [] => []

/-- The index that a step stands for: digits without a needless zero at the front. -/
def stepIndex? (step : String) : Option Nat :=
  let cs := step.toList
  if cs = [] ∨ ¬cs.all Decimal.isDigit ∨ (cs.head? = some '0' ∧ cs.length ≠ 1) then none
  else some (Decimal.numeral cs)

/-- What stands at the end of a row of steps. -/
def follow (v : Json) : List String → Option Json
  | [] => some v
  | step :: steps =>
    match v with
    | .object members => (Table.get? members step).bind (follow · steps)
    | .list items => ((stepIndex? step).bind (items[·]?)).bind (follow · steps)
    | _ => none

/-- The pieces of a text between slashes. -/
def splitSteps (cs : List Char) : List (List Char) :=
  match cs with
  | [] => [[]]
  | c :: cs =>
    match splitSteps cs with
    | [] => [[c]]
    | piece :: pieces => if c = '/' then [] :: piece :: pieces else (c :: piece) :: pieces

/-- What a pointer points at. -/
def pointer? (v : Json) (pointer : String) : Option Json :=
  match pointer.toList with
  | [] => some v
  | '/' :: cs => v.follow ((splitSteps cs).map fun step => String.ofList (unescapeStep step))
  | _ => none

end RaftMysql.Json
