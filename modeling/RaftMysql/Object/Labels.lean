import RaftMysql.Table

/-!
# Labels and selectors

Labels are texts under keys. A selector is a set of labels that an object must carry, each with its
value; the empty selector takes every object.
-/

namespace RaftMysql

/-- The labels of an object, or those a selector asks for. -/
abbrev Labels := Table String

namespace Labels

/-- A selector as it is sent with a query: `key=value` pairs between commas. -/
def selectorText (selector : Labels) : String :=
  ",".intercalate (selector.map fun p => p.1 ++ "=" ++ p.2)

/-- The labels carry every pair of the selector. -/
def satisfies (labels : Labels) (selector : Labels) : Bool :=
  selector.all fun p => labels.get? p.1 == some p.2

@[simp] theorem satisfies_nil (labels : Labels) : labels.satisfies [] = true := rfl

end Labels

end RaftMysql
