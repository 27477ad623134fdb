import RaftMysql.Json.Decode

/-!
# Where a cluster is in its life

A `State` names where a cluster is in its life. A `Verdict` is the answer to a question about it
that may not be known.
-/

namespace RaftMysql

/-- Where a cluster is in its life. -/
inductive State where
  | initializing
  | updating
  | ready
  | closed
  | scaleIn
  | scaleOut
  | error
  deriving DecidableEq, Repr

namespace State

/-- Every state, in the order in which they are listed. -/
def all : List State := [initializing, updating, ready, closed, scaleIn, scaleOut, error]

/-- The name of a state. -/
def name : State → String
  | initializing => "Initializing"
  | updating => "Updating"
  | ready => "Ready"
  | closed => "Closed"
  | scaleIn => "ScaleIn"
  | scaleOut => "ScaleOut"
  | error => "Error"

/-- Reads the name of a state. -/
def ofDocument? : Document.Reader State := Document.oneOf? (all.map fun s => (s.name, s))

/-- Every state is listed. -/
theorem mem_all (s : State) : s ∈ all := by cases s <;> decide

end State

/-- The answer to a question that may not be known. -/
inductive Verdict where
  | yes
  | no
  | unknown
  deriving DecidableEq, Repr, Inhabited

namespace Verdict

/-- The text of an answer. -/
def name : Verdict → String
  | yes => "True"
  | no => "False"
  | unknown => "Unknown"

/-- A known answer. -/
def ofBool (b : Bool) : Verdict := if b then yes else no

/-- Reads an answer. -/
def ofDocument? : Document.Reader Verdict :=
  Document.oneOf? ([yes, no, unknown].map fun v => (v.name, v))

end Verdict

end RaftMysql
