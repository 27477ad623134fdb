import RaftMysql.Table
import RaftMysql.Time.Basic

/-!
# Sessions on database servers

A `Login` says where and as whom a session is opened. A query answers with rows, in which every
column has a text or no value.
-/

namespace RaftMysql

/-- Where and as whom a session is opened, and how long that may take. -/
structure Login where
  host : String
  port : Nat := 3306
  user : String
  password : String
  timeout : Duration
  deriving DecidableEq, Repr

/-- An open session on a host. -/
structure Session where
  host : String
  number : Nat
  deriving DecidableEq, Repr

/-- A row of an answer: the values by the names of their columns. -/
abbrev Row := Table (Option String)

namespace Row

/-- The text in a column; empty where there is none. -/
def text (row : Row) (column : String) : String := (row.get? column).join.getD ""

/-- The value in the first column, in the order of the names. -/
def first? (row : Row) : Option String := row.head?.bind (·.2)

end Row

end RaftMysql
