import RaftMysql.Program.Waiting
import RaftMysql.Decimal.Literal

/-!
# What a database server says about replication

The answers of a database server are free text in columns. `ReplicaState.ofRows` says whether it
replicates, `Replication.check` whether it keeps up, `checkReadOnly` whether it refuses writes, and
`checkDrained` whether some follower has been sent everything.
-/

namespace RaftMysql

/-- What a server says about its replication, before any delay is weighed. -/
inductive ReplicaState where
  /-- It replicates from no one. -/
  | none
  /-- It should replicate and does not. -/
  | broken (reason : String)
  /-- It replicates, so many seconds behind. -/
  | running (behind : Float)

namespace ReplicaState

/-- The states of a server that lost the one it replicates from. -/
def lostStates : List String :=
  ["connecting to master", "reconnecting after a failed binlog dump request",
   "reconnecting after a failed master event read",
   "waiting to reconnect after a failed binlog dump request",
   "waiting to reconnect after a failed master event read"]

/-- The number in a text; zero where there is none. -/
def number (s : String) : Float := (Decimal.readFloat? s).getD 0

/-- What the first row about replication says. Only the letters that these states are made of have
two cases that matter. -/
def ofRows (rows : List Row) : ReplicaState :=
  match rows with
  | [] => none
  | row :: _ =>
    let ioState := (Row.text row "Slave_IO_State").map Char.toLower
    if ioState ∈ lostStates then broken ("Slave_IO_State: " ++ ioState)
    else if Row.text row "Slave_SQL_Running" ≠ "Yes" then
      broken ("Last_SQL_Error: " ++ Row.text row "Last_SQL_Error")
    else running (number (Row.text row "Seconds_Behind_Master"))

end ReplicaState

/-- What came out of a check of replication. -/
structure Replication where
  lagged : Verdict
  replicating : Verdict
  error : Option String
  deriving DecidableEq, Repr

namespace Replication

/-- A server lags when its delay exceeds a hundred times what counts as a long query. -/
def lag (behind longQuery : Float) : Verdict := .ofBool (longQuery * 100 < behind)

/-- A check that failed; whether the server replicates may still be known. -/
def failed (replicating : Verdict) (error : String) : Replication :=
  ⟨.unknown, replicating, some error⟩

/-- The question about replication. -/
def statusQuery : String := "show slave status"

/-- The question for a global variable. -/
def variableQuery (name : String) : String := "select @@global." ++ name

/-- The value of a global variable. -/
def globalVariable (session : Session) (name : String) : Procedure (Option String) := do
  let rows ← Member.query session (variableQuery name)
  return rows.head?.bind Row.first?

/-- Checks replication once. -/
def checkOnce (session : Session) : Program Replication := do
  match ← (Member.query session statusQuery).outcome with
  | .error e => return failed .unknown e.message
  | .ok rows =>
    match ReplicaState.ofRows rows with
    | .none => return ⟨.no, .no, none⟩
    | .broken reason => return failed .no reason
    | .running behind =>
      match ← (globalVariable session "long_query_time").outcome with
      | .error e => return failed .yes e.message
      | .ok value =>
        return ⟨lag behind (ReplicaState.number (value.getD "")), .yes, none⟩

/-- Checks replication until a check meets no error, or the attempts are used up. -/
def check (session : Session) (attempts : Nat) (interval : Duration) : Program Replication :=
  attempt attempts interval (fun r => r.error.isNone) (checkOnce session)

end Replication

/-- A number of eight bits. -/
def isByte (s : String) : Bool :=
  let ds := match s.toList with
    | '+' :: ds => ds
    | ds => ds
  ds != [] && ds.all Decimal.isDigit && Decimal.numeral ds < 256

/-- How an unexpected value is shown. -/
def showValue : Option String → String
  | some s => "Some(" ++ Text.quoted s ++ ")"
  | none => "None"

/-- Whether a value of the read-only switch means that writes are refused. -/
def readOnlyVerdict (value : Option String) : Except Error Verdict :=
  let unexpected : Error :=
    .replication ("unexpected @@global.read_only value " ++ showValue value)
  match value with
  | some s => if s = "0" then .ok .no else if isByte s then .ok .yes else .error unexpected
  | none => .error unexpected

/-- Whether a server refuses writes. -/
def checkReadOnly (session : Session) : Procedure Verdict := do
  let value ← Replication.globalVariable session "read_only"
  readOnlyVerdict value

/-- The state of a connection to a follower that has been sent everything. -/
def sentState : String := "Master has sent all binlog to slave"

/-- A text occurs inside another. -/
def contains (part : List Char) : List Char → Bool
  | [] => part.isEmpty
  | c :: cs => part.isPrefixOf (c :: cs) || contains part cs

/-- Some connection has sent everything. -/
def hasDrained (rows : List Row) : Bool :=
  rows.any fun row => contains sentState.toList (Row.text row "State").toList

/-- Whether some follower has been sent everything. -/
def checkDrained (session : Session) : Procedure Bool := do
  let rows ← Member.query session "show processlist"
  return hasDrained rows

end RaftMysql
