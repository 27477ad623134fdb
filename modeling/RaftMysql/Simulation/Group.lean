import RaftMysql.Json.Decode
import RaftMysql.Json.Patch
import RaftMysql.Cluster.Basic
import RaftMysql.Member.Replication

/-!
# Simulated members

A `Host` is how the agent and the database server of one member behave; every field has a default,
which also holds for hosts that were never mentioned. A `Group` is the hosts by their names and the
peers that the consensus group knows. Changes of the group through an agent are changes of this
state: an election makes one host the leader and every other leader a follower.
-/

namespace RaftMysql.Simulation

/-- How the agent and the database server of a member behave. -/
structure Host where
  state : String := "UNKNOWN"
  /-- The leader that the agent names, in place of the true one. -/
  leader : Option String := none
  /-- The peers that the agent names, in place of the true ones. -/
  nodes : Option (List String) := none
  /-- The status with which the agent answers. -/
  status : Nat := 200
  /-- The status with which the agent answers single calls. -/
  refusals : Table Nat := []
  /-- How many requests to lead come to nothing. -/
  electAfter : Int := 0
  /-- How many connections fail; all of them when negative. -/
  connectFailures : Int := 0
  /-- How often statements fail; always when negative. -/
  statementFailures : Table Int := []
  /-- The answers to queries, in place of the usual ones. -/
  rows : Table (List Row) := []
  /-- The delay that the server reports. -/
  behind : String := "0"
  readOnly : Option Bool := none

namespace Host

/-! ### The written form, in which hosts are patched -/

/-- Rows as they are written. -/
def rowsToJson (rows : List Row) : Json :=
  .list (rows.map fun row => .object (row.mapValues fun v => (v.map .text).getD .null))

/-- Rows as written. -/
def rowsOfJson (v : Json) : List Row :=
  (v.asList?.getD []).map fun row => (row.asObject?.getD []).mapValues Json.asText?

/-- The written form of a host. -/
def toJson (h : Host) : Json := .ofMembers
  [("state", some (.text h.state)), ("leader", h.leader.map .text),
   ("nodes", h.nodes.map fun ns => .list (ns.map .text)),
   ("consensus", some (.int h.status)),
   ("fail", some (.object (h.refusals.mapValues fun n => .int (Int.ofNat n)))),
   ("elect_after", some (.int h.electAfter)), ("connect_fail", some (.int h.connectFailures)),
   ("sql_fail", some (.object (h.statementFailures.mapValues .int))),
   ("rows", some (.object (h.rows.mapValues rowsToJson))),
   ("behind", some (.text h.behind)), ("read_only", h.readOnly.map .flag)]

/-- The values of a member that is an object. -/
def tableOf {α : Type} (read : Json → Option α) (v : Json) (key : String) : Table α :=
  (((v.member? key).bind Json.asObject?).getD []).filterMap fun p => (read p.2).map (p.1, ·)

/-- A host as written; what is left out has its default. -/
def ofJson (v : Json) : Host :=
  let text (key : String) := (v.member? key).bind Json.asText?
  let int (key : String) := (v.member? key).bind Json.asInt?
  { state := (text "state").getD "UNKNOWN"
    leader := text "leader"
    nodes := ((v.member? "nodes").bind Json.asList?).map (·.filterMap Json.asText?)
    status := ((int "consensus").getD 200).toNat
    refusals := tableOf (fun v => v.asInt?.map Int.toNat) v "fail"
    electAfter := (int "elect_after").getD 0
    connectFailures := (int "connect_fail").getD 0
    statementFailures := tableOf Json.asInt? v "sql_fail"
    rows := tableOf (fun v => v.asList?.map fun _ => rowsOfJson v) v "rows"
    behind := (text "behind").getD "0"
    readOnly := (v.member? "read_only").bind Json.asFlag? }

/-- The host with a patch applied to its written form. -/
def patch (h : Host) (change : Json) : Host := ofJson (h.toJson.patch change)

/-! ### What a host does -/

/-- The state of a leader. -/
def leading : String := Role.leader.name

/-- The state of a follower. -/
def following : String := Role.follower.name

/-- The host leads. -/
def isLeader (h : Host) : Bool := h.state == leading

/-- Whether something fails for which so many failures are left, and how many are left then. -/
def countdown (left : Int) : Bool × Int :=
  if left = 0 then (false, 0) else if 0 < left then (true, left - 1) else (true, left)

/-- The host refuses writes. -/
def refusesWrites (h : Host) : Bool := h.readOnly.getD !h.isLeader

/-- A row whose columns are all texts. -/
def rowOf (columns : List (String × String)) : Row :=
  Table.ofPairs (columns.map fun c => (c.1, some c.2))

/-- What the host reports about replication. -/
def replicationRow (h : Host) : Row := rowOf
  [("Slave_IO_State", "Waiting for master to send event"), ("Slave_SQL_Running", "Yes"),
   ("Seconds_Behind_Master", h.behind), ("Last_SQL_Error", "")]

/-- The usual answer to a query. -/
def usualRows (h : Host) (statement : String) : List Row :=
  if statement = Replication.statusQuery then if h.isLeader then [] else [h.replicationRow]
  else if statement = Replication.variableQuery "long_query_time" then
    [rowOf [("@@global.long_query_time", "3")]]
  else if statement = Replication.variableQuery "read_only" then
    [rowOf [("@@global.read_only", if h.refusesWrites then "1" else "0")]]
  else if statement = "show processlist" then [rowOf [("State", sentState)]]
  else []

/-- The answer to a query. -/
def rowsFor (h : Host) (statement : String) : List Row :=
  (h.rows.get? statement).getD (h.usualRows statement)

/-- Whether a statement fails, and the host after it. -/
def attempt (h : Host) (statement : String) : Bool × Host :=
  match h.statementFailures.get? statement with
  | none => (false, h)
  | some left =>
    let (fails, left) := countdown left
    (fails, { h with statementFailures := h.statementFailures.insert statement left })

/-- The host after a statement that sets whether it refuses writes. -/
def executed (h : Host) (statement : String) : Host :=
  { h with readOnly := some !(contains "read_only=off".toList statement.toList) }

end Host

/-- The name of a call in the list of refusals. -/
def callName : AgentCall → String
  | .view => "raft_status"
  | .lead => "try_to_leader"
  | .ping => "ping"
  | .addPeer _ => "cluster_add"
  | .removePeer _ => "cluster_remove"

/-- The hosts by their names, and the peers of the consensus group. -/
structure Group where
  hosts : Table Host := []
  peers : List String := []

namespace Group

/-- A host by its name. -/
def host (g : Group) (name : String) : Host := (g.hosts.get? name).getD {}

/-- The group with a host changed. -/
def setHost (g : Group) (name : String) (h : Host) : Group :=
  { g with hosts := g.hosts.insert name h }

/-- The group with a peer, which it may have already. -/
def addPeer (g : Group) (peer : String) : Group :=
  if g.peers.contains peer then g else { g with peers := g.peers ++ [peer] }

/-- The group without a peer. -/
def removePeer (g : Group) (peer : String) : Group :=
  { g with peers := g.peers.filter (· != peer) }

/-- The group with a host patched; a host that is given a state is a peer. -/
def patch (g : Group) (name : String) (change : Json) : Group :=
  let g := g.setHost name ((g.host name).patch change)
  if (change.member? "state").isSome then g.addPeer (Cluster.peerOf name) else g

/-! ### Agents -/

/-- The status with which the agent of a host refuses a call, if it does. -/
def refusal? (g : Group) (name : String) (call : AgentCall) : Option Nat :=
  let h := g.host name
  let status := (h.refusals.get? (callName call)).getD h.status
  if status = 200 then none else some status

/-- The address of the first leader; empty when there is none. -/
def leaderAddress (g : Group) : String :=
  match g.hosts.find? fun p => p.2.isLeader with
  | some (name, _) => Cluster.peerOf name
  | none => ""

/-- The group as the agent of a host sees it. -/
def viewOf (g : Group) (name : String) : AgentView :=
  let h := g.host name
  ⟨h.state, h.leader.getD g.leaderAddress, h.nodes.getD g.peers⟩

/-- The group after an election that a host wins. -/
def elect (g : Group) (name : String) : Group :=
  let hosts := g.hosts.mapValues fun h => if h.isLeader then { h with state := Host.following } else h
  let g := { g with hosts := hosts }
  g.setHost name { g.host name with state := Host.leading }

/-- The group after a request to lead. -/
def requestLead (g : Group) (name : String) : Group :=
  let h := g.host name
  if h.electAfter = 0 then g.elect name
  else g.setHost name { h with electAfter := h.electAfter - 1 }

/-- What the agent of a host answers to a call, and the group after it. -/
def ask (g : Group) (name : String) : (call : AgentCall) → call.Answer × Group
  | .view => (g.viewOf name, g)
  | .ping => ((), g)
  | .lead => ((), g.requestLead name)
  | .addPeer peer => ((), g.addPeer peer)
  | .removePeer peer => ((), g.removePeer peer)

/-! ### Database servers -/

/-- Whether a connection to a host fails, and the group after it. -/
def connect (g : Group) (name : String) : Bool × Group :=
  let h := g.host name
  let (fails, left) := Host.countdown h.connectFailures
  (fails, g.setHost name { h with connectFailures := left })

/-- The answer to a query, unless it fails, and the group after it. -/
def query (g : Group) (name statement : String) : Option (List Row) × Group :=
  let (fails, h) := (g.host name).attempt statement
  (if fails then none else some (h.rowsFor statement), g.setHost name h)

/-- Whether a statement fails, and the group after it. -/
def execute (g : Group) (name statement : String) : Bool × Group :=
  let (fails, h) := (g.host name).attempt statement
  (fails, g.setHost name (if fails then h else h.executed statement))

end Group

end RaftMysql.Simulation
