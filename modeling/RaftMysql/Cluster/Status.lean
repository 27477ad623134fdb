import RaftMysql.Cluster.Condition
import RaftMysql.Cluster.Node

/-!
# The observed state of a cluster

A `Status` holds how many members are ready, the state of the cluster, the history of its conditions
and an entry for every member ever looked at. Entries are found by host name and never removed.
-/

namespace RaftMysql

/-- The observed state of a cluster. -/
structure Status where
  readyNodes : Int := 0
  state : Option State := none
  conditions : History := []
  nodes : List Node := []
  deriving DecidableEq, Repr

namespace Status

/-- The status with a condition added to its history, if it may be. -/
def append (s : Status) (c : Condition) : Status :=
  { s with conditions := s.conditions.append c }

/-- The entry of a host. -/
def node? (s : Status) (name : String) : Option Node := s.nodes.find? fun n => n.name == name

/-- The entries with an unknown one at the end for a host that has none. -/
def withNode (nodes : List Node) (name : String) (now : Time) : List Node :=
  if nodes.any fun n => n.name == name then nodes else nodes ++ [Node.unknown name now]

/-- The first entry of a host changed. -/
def updateFirst (nodes : List Node) (name : String) (change : Node → Node) : List Node :=
  match nodes with
  | [] => []
  | n :: rest => if n.name == name then change n :: rest else n :: updateFirst rest name change

/-- The status with the entry of a host changed; a host without entry gets one first. -/
def updateNode (s : Status) (name : String) (now : Time) (change : Node → Node) : Status :=
  { s with nodes := updateFirst (withNode s.nodes name now) name change }

/-- How many entries have a role. -/
def countRole (nodes : List Node) (role : Role) : Nat :=
  (nodes.filter fun n => n.role == role).length

/-- One leader, and at least one follower that confirms it. -/
def quorum (nodes : List Node) : Bool :=
  countRole nodes .leader == 1 && 2 ≤ countRole nodes .leader + countRole nodes .follower

/-- Reads a status. -/
def ofDocument? (now : Time) : Document.Reader Status := fun d => do
  let given ← Document.fields? ["readyNodes", "state", "conditions", "nodes"] d
  return ⟨← Document.field given "readyNodes" Document.int32? 0,
    ← Document.field given "state" (Document.optional? State.ofDocument?) none,
    ← Document.field given "conditions" (Document.list? Condition.ofDocument?) [],
    ← Document.field given "nodes" (Document.list? (Node.ofDocument? now)) []⟩

/-- Writes a status. -/
def toJson (s : Status) : Json :=
  .ofMembers [("readyNodes", some (.int s.readyNodes)),
    ("state", s.state.map fun st => .text st.name),
    ("conditions", some (.list (s.conditions.map Condition.toJson))),
    ("nodes", some (.list (s.nodes.map Node.toJson)))]

end Status

end RaftMysql
