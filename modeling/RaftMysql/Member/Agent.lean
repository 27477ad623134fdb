import RaftMysql.Cluster.Node
import RaftMysql.Error

/-!
# Consensus agents

Next to every database server runs an agent that keeps up the consensus group. An agent can be asked
for its view of the group and for a few changes of it.
-/

namespace RaftMysql

/-- The consensus group as an agent answers it. -/
structure AgentView where
  state : String := ""
  leader : String := ""
  peers : List String := []
  deriving DecidableEq, Repr

namespace AgentView

/-- The role of the member that answered. -/
def role (v : AgentView) : Role := Role.ofName v.state

/-- The view as it is kept, with a known name for the role. -/
def toConsensus (v : AgentView) : Consensus := ⟨v.role.name, v.leader, v.peers⟩

/-- Reads an answer. -/
def ofDocument? : Document.Reader AgentView := fun d => do
  let given ← Document.fields? ["state", "leader", "nodes"] d
  return ⟨← Document.field given "state" Document.text? "",
    ← Document.field given "leader" Document.text? "",
    ← Document.field given "nodes" (Document.list? Document.text?) []⟩

end AgentView

/-- What an agent can be asked. -/
inductive AgentCall where
  /-- Its view of the group. -/
  | view
  /-- To begin an election that it should win. -/
  | lead
  /-- Whether it is there. -/
  | ping
  /-- To add a peer to the group. -/
  | addPeer (peer : String)
  /-- To remove a peer from the group. -/
  | removePeer (peer : String)
  deriving DecidableEq, Repr

namespace AgentCall

/-- What an agent answers. -/
abbrev Answer : AgentCall → Type
  | view => AgentView
  | _ => Unit

/-- The path under which the agent takes the call. -/
def path : AgentCall → String
  | view => "/v1/raft/status"
  | lead => "/v1/raft/trytoleader"
  | ping => "/v1/xenon/ping"
  | addPeer _ => "/v1/cluster/add"
  | removePeer _ => "/v1/cluster/remove"

end AgentCall

end RaftMysql
