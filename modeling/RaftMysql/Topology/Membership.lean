import RaftMysql.Topology.Rollout

/-!
# Keeping the consensus group in line with the members

The leader's view of the group is compared with the members that the cluster should have: addresses
of removed members are taken out, and members that are vouched for and missing are put in. What
fails is left for a later pass.
-/

namespace RaftMysql

namespace Topology

/-- The text before the first point. -/
def beforePoint (s : String) : String := String.ofList (s.toList.takeWhile (· ≠ '.'))

/-- The address of a member of this cluster that is on its way out. -/
def isStalePeer (c : Cluster) (peer : String) : Bool :=
  let pod := beforePoint peer
  (c.workloadName ++ "-").toList.isPrefixOf pod.toList && isExempt c pod

/-- The addresses to take out of a view. -/
def stalePeers (c : Cluster) (view : AgentView) : List String := view.peers.filter (isStalePeer c)

/-- The hosts of the pods that are vouched for. -/
def healthyHosts (c : Cluster) (pods : List Pod) : List String :=
  (pods.filter Pod.isHealthy).map fun pod => c.hostOf pod.name

/-- The addresses to put into a view. -/
def missingPeers (c : Cluster) (pods : List Pod) (view : AgentView) : List String :=
  (c.hosts.filter fun host =>
    !view.peers.contains (Cluster.peerOf host) && (healthyHosts c pods).contains host).map
    Cluster.peerOf

/-- Asks an agent several things, until one fails. -/
def askAll (host password : String) (call : String → AgentCall) :
    List String → Procedure Unit
  | [] => return ()
  | peer :: peers => do
    let _ ← Member.ask host password (call peer)
    askAll host password call peers

/-- Brings the group in line by asking the leader. -/
def alignGroup (c : Cluster) (pods : List Pod) (leader : Pod) (credentials : Credentials) :
    Procedure Unit := do
  let host := c.hostOf leader.name
  let password := credentials.rootPassword
  let _ ← Member.ask host password .ping
  let view : AgentView ← Member.ask host password .view
  askAll host password .removePeer (stalePeers c view)
  askAll host password .addPeer (missingPeers c pods view)

/-- Brings the group in line, if it has a leader and the cluster has credentials. -/
def tryAlign (c : Cluster) : Procedure Unit := do
  let pods : List Pod ← Store.list .pod c.selector
  match leaderOf pods with
  | none => return ()
  | some leader =>
    match ← c.credentials? with
    | none => return ()
    | some credentials => alignGroup c pods leader credentials

/-- Brings the group in line as far as this succeeds. -/
def align (c : Cluster) : Program Unit := do
  let _ ← (tryAlign c).outcome
  return ()

end Topology

end RaftMysql
