import RaftMysql.Health.Observation
import RaftMysql.Member.Probe
import RaftMysql.Object.Pod
import RaftMysql.Workload.Basic

/-!
# A status pass

A pass lists the member pods, looks at the members that are ready, brings their entries and the
labels of their pods up to date, and derives the next state. The status is written only when it
differs from the one the pass began with, and only onto that same version of the cluster, so that of
two passes at once one is turned away. `Status.accept` is the rule by which a proposal changes a
status: states come at once, errors only after they have lasted.
-/

namespace RaftMysql

/-! ### What a proposal changes -/

namespace Status

/-- How long an error has to last before it counts. -/
def tolerance (s : StatusSettings) (reason : String) : Duration :=
  if reason = Condition.unschedulable then s.schedulingTolerance
  else if reason = Condition.raftNotReady then s.raftTolerance
  else 0

/-- An error with this reason has lasted long enough. -/
def hasLasted (s : StatusSettings) (status : Status) (reason : String) (now : Time) : Bool :=
  match status.conditions.errorAge? reason now with
  | some age => tolerance s reason ≤ age
  | none => false

/-- The status after a proposal. -/
def accept (s : StatusSettings) (status : Status) (proposal : Proposal) (now : Time) : Status :=
  match proposal with
  | .state state =>
    { status.append { state := state, since := now } with state := some state }
  | .error reason message =>
    let status := status.append (Condition.ofError reason message now)
    if hasLasted s status reason now then { status with state := some .error }
    else if status.state.isNone then { status with state := some .initializing }
    else status

end Status

/-! ### The consensus group -/

namespace Cluster

/-- The entries of the members that the cluster should have. -/
def currentNodes (c : Cluster) (nodes : List Node) : List Node :=
  nodes.filter fun n => c.hosts.contains n.name

/-- The group has a confirmed leader. A single member confirms itself. -/
def isRaftReady (c : Cluster) (nodes : List Node) : Bool :=
  if c.replicas = 1 then
    match c.currentNodes nodes with
    | [node] => node.role == .leader
    | _ => false
  else Status.quorum (c.currentNodes nodes)

/-- The credentials of the cluster, if its secret exists. -/
def credentials? (c : Cluster) : Procedure (Option Credentials) := do
  match ← Store.get .secret c.secretName with
  | none => return none
  | some (secret : Secret) => return some (← Credentials.ofSecret c.secretName secret)

end Cluster

/-! ### Looking at the members -/

/-- The entry of a member after a look at it. -/
def Node.record (n : Node) (r : Report) (now : Time) : Node :=
  { n with
    message := r.message
    consensus := r.consensus
    conditions := (((n.conditions.record .leader r.leader now).record .lagged r.lagged now).record
      .replicating r.replicating now).record .readOnly r.readOnly now }

namespace Health

/-- Brings the role and health labels of a pod up to date. That this fails is no harm. -/
def labelPod (pod : Pod) (role : Role) (healthy : Bool) : Program Unit := do
  let wanted := Pod.wantedLabels role healthy
  if pod.hasLabels wanted then return ()
  else
    let _ ← (Store.replace .pod (pod.setLabels wanted)).outcome
    return ()

/-- Whether the entry of a host vouches for its member. -/
def isHealthy (status : Status) (host : String) : Bool :=
  match status.node? host with
  | some node => node.conditions.isHealthy
  | none => false

/-- Looks at the member in a pod. -/
def lookAt (c : Cluster) (settings : Settings) (credentials : Credentials) (now : Time)
    (status : Status) (pod : Pod) : Program Status := do
  let host := c.hostOf pod.name
  let moving ← Program.request (.inHandoff c.key)
  let report ← Member.probe credentials settings.probe host !moving
  let status := status.updateNode host now fun node => node.record report now
  labelPod pod report.role (isHealthy status host)
  return status

/-- Looks at the members in several pods, one after the other. -/
def lookAtAll (c : Cluster) (settings : Settings) (credentials : Credentials) (now : Time) :
    Status → List Pod → Program Status
  | status, [] => return status
  | status, pod :: pods => do
    let status ← lookAt c settings credentials now status pod
    lookAtAll c settings credentials now status pods

/-- Brings the entries of the ready members up to date. Without credentials nothing is looked at. -/
def refresh (c : Cluster) (settings : Settings) (now : Time) (status : Status) (ready : List Pod) :
    Program Status := do
  match ← c.credentials?.outcome with
  | .ok (some credentials) => lookAtAll c settings credentials now status ready
  | _ => return status

/-! ### The pass -/

/-- What a pass saw, from the pods, the workload and the entries brought up to date. -/
def observe (c : Cluster) (pods : List Pod) (workload : Option Workload) (status : Status) :
    Observation where
  desired := c.replicas
  running := workload.bind Workload.replicas?
  ready := status.readyNodes
  raftReady := c.isRaftReady status.nodes
  unschedulable := pods.findSome? Pod.unschedulable?

/-- Stores a status onto the version of the cluster that the pass began with. A cluster that is gone
needs none. -/
def write (c : Cluster) (status : Status) : Procedure Unit := .of do
  if c.status = some status then return .ok ()
  else
    match ← (Store.replaceStatus .cluster { c with status := some status }).outcome with
    | .ok _ => return .ok ()
    | .error e => return if e.isNotFound then .ok () else .error e

/-- One pass over a cluster: the status it came to. -/
def pass (c : Cluster) (settings : Settings) : Procedure Status := do
  let now ← Procedure.step (Program.request .now)
  let previous := c.status.getD {}
  let pods : List Pod ← Store.list .pod c.selector
  let ready := pods.filter Pod.isReady
  let status ← Procedure.step
    (refresh c settings now { previous with readyNodes := ready.length } ready)
  let workload : Option Workload ← Store.get .workload c.workloadName
  let proposal := (observe c pods workload status).propose previous.state
  let status := status.accept settings.status proposal now
  Procedure.step (note (.observed c.key status.readyNodes status.state))
  write c status
  return status

end Health

end RaftMysql
