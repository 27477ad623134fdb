import RaftMysql.Health.Pass

/-!
# Moving members to a new revision

`rollout` replaces the member pods one at a time: the followers in ascending order, then the leader,
which first hands over to the follower replaced last. It begins only when every member is ready, no
backup runs and every pod is vouched for, and goes on only when the pod replaced last is back,
vouched for and at the new revision.
-/

namespace RaftMysql

namespace Topology

/-! ### Order -/

/-- The first ordinal does not come after the second; pods without ordinal come first. -/
def ordinalLe : Option Int → Option Int → Bool
  | none, _ => true
  | some _, none => false
  | some a, some b => a ≤ b

/-- A pod put in its place among ordered ones, before those of equal ordinal. -/
def insertByOrdinal (pod : Pod) : List Pod → List Pod
  | [] => [pod]
  | p :: ps =>
    if ordinalLe (ordinal? pod.name) (ordinal? p.name) then pod :: p :: ps
    else p :: insertByOrdinal pod ps

/-- Pods in ascending order of their ordinals; the order of equal ones stays. -/
def sortByOrdinal (pods : List Pod) : List Pod := pods.foldr insertByOrdinal []

/-- A member beyond the desired count, which is on its way out. -/
def isExempt (c : Cluster) (podName : String) : Bool :=
  match ordinal? podName with
  | some ordinal => c.replicas ≤ ordinal
  | none => false

/-- The pods that an update has to move, in ascending order. -/
def membersOf (c : Cluster) (pods : List Pod) : List Pod :=
  sortByOrdinal (pods.filter fun pod => !isExempt c pod.name)

/-! ### One member -/

/-- Waits until a pod is vouched for. -/
def waitHealthy (settings : Settings) (podName : String) : Procedure Unit := .of do
  let look : Procedure Bool := do
    let pod : Option Pod ← Store.get .pod podName
    return match pod with
      | some pod => pod.isHealthy
      | none => false
  let wait : Procedure Unit :=
    poll ("pod " ++ podName ++ " to be healthy") settings.rollout.healthyWait look
  match ← wait.outcome with
  | .error (.timeout _) => return .error (.memberUnhealthy podName)
  | outcome => return outcome

/-- What a look at a pod says about its replacement: not yet, done, or given up. A pod with the uid
of the one that is to go is not the replacement. -/
def isReplaced (podName revision : String) (replacedUid : Option String) (current : Option Pod) :
    Except Error Bool :=
  match current with
  | none => .ok false
  | some pod =>
    if replacedUid.isSome ∧ pod.metadata.uid = replacedUid then .ok false
    else if pod.hasFailed then .error (.podFailed podName)
    else if !pod.isHealthy then .ok false
    else if pod.isAt revision then .ok true
    else .error (.podOutdated podName)

/-- Takes a pod down unless it is at the revision or going already; the uid that its replacement
must not have. -/
def takeDown (c : Cluster) (pod : Pod) (revision : String) : Procedure (Option String) := do
  if pod.isAt revision then return none
  else if pod.metadata.isTerminating then return pod.metadata.uid
  else
    Store.ensureDeleted .pod pod.name .byKind
    Procedure.step (note (.memberReplaced c.key))
    return pod.metadata.uid

/-- Replaces the pod of a member, unless it is at the revision, and waits for the new one. -/
def replaceMember (c : Cluster) (settings : Settings) (pod : Pod) (revision : String) :
    Procedure Unit := do
  if isExempt c pod.name then return ()
  else
    let replacedUid ← takeDown c pod revision
    poll ("pod " ++ pod.name ++ " to be updated") settings.rollout.podWait do
      let current : Option Pod ← Store.get .pod pod.name
      isReplaced pod.name revision replacedUid current

/-! ### Leadership -/

/-- The statement that makes a server refuse writes. -/
def readOnlyOn : String := "SET GLOBAL super_read_only=on"

/-- The credentials of a cluster, which must have them. -/
def requireCredentials (c : Cluster) : Procedure Credentials := do
  match ← c.credentials? with
  | some credentials => return credentials
  | none => throw (.notFound ("secret " ++ c.secretName))

/-- Makes a leader read-only and waits until some follower has been sent everything. -/
def drain (settings : Settings) (session : Session) (leader : String) : Procedure Unit :=
  poll ("leader " ++ leader ++ " to send all binlog") settings.rollout.binlogDrain do
    Member.execute session readOnlyOn
    checkDrained session

/-- A look at whether a host leads; if not, it is asked to. Only its leading ends the wait. -/
def urge (host password : String) : Procedure Bool := .of do
  match ← (Member.ask host password .view).outcome with
  | .error _ => return .ok false
  | .ok (view : AgentView) =>
    if view.role = .leader then return .ok true
    else
      let _ ← (Member.ask host password .lead).outcome
      return .ok false

/-- Hands leadership over while the move is on record. -/
def handOver (c : Cluster) (settings : Settings) (leader follower : String) : Procedure Unit := do
  let credentials ← requireCredentials c
  let session ← Member.connect credentials (c.hostOf leader) settings.probe
  drain settings session leader
  poll (follower ++ " to become leader") settings.rollout.leaderTransfer
    (urge (c.hostOf follower) credentials.rootPassword)
  Procedure.step (note (.leaderMoved c.key))

/-- Moves leadership to a follower. However this ends, the move is off the record afterwards. -/
def transferLeadership (c : Cluster) (settings : Settings) (leader follower : String) :
    Procedure Unit := .of do
  Program.request (.startHandoff c.key)
  let outcome ← (handOver c settings leader follower).outcome
  Program.request (.stopHandoff c.key)
  return outcome

/-! ### All members -/

/-- Does something for each of several pods, until it fails for one. -/
def forEach (f : Pod → Procedure Unit) : List Pod → Procedure Unit
  | [] => return ()
  | pod :: pods => do
    f pod
    forEach f pods

/-- Refuses to go on while a backup of the cluster runs. -/
def refuseBackup (c : Cluster) : Procedure Unit := do
  let backups : List Backup ← Store.list .backup []
  if backups.any fun b => b.isRunningFor c.name then throw (.backupRunning c.name)

/-- The leader among the members. -/
def leaderOf (members : List Pod) : Option Pod := members.find? Pod.isLeader

/-- The members that are replaced before the leader. -/
def followersOf (members : List Pod) : List Pod :=
  match leaderOf members with
  | some leader => members.filter fun pod => pod.name != leader.name
  | none => members

/-- Replaces the leader, after a transfer to the follower replaced last, if it needs replacement and
there is one. -/
def replaceLeader (c : Cluster) (settings : Settings) (revision : String) (leader : Pod)
    (lastFollower : Option String) : Procedure Unit := do
  match lastFollower with
  | some follower =>
    if !leader.isAt revision then transferLeadership c settings leader.name follower
  | none => pure ()
  replaceMember c settings leader revision

/-- Replaces all members, followers first. -/
def replaceMembers (c : Cluster) (settings : Settings) (revision : String) (members : List Pod) :
    Procedure Unit := do
  let followers := followersOf members
  forEach (fun pod => replaceMember c settings pod revision) followers
  match leaderOf members with
  | some leader =>
    replaceLeader c settings revision leader (followers.getLast?.map Manifest.name)
  | none => return ()

/-- Moves all members to the latest revision of their workload, if the time has come. -/
def rollout (c : Cluster) (settings : Settings) (workload : Workload) : Procedure Unit := do
  if workload.readyReplicas < c.replicas then return ()
  else
    match workload.updateRevision? with
    | none => return ()
    | some revision =>
      refuseBackup c
      let pods : List Pod ← Store.list .pod c.selector
      let members := membersOf c pods
      forEach (fun pod => waitHealthy settings pod.name) members
      replaceMembers c settings revision members

end Topology

end RaftMysql
