import RaftMysql.Topology.Membership
import RaftMysql.Topology.Storage

/-!
# Bringing the workload in line with the cluster

`sync` makes the workload of a cluster what it should be: it creates a missing one, lays the desired
one over one that differs, moves the members to the latest revision, gives back storage and brings
the consensus group in line. A change that the platform refuses for its content is taken for growth
of storage, if it is that.
-/

namespace RaftMysql

/-- What became of the workload. -/
inductive Outcome where
  | created
  | unchanged
  | updated
  /-- Made again around resized claims. -/
  | expanded
  /-- Left alone, since the cluster is going. -/
  | skipped
  deriving DecidableEq, Repr

namespace Outcome

/-- The word for an outcome. -/
def name : Outcome → String
  | created => "created"
  | unchanged => "unchanged"
  | updated => "updated"
  | expanded => "expanded"
  | skipped => "skipped"

end Outcome

namespace Topology

/-- The desired workload asks for strictly more storage than the live one. -/
def grows (live desired : Workload) : Bool :=
  match desired.requestedStorage?, live.requestedStorage? with
  | some new, some old => Quantity.isLarger new old
  | _, _ => false

/-- Goes on after a refused change: by growing the storage, or not at all. -/
def afterRefusal (c : Cluster) (settings : Settings) (error : Error) (live desired : Workload) :
    Procedure Outcome := do
  if error.isInvalid && grows live desired then
    expand c settings.storage.resizeWait desired
    Procedure.step (note (.storageGrown c.key))
    return .expanded
  else throw error

/-- Waits until the platform has acted upon the workload, and reads it again. -/
def waitObserved (c : Cluster) (settings : Settings) : Procedure Workload := do
  poll ("statefulset " ++ c.workloadName ++ " to observe its generation")
    settings.rollout.generationWait do
      let workload : Option Workload ← Store.get .workload c.workloadName
      return match workload with
        | some workload => workload.isObserved
        | none => false
  let workload : Option Workload ← Store.get .workload c.workloadName
  match workload with
  | some workload => return workload
  | none => throw (.notFound ("statefulset " ++ c.workloadName))

/-- Moves the members to the latest revision, if some are not at it. -/
def rolloutIfPending (c : Cluster) (settings : Settings) (workload : Workload) :
    Procedure Unit := do
  if workload.updatePending then rollout c settings workload

/-- Goes on with a workload that is already what it should be. -/
def keep (c : Cluster) (settings : Settings) (live : Workload) : Procedure Outcome := do
  rolloutIfPending c settings live
  Procedure.step (align c)
  return .unchanged

/-- Changes a workload and goes on from there. -/
def change (c : Cluster) (settings : Settings) (live desired merged : Workload) :
    Procedure Outcome := do
  match ← Procedure.step (Store.replace .workload merged).outcome with
  | .error e => afterRefusal c settings e live desired
  | .ok _ =>
    rolloutIfPending c settings (← waitObserved c settings)
    let _ ← giveBack c
    Procedure.step (align c)
    return .updated

/-- Brings an existing workload in line. -/
def bringInLine (c : Cluster) (settings : Settings) (live desired : Workload) :
    Procedure Outcome := do
  match Manifest.overlay? .workload live desired with
  | none => throw .malformed
  | some (merged, changed) =>
    if changed then change c settings live desired merged else keep c settings live

/-- Makes the workload of a cluster what it should be. A cluster that is going has none to make. -/
def settle (c : Cluster) (settings : Settings) : Procedure Outcome := do
  if c.isTerminating then throw .ownerDeleted
  else
    let desired := Workload.desired c
    let live : Option Workload ← Store.get .workload c.workloadName
    match live with
    | none =>
      let _ ← Store.create .workload desired
      return .created
    | some live => bringInLine c settings live desired

/-- Brings the workload of a cluster in line. A cluster that is going is left alone, whether that is
seen at once or only on the way. -/
def sync (c : Cluster) (settings : Settings) : Procedure Outcome := .of do
  match ← (settle c settings).outcome with
  | .error .ownerDeleted => return .ok .skipped
  | outcome => return outcome

end Topology

end RaftMysql
