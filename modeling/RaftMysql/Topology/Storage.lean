import RaftMysql.Workload.Template
import RaftMysql.Program.Waiting

/-!
# Growing and giving back storage

The claim templates of a workload never change once it exists. To grow the data volumes, the
workload is removed without its pods, every claim is resized by itself, and the workload is made
again. `giveBack` removes the claims of members beyond the desired count.
-/

namespace RaftMysql

namespace Topology

/-- Resizes one claim and waits until that is done or the claim is gone. -/
def resizeClaim (c : Cluster) (wait : Wait) (size : String) (claim : Claim) : Procedure Unit := do
  let _ ← Store.replace .claim (claim.resized size c.owner?)
  poll ("resize of pvc " ++ claim.name) wait do
    let current : Option Claim ← Store.get .claim claim.name
    return match current with
      | some current => current.isSettled size
      | none => true

/-- Resizes claims one after the other, except those on their way out. -/
def resizeClaims (c : Cluster) (wait : Wait) (size : String) : List Claim → Procedure Unit
  | [] => return ()
  | claim :: claims => do
    if !claim.metadata.isTerminating then resizeClaim c wait size claim
    resizeClaims c wait size claims

/-- Grows the storage of a cluster to what the desired workload asks for. -/
def expand (c : Cluster) (wait : Wait) (desired : Workload) : Procedure Unit := do
  match desired.requestedStorage? with
  | none => throw (.internal ("workload of " ++ c.key ++ " has no data claim template"))
  | some size =>
    Store.ensureDeleted .workload c.workloadName .orphan
    let claims : List Claim ← Store.list .claim c.selector
    resizeClaims c wait size claims
    let _ ← Store.create .workload desired.fresh

/-- The claim belongs to a member beyond the desired count and is not on its way out. -/
def isExcess (c : Cluster) (claim : Claim) : Bool :=
  !claim.metadata.isTerminating && match ordinal? claim.name with
    | some ordinal => c.replicas ≤ ordinal
    | none => false

/-- Removes claims one after the other; how many were removed here. -/
def removeClaims : Nat → List Claim → Procedure Nat
  | removed, [] => return removed
  | removed, claim :: claims => do
    match ← Procedure.step (Store.delete .claim claim.name .byKind).outcome with
    | .ok () => removeClaims (removed + 1) claims
    | .error e => if e.isNotFound then removeClaims removed claims else throw e

/-- Removes the claims of members beyond the desired count; how many were removed here. -/
def giveBack (c : Cluster) : Procedure Nat := do
  let claims : List Claim ← Store.list .claim c.selector
  removeClaims 0 (claims.filter (isExcess c))

end Topology

end RaftMysql
