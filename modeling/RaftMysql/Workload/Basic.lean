import RaftMysql.Object.Claim

/-!
# Workloads

The workload of a cluster runs its members, one pod each, and makes their storage claims from a
template. `updatePending` tells whether members still run an older revision, and
`requestedStorage?` is the size that new data claims would ask for.
-/

namespace RaftMysql

/-- The workload of a cluster. -/
abbrev Workload := Manifest

namespace Workload

/-- How many members the workload should run. -/
def replicas? (w : Workload) : Option Int := w.int? ["spec", "replicas"]

/-- How many members are ready. -/
def readyReplicas (w : Workload) : Int := (w.int? ["status", "readyReplicas"]).getD 0

/-- How many members run the latest revision. -/
def updatedReplicas (w : Workload) : Int := (w.int? ["status", "updatedReplicas"]).getD 0

/-- The latest revision. -/
def updateRevision? (w : Workload) : Option String := w.text? ["status", "updateRevision"]

/-- The generation that the platform has acted upon. -/
def observedGeneration? (w : Workload) : Option Int := w.int? ["status", "observedGeneration"]

/-- Some member still runs an older revision. -/
def updatePending (w : Workload) : Bool := updatedReplicas w < (replicas? w).getD 1

/-- The platform has acted upon the latest generation. -/
def isObserved (w : Workload) : Bool :=
  match observedGeneration? w, w.metadata.generation with
  | some observed, some generation => generation ≤ observed
  | _, _ => false

/-- The name of the data volume and of the template of its claims. -/
def dataVolume : String := "data"

/-- The size that the template of the data claims asks for. -/
def requestedStorage? (w : Workload) : Option String := do
  let data ← (w.items ["spec", "volumeClaimTemplates"]).find? fun t =>
    (t.at? ["metadata", "name"]).bind Json.asText? == some dataVolume
  (data.at? Claim.requestPath).bind Json.asText?

/-- A workload made from scratch, without what the platform keeps track of. -/
def fresh (w : Workload) : Workload :=
  { w with metadata := { w.metadata with version := none, uid := none } }

/-- The second workload has neither version nor uid, and is the first one but for these. -/
structure IsFresh (w made : Workload) : Prop where
  version : made.metadata.version = none
  uid : made.metadata.uid = none
  same : { made with
    metadata := { made.metadata with version := w.metadata.version, uid := w.metadata.uid } } = w

theorem isFresh_fresh (w : Workload) : w.IsFresh w.fresh := ⟨rfl, rfl, rfl⟩

end Workload

end RaftMysql
