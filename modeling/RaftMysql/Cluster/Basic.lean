import RaftMysql.Cluster.Spec
import RaftMysql.Cluster.Status
import RaftMysql.Object.Kind
import RaftMysql.Error
import RaftMysql.Quantity

/-!
# Clusters

A `Cluster` is the object that someone created: metadata, specification and, once observed, status.
Everything the operator creates or looks for is named after it. `Cluster.check` refuses what the
consensus group cannot run with, and `ordinal?` reads back the number that ends the name of a member
pod.
-/

namespace RaftMysql

/-- A cluster as it stands on the platform. -/
structure Cluster where
  metadata : Metadata := {}
  spec : Spec := {}
  status : Option Status := none
  deriving Repr

namespace Cluster

/-! ### Reading and writing -/

/-- Reads a cluster. -/
def ofDocument? (now : Time) : Document.Reader Cluster := fun d => do
  let given ← Document.allFields? ["metadata", "spec", "status"] d
  return ⟨← Document.required given "metadata" Metadata.ofDocument?,
    ← Document.required given "spec" Spec.ofDocument?,
    ← Document.field given "status" (Document.optional? (Status.ofDocument? now)) none⟩

/-- Writes a cluster, which always names its kind. -/
def toJson (c : Cluster) : Json :=
  .ofMembers [("apiVersion", some (.text Kind.cluster.apiVersion)),
    ("kind", some (.text Kind.cluster.name)), ("metadata", some c.metadata.toJson),
    ("spec", some c.spec.toJson), ("status", c.status.map Status.toJson)]

/-! ### Names -/

/-- The name of the cluster. -/
def name (c : Cluster) : String := c.metadata.anyName

/-- The namespace of the cluster. -/
def space (c : Cluster) : String := c.metadata.space.getD ""

/-- The name of the cluster with its namespace. -/
def key (c : Cluster) : String := c.space ++ "/" ++ c.name

/-- How many members the cluster should have. -/
def replicas (c : Cluster) : Int := c.spec.replicas

/-- The cluster is on its way out. -/
def isTerminating (c : Cluster) : Bool := c.metadata.isTerminating

/-- The workload that runs the members; their network name, configuration and disruption budget
are named alike. -/
def workloadName (c : Cluster) : String := c.name ++ "-mysql"

/-- The secret with the credentials. -/
def secretName (c : Cluster) : String := c.name ++ "-secret"

/-- The things that belong to a cluster, and their names. -/
def resourceNames (c : Cluster) : List (String × String) :=
  [("StatefulSet", c.workloadName), ("HeadlessService", c.workloadName),
   ("ConfigMap", c.workloadName), ("PodDisruptionBudget", c.workloadName),
   ("Secret", c.secretName), ("LeaderService", c.name ++ "-leader"),
   ("FollowerService", c.name ++ "-follower"), ("MetricsService", c.name ++ "-metrics"),
   ("ServiceAccount", c.name)]

/-- The member pod with an ordinal. -/
def podName (c : Cluster) (ordinal : Int) : String := c.workloadName ++ "-" ++ toString ordinal

/-- The storage claim of the member with an ordinal. -/
def claimName (c : Cluster) (ordinal : Int) : String := "data-" ++ c.podName ordinal

/-- The host name of a member pod. -/
def hostOf (c : Cluster) (pod : String) : String := pod ++ "." ++ c.workloadName ++ "." ++ c.space

/-- The ordinals of the members that the cluster should have. -/
def ordinals (c : Cluster) : List Int := (List.range c.replicas.toNat).map Int.ofNat

/-- The host names of the members that the cluster should have. -/
def hosts (c : Cluster) : List String := c.ordinals.map fun i => c.hostOf (c.podName i)

/-- The port of consensus peers. -/
def peerPort : Nat := 8801

/-- The peer address of a host. -/
def peerOf (host : String) : String := host ++ ":" ++ toString peerPort

/-- The peer addresses of the members that the cluster should have. -/
def peers (c : Cluster) : List String := c.hosts.map peerOf

/-! ### Labels -/

/-- The label with the name of the cluster. -/
def nameLabel : String := "mysql.radondb.com/cluster"

/-- The label with the role of a member. -/
def roleLabel : String := "role"

/-- The label that vouches for a member. -/
def healthyLabel : String := "healthy"

/-- The label with the revision that a pod was made from. -/
def revisionLabel : String := "controller-revision-hash"

/-- The labels that every object of the cluster is selected by. They never change. -/
def selector (c : Cluster) : Labels :=
  Table.ofPairs [(nameLabel, c.name), ("app.kubernetes.io/name", "mysql"),
    ("app.kubernetes.io/instance", c.name), ("app.kubernetes.io/managed-by", "mysql.radondb.com")]

/-- The labels of every object of the cluster. -/
def labels (c : Cluster) : Labels :=
  (c.selector.insert "app.kubernetes.io/version" c.spec.mysqlVersion).insert
    "app.kubernetes.io/component" "database"

/-- The cluster as the owner of the objects made for it; it must have a name and a uid. -/
def owner? (c : Cluster) : Option Owner := do
  let name ← c.metadata.name
  let uid ← c.metadata.uid
  return ⟨Kind.cluster.apiVersion, Kind.cluster.name, name, uid, some true, none⟩

/-! ### Checks -/

/-- The member counts that a consensus group can run with. -/
def allowedReplicas : List Int := [0, 1, 2, 3, 5]

/-- Refuses what cannot be run. -/
def check (c : Cluster) : Except Error Unit :=
  if c.replicas ∉ allowedReplicas then
    .error (.invalidSpec ("replicas must be one of [0, 1, 2, 3, 5], got " ++ toString c.replicas))
  else if c.spec.persistence.enabled ∧ (Quantity.read? c.spec.persistence.size).isNone then
    .error (.invalidSpec ("persistence.size " ++ Text.quoted c.spec.persistence.size
      ++ " is not a valid quantity"))
  else .ok ()

end Cluster

/-! ### Ordinals -/

/-- The text after the last dash, if there is one. -/
def afterLastDash? (cs : List Char) : Option (List Char) :=
  if '-' ∈ cs then some (cs.reverse.takeWhile (· ≠ '-')).reverse else none

/-- The ordinal that ends a name, after its last dash: a number of 31 bits, which may have zeros or
a plus sign at its front. -/
def ordinal? (name : String) : Option Int := do
  let cs ← afterLastDash? name.toList
  let ds := match cs with
    | '+' :: ds => ds
    | ds => ds
  let n := Decimal.numeral ds
  if ds ≠ [] ∧ ds.all Decimal.isDigit ∧ n < Nat.pow 2 31 then some n else none

end RaftMysql
