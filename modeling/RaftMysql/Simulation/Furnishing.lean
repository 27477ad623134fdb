import RaftMysql.Simulation.Platform
import RaftMysql.Workload.Template

/-!
# Objects as the platform would have made them

The pod and the data claim of a member, the workload and the secret of a cluster, ready to be put in
place in a simulated platform.
-/

namespace RaftMysql.Simulation

/-- A condition that holds. -/
def holds (type : String) : Json := .ofPairs [("type", .text type), ("status", .text "True")]

/-- The metadata of an object of a cluster. -/
def metadataFor (c : Cluster) (name : String) (labels : Labels) : Json :=
  .ofMembers [("name", some (.text name)), ("namespace", c.metadata.space.map .text),
    ("labels", some (.ofTexts labels))]

/-- The running pod of a member. -/
def podOf (c : Cluster) (ordinal : Int) (role healthy revision : String) : Json :=
  let labels := ((c.selector.insert Cluster.roleLabel role).insert Cluster.healthyLabel healthy).insert
    Cluster.revisionLabel revision
  .ofPairs [("apiVersion", .text Kind.pod.apiVersion), ("kind", .text Kind.pod.name),
    ("metadata", metadataFor c (c.podName ordinal) labels),
    ("status", .ofPairs [("phase", .text "Running"),
      ("conditions", .list [holds "PodScheduled", holds "ContainersReady"])])]

/-- The bound data claim of a member. -/
def claimOf (c : Cluster) (ordinal : Int) (size : String) : Json :=
  let storage := Json.ofPairs [("storage", .text size)]
  .ofPairs [("apiVersion", .text Kind.claim.apiVersion), ("kind", .text Kind.claim.name),
    ("metadata", metadataFor c (c.claimName ordinal) c.selector),
    ("spec", .ofPairs [("accessModes", .list [.text "ReadWriteOnce"]),
      ("resources", .ofPairs [("requests", storage)])]),
    ("status", .ofPairs [("phase", .text "Bound"), ("capacity", storage)])]

/-- The desired workload, with so many members ready and updated; all of them by default. -/
def workloadOf (c : Cluster) (ready updated : Option Int) (revision : String) : Json :=
  ((Workload.desired c).toJson .workload).setMember "status" (.ofPairs
    [("replicas", .int c.replicas), ("readyReplicas", .int (ready.getD c.replicas)),
     ("updatedReplicas", .int (updated.getD c.replicas)), ("updateRevision", .text revision),
     ("observedGeneration", .int 1)])

/-- The secret of a cluster. -/
def secretOf (c : Cluster) : Json :=
  .ofPairs [("apiVersion", .text Kind.secret.apiVersion), ("kind", .text Kind.secret.name),
    ("metadata", .ofMembers [("name", some (.text c.secretName)),
      ("namespace", c.metadata.space.map .text)]),
    ("stringData", .ofPairs [("operator-user", .text "operator"),
      ("operator-password", .text "0p-pw"), ("root-password", .text "r00t-pw")])]

end RaftMysql.Simulation
