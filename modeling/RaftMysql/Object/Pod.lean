import RaftMysql.Object.Manifest
import RaftMysql.Cluster.Basic

/-!
# Member pods

What the operator reads off a pod: whether its containers are ready, whether it found a place to
run, whether it failed, and what its labels say about the member in it.
-/

namespace RaftMysql

/-- A pod. -/
abbrev Pod := Manifest

namespace Pod

/-- The conditions that the platform reports of a pod. -/
def conditions (p : Pod) : List Json := p.items ["status", "conditions"]

/-- A text of a condition. -/
def conditionText? (condition : Json) (key : String) : Option String :=
  (condition.member? key).bind Json.asText?

/-- All containers of the pod are ready. -/
def isReady (p : Pod) : Bool :=
  (conditions p).any fun c =>
    conditionText? c "type" == some "ContainersReady" && conditionText? c "status" == some "True"

/-- Why the pod finds no place to run, if it finds none. -/
def unschedulable? (p : Pod) : Option String :=
  ((conditions p).find? fun c =>
    conditionText? c "type" == some "PodScheduled" &&
      conditionText? c "reason" == some Condition.unschedulable).map fun c =>
    (conditionText? c "message").getD ("pod " ++ p.name ++ " is unschedulable")

/-- The phase of the pod. -/
def phase? (p : Pod) : Option String := p.text? ["status", "phase"]

/-- The pod failed for good. -/
def hasFailed (p : Pod) : Bool := phase? p == some "Failed"

/-- The labels of the pod vouch for the member in it. -/
def isHealthy (p : Pod) : Bool := p.label? Cluster.healthyLabel == some "yes"

/-- The labels of the pod call the member in it the leader. -/
def isLeader (p : Pod) : Bool := p.label? Cluster.roleLabel == some Role.leader.label

/-- The revision that the pod was made from. -/
def revision? (p : Pod) : Option String := p.label? Cluster.revisionLabel

/-- The pod was made from a revision. -/
def isAt (p : Pod) (revision : String) : Bool := revision? p == some revision

/-- The values that the role and health labels of a pod should have. -/
def wantedLabels (role : Role) (healthy : Bool) : List (String × String) :=
  [(Cluster.roleLabel, role.label), (Cluster.healthyLabel, if healthy then "yes" else "no")]

/-- The pod already has these values. -/
def hasLabels (p : Pod) (wanted : List (String × String)) : Bool :=
  wanted.all fun w => p.label? w.1 == some w.2

/-- The pod with labels set. -/
def setLabels (p : Pod) (wanted : List (String × String)) : Pod :=
  { p with metadata := wanted.foldl (fun m w => m.setLabel w.1 w.2) p.metadata }

end Pod

end RaftMysql
