import RaftMysql.Topology.Sync

/-!
# What the operator does about a cluster

Two loops look after every cluster. `reconcile` observes it and then brings its workload in line, and
tells people what came of it. `observe` only observes, and does so often, so that the labels of the
pods stay true while a long rollout holds the other loop. Both say when to come back, unless the
program ends on the way. Before either begins, `verify` makes sure that the platform knows clusters.
-/

namespace RaftMysql

/-- When to come back to a cluster. -/
inductive Visit where
  /-- After some time. -/
  | after (time : Duration)
  /-- When it changes. -/
  | onChange
  /-- Not again: the loop has ended, and the program with it. -/
  | never
  deriving DecidableEq, Repr

namespace Operator

/-- The name under which the operator tells people what it did. -/
def reporter : String := "mysql-operator"

/-- What the operator says it was doing. -/
def action : String := "Reconcile"

/-- Tells people something. -/
def publish (warning : Bool) (reason text : String) : Program Unit :=
  Program.request (.publish ⟨warning, reason, text⟩)

/-- Makes sure that the platform knows clusters. -/
def verify : Procedure Unit := .of do
  match ← (Store.serves .cluster).outcome with
  | .ok () => return .ok ()
  | .error _ => return .error .definitionMissing

/-- Counts an error. -/
def count (e : Error) : Program Unit := note (.failed e.label)

/-- Tells people that a cluster cannot be run. -/
def reject (e : Error) : Program Unit := do
  count e
  publish true "InvalidSpec" e.message

/-- Observes a cluster that is not going. A status that someone else wrote in between is left
alone. -/
def observeFirst (c : Cluster) (settings : Settings) : Program Unit := do
  if c.isTerminating then return ()
  else
    match ← (Health.pass c settings).outcome with
    | .ok _ => return ()
    | .error e => if e.isConflict then return () else count e

/-- Brings the workload in line and tells people what came of it. -/
def syncWorkload (c : Cluster) (settings : Settings) : Procedure Outcome := .of do
  match ← (Topology.sync c settings).outcome with
  | .ok outcome =>
    publish false "StatefulSetSyncSuccessful"
      ("StatefulSet " ++ c.workloadName ++ " " ++ outcome.name)
    return .ok outcome
  | .error .overflow => return .error .overflow
  | .error e =>
    publish true "StatefulSetSyncFailed" ("StatefulSet " ++ c.workloadName ++ ": " ++ e.message)
    return .error e

/-- Looks after a cluster that can be run, and counts how long that took. -/
def lookAfter (c : Cluster) (settings : Settings) : Procedure Outcome := .of do
  let start ← Program.request .clock
  observeFirst c settings
  let outcome ← (syncWorkload c settings).outcome
  let stop ← Program.request .clock
  match outcome with
  | .ok outcome =>
    note (.passed c.key true (stop - start))
    return .ok outcome
  | .error .overflow => return .error .overflow
  | .error e =>
    note (.passed c.key false (stop - start))
    count e
    return .error e

/-- One turn of the first loop. A cluster that cannot be run waits until it is changed. -/
def reconcile (c : Cluster) (settings : Settings) : Program Visit := do
  match c.check with
  | .error e =>
    reject e
    return .onChange
  | .ok () =>
    match ← (lookAfter c settings).outcome with
    | .ok _ => return .after settings.requeue.after
    | .error .overflow => return .never
    | .error _ => return .after settings.requeue.afterError

/-- One turn of the second loop. A cluster that is going or cannot be run waits until it is
changed. -/
def observe (c : Cluster) (settings : Settings) : Program Visit := do
  if c.isTerminating || !succeeded c.check then return .onChange
  else
    match ← (Health.pass c settings).outcome with
    | .ok _ => return .after settings.status.interval
    | .error e =>
      if !e.isConflict then count e
      return .after settings.status.interval

end Operator

end RaftMysql
