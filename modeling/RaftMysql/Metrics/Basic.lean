import RaftMysql.Cluster.State
import RaftMysql.Time.Basic

/-!
# Metrics

`Metrics` counts what happens: passes and how long they took, members ready and states of clusters,
members replaced, leaderships moved, storage grown, and errors by kind. `Metrics.record` takes note
of an `Occurrence`.
-/

namespace RaftMysql

/-- Something worth counting. -/
inductive Occurrence where
  /-- A pass over a cluster ended, well or not, after so long. -/
  | passed (cluster : String) (success : Bool) (took : Duration)
  /-- A cluster was observed. -/
  | observed (cluster : String) (ready : Int) (state : Option State)
  /-- A member was taken down to be replaced. -/
  | memberReplaced (cluster : String)
  /-- Leadership moved to another member. -/
  | leaderMoved (cluster : String)
  /-- The storage of the members was grown. -/
  | storageGrown (cluster : String)
  /-- An error of a kind came up. -/
  | failed (label : String)
  deriving DecidableEq, Repr

/-- Values under rows of label values, in ascending order of the rows. -/
abbrev Series (α : Type) := List (List String × α)

namespace Series

variable {α : Type}

/-- The series with the value under a row of label values changed, starting from a default. -/
def update (s : Series α) (labels : List String) (default : α) (change : α → α) : Series α :=
  match s with
  | [] => [(labels, change default)]
  | (ls, v) :: rest =>
    if ls = labels then (ls, change v) :: rest
    else if labels < ls then (labels, change default) :: (ls, v) :: rest
    else (ls, v) :: update rest labels default change

end Series

/-- How long passes took: how many stayed within each bound, their sum in seconds and their
number. -/
structure Histogram where
  within : List Nat := List.replicate 11 0
  sum : Float := 0
  count : Nat := 0

namespace Histogram

/-- The bounds in milliseconds. -/
def bounds : List Nat := [5, 10, 25, 50, 100, 250, 500, 1000, 2500, 5000, 10000]

/-- The histogram with one more length of time. -/
def observe (h : Histogram) (d : Duration) : Histogram where
  within := (bounds.zip h.within).map fun (bound, n) =>
    if d ≤ Duration.ofMillis bound then n + 1 else n
  sum := h.sum + Duration.inSeconds d
  count := h.count + 1

end Histogram

/-- Everything counted so far. -/
structure Metrics where
  passes : Series Nat := []
  durations : Series Histogram := []
  readyNodes : Series Int := []
  states : Series (Option State) := []
  memberUpdates : Series Nat := []
  leaderTransfers : Series Nat := []
  expansions : Series Nat := []
  errors : Series Nat := []

namespace Metrics

/-- Takes note of an occurrence. -/
def record (m : Metrics) : Occurrence → Metrics
  | .passed cluster success took =>
    { m with
      passes := m.passes.update [cluster, if success then "success" else "failure"] 0 (· + 1)
      durations := m.durations.update [cluster] {} (·.observe took) }
  | .observed cluster ready state =>
    { m with
      readyNodes := m.readyNodes.update [cluster] 0 fun _ => ready
      states := m.states.update [cluster] none fun _ => state }
  | .memberReplaced cluster =>
    { m with memberUpdates := m.memberUpdates.update [cluster] 0 (· + 1) }
  | .leaderMoved cluster =>
    { m with leaderTransfers := m.leaderTransfers.update [cluster] 0 (· + 1) }
  | .storageGrown cluster =>
    { m with expansions := m.expansions.update [cluster] 0 (· + 1) }
  | .failed label => { m with errors := m.errors.update [label] 0 (· + 1) }

end Metrics

end RaftMysql
