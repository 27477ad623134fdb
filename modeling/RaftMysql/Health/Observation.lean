import RaftMysql.Cluster.Status

/-!
# From an observation to the next state

An `Observation` is what a pass saw of a cluster. `propose` derives what should come next from the
state before and the observation: a state, or an error that has to last before it counts.
-/

namespace RaftMysql

/-- What a pass saw of a cluster. -/
structure Observation where
  /-- How many members the cluster should have. -/
  desired : Int := 0
  /-- How many members its workload runs, if it has one. -/
  running : Option Int := none
  /-- How many members are ready. -/
  ready : Int := 0
  /-- The consensus group has a confirmed leader. -/
  raftReady : Bool := false
  /-- Why some member finds no place to run, if one finds none. -/
  unschedulable : Option String := none
  deriving DecidableEq, Repr

/-- What a pass proposes to come next. -/
inductive Proposal where
  | state (state : State)
  | error (reason message : String)
  deriving DecidableEq, Repr

namespace Proposal

/-- The error of a group without a confirmed leader. -/
def raftNotReady : Proposal :=
  .error Condition.raftNotReady "consensus group has no single confirmed leader"

end Proposal

namespace Observation

/-- The change of size under way, if the workload runs another number of members than it should. -/
def scaling? (o : Observation) : Option State :=
  match o.running with
  | some running =>
    if running < o.desired then some .scaleOut
    else if o.desired < running then some .scaleIn
    else none
  | none => none

/-- The state is one that lasts until something changes. -/
def isSettled (s : State) : Bool := s == .ready || s == .closed || s == .error

/-- What should come next after a state. -/
def proposeAfter (o : Observation) (previous : State) : Proposal :=
  match o.unschedulable with
  | some message => .error Condition.unschedulable message
  | none =>
    if o.desired = 0 ∧ o.ready = 0 then .state .closed
    else match if isSettled previous then o.scaling? else none with
      | some scaling => .state scaling
      | none =>
        if previous = .ready ∧ o.ready < o.desired then .state .updating
        else if previous = .ready ∨ previous = .error then
          if o.raftReady then .state .ready else Proposal.raftNotReady
        else if 0 < o.desired ∧ o.ready = o.desired ∧ o.raftReady = true then .state .ready
        else .state previous

/-- What should come next; a cluster never seen before is initializing. -/
def propose (o : Observation) (previous : Option State) : Proposal :=
  match previous with
  | none => .state .initializing
  | some previous => o.proposeAfter previous

end Observation

end RaftMysql
