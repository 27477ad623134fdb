import RaftMysql.Cluster.State

/-!
# The history of a cluster

A `Condition` records that a cluster entered a state. `Condition.mayFollow` is the table of
transitions that a history may show, and `History.append` adds a condition if the table lets it
follow the latest one, dropping the oldest beyond ten.
-/

namespace RaftMysql

/-- The record of a state that a cluster entered. -/
structure Condition where
  state : State
  verdict : Verdict := .yes
  since : Time
  reason : Option String := none
  message : Option String := none
  deriving DecidableEq, Repr

namespace Condition

/-- The reason when a member pod finds no place. -/
def unschedulable : String := "Unschedulable"

/-- The reason when the group has no confirmed leader. -/
def raftNotReady : String := "RaftNotReady"

/-- The record of an error. -/
def ofError (reason message : String) (now : Time) : Condition :=
  { state := .error, since := now, reason := some reason, message := some message }

/-- The table of transitions. An error gives way to readiness, an end or another error; an ended
cluster to growth or an update; readiness to anything but a repetition of itself; and everything
else to readiness, an end or an error. -/
def mayFollow (last next : Condition) : Bool :=
  match last.state with
  | .error => match next.state with
    | .ready | .closed => true
    | .error => last.reason != next.reason
    | _ => false
  | .closed => next.state == .scaleOut || next.state == .updating
  | .ready => !(next.state == .ready && last.message == next.message)
  | _ => next.state == .ready || next.state == .closed || next.state == .error

/-- Reads a condition. -/
def ofDocument? : Document.Reader Condition := fun d => do
  let given ← Document.fields? ["type", "status", "lastTransitionTime", "reason", "message"] d
  let text := Document.optional? Document.text?
  return ⟨← Document.required given "type" State.ofDocument?,
    ← Document.required given "status" Verdict.ofDocument?,
    ← Document.required given "lastTransitionTime" Document.time?,
    ← Document.field given "reason" text none, ← Document.field given "message" text none⟩

/-- Writes a condition. -/
def toJson (c : Condition) : Json :=
  .ofMembers [("type", some (.text c.state.name)), ("status", some (.text c.verdict.name)),
    ("lastTransitionTime", some (.text c.since.write)), ("reason", c.reason.map .text),
    ("message", c.message.map .text)]

end Condition

/-- The conditions of a cluster, oldest first. -/
abbrev History := List Condition

namespace History

/-- How many conditions a history keeps. -/
def capacity : Nat := 10

/-- The condition may be added to the history. -/
def accepts (h : History) (c : Condition) : Bool :=
  match h.getLast? with
  | none => true
  | some last => last.mayFollow c

/-- The latest conditions that there is room for. -/
def trim (h : History) : History := h.drop (h.length - capacity)

/-- The history with a condition added, if it may be. -/
def append (h : History) (c : Condition) : History :=
  if h.accepts c then trim (h ++ [c]) else h

/-- How long the latest condition has been an error with a reason. Clocks that run backwards count
as no time. -/
def errorAge? (h : History) (reason : String) (now : Time) : Option Duration :=
  match h.getLast? with
  | some last =>
    if last.state = .error ∧ last.reason = some reason then some (now.since last.since).toNat
    else none
  | none => none

end History

end RaftMysql
