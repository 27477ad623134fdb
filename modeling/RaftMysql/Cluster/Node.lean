import RaftMysql.Cluster.State

/-!
# What is known of a member

A `Role` is the part a member plays in its consensus group. A `Node` keeps what the latest look at a
member found: its role, leader and peers, four conditions with the time each last changed, and the
error met, if any. `NodeConditions.isHealthy` is the judgement that lets an update go on.
-/

namespace RaftMysql

/-- The part a member plays in its consensus group. -/
inductive Role where
  | leader
  | follower
  | candidate
  | idle
  | unknown
  deriving DecidableEq, Repr

namespace Role

/-- The name that consensus agents use. -/
def name : Role → String
  | leader => "LEADER"
  | follower => "FOLLOWER"
  | candidate => "CANDIDATE"
  | idle => "IDLE"
  | unknown => "UNKNOWN"

/-- The role with a name; any other name is an unknown role. -/
def ofName (name : String) : Role :=
  if name = "LEADER" then leader
  else if name = "FOLLOWER" then follower
  else if name = "CANDIDATE" then candidate
  else if name = "IDLE" then idle
  else unknown

/-- The value of the role label of a pod. -/
def label : Role → String
  | leader => "leader"
  | follower => "follower"
  | _ => "candidate"

/-- A role is known by its name. -/
@[simp] theorem ofName_name (r : Role) : ofName r.name = r := by cases r <;> decide

end Role

/-- The consensus group as one member sees it. -/
structure Consensus where
  role : String := ""
  leader : String := ""
  peers : List String := []
  deriving DecidableEq, Repr

namespace Consensus

/-- Reads a stored view. -/
def ofDocument? : Document.Reader Consensus := fun d => do
  let given ← Document.fields? ["role", "leader", "nodes"] d
  return ⟨← Document.field given "role" Document.text? "",
    ← Document.field given "leader" Document.text? "",
    ← Document.field given "nodes" (Document.list? Document.text?) []⟩

/-- Writes a view, without what is empty. -/
def toJson (c : Consensus) : Json :=
  let unlessEmpty (s : String) : Option Json := if s = "" then none else some (.text s)
  .ofMembers [("role", unlessEmpty c.role), ("leader", unlessEmpty c.leader),
    ("nodes", if c.peers = [] then none else some (.list (c.peers.map .text)))]

end Consensus

/-- The questions asked about a member. -/
inductive Aspect where
  | lagged
  | leader
  | readOnly
  | replicating
  deriving DecidableEq, Repr

namespace Aspect

/-- Every question, in the order in which the answers are written. -/
def all : List Aspect := [lagged, leader, readOnly, replicating]

/-- The name of a question. -/
def name : Aspect → String
  | lagged => "Lagged"
  | leader => "Leader"
  | readOnly => "ReadOnly"
  | replicating => "Replicating"

/-- Reads the name of a question. -/
def ofDocument? : Document.Reader Aspect := Document.oneOf? (all.map fun a => (a.name, a))

end Aspect

/-- An answer and the time since when it has been given. -/
structure Slot where
  verdict : Verdict
  since : Time
  deriving DecidableEq, Repr

namespace Slot

/-- The slot with an answer given now; the time moves only when the answer changes. -/
def record (s : Slot) (verdict : Verdict) (now : Time) : Slot :=
  if s.verdict = verdict then s else ⟨verdict, now⟩

end Slot

/-- The four answers about a member. -/
structure NodeConditions where
  lagged : Slot
  leader : Slot
  readOnly : Slot
  replicating : Slot
  deriving DecidableEq, Repr

namespace NodeConditions

/-- Nothing is known. -/
def unknown (now : Time) : NodeConditions :=
  let slot : Slot := ⟨.unknown, now⟩
  ⟨slot, slot, slot, slot⟩

/-- The answer to a question, with its time. -/
def get (c : NodeConditions) : Aspect → Slot
  | .lagged => c.lagged
  | .leader => c.leader
  | .readOnly => c.readOnly
  | .replicating => c.replicating

/-- The answers with one of them replaced. -/
def put (c : NodeConditions) (aspect : Aspect) (slot : Slot) : NodeConditions :=
  match aspect with
  | .lagged => { c with lagged := slot }
  | .leader => { c with leader := slot }
  | .readOnly => { c with readOnly := slot }
  | .replicating => { c with replicating := slot }

/-- The answers with one of them given now. -/
def record (c : NodeConditions) (aspect : Aspect) (verdict : Verdict) (now : Time) :
    NodeConditions :=
  c.put aspect ((c.get aspect).record verdict now)

/-- A member that keeps up, and is either a read-only replicating follower or a writable leader that
replicates from no one. -/
def isHealthy (c : NodeConditions) : Bool :=
  c.lagged.verdict == .no &&
    ((c.leader.verdict == .no && c.readOnly.verdict == .yes && c.replicating.verdict == .yes) ||
      (c.leader.verdict == .yes && c.readOnly.verdict == .no && c.replicating.verdict == .no))

@[simp] theorem get_put (c : NodeConditions) (a b : Aspect) (s : Slot) :
    (c.put a s).get b = if a = b then s else c.get b := by cases a <;> cases b <;> rfl

/-- One answer as written. -/
def entryToJson (c : NodeConditions) (aspect : Aspect) : Json :=
  let slot := c.get aspect
  .ofPairs [("type", .text aspect.name), ("status", .text slot.verdict.name),
    ("lastTransitionTime", .text slot.since.write)]

/-- Writes the four answers as a list. -/
def toJson (c : NodeConditions) : Json := .list (Aspect.all.map c.entryToJson)

/-- Reads one answer. -/
def entryOfDocument? : Document.Reader (Aspect × Slot) := fun d => do
  let given ← Document.fields? ["type", "status", "lastTransitionTime"] d
  return (← Document.required given "type" Aspect.ofDocument?,
    ⟨← Document.required given "status" Verdict.ofDocument?,
      ← Document.required given "lastTransitionTime" Document.time?⟩)

/-- The answers of a list: the last of each question, and for one that is missing nothing known
since the oldest time listed. -/
def ofEntries (entries : List (Aspect × Slot)) (now : Time) : NodeConditions :=
  let oldest := match entries.map (·.2.since) with
    | [] => now
    | t :: ts => ts.foldl Time.earlier t
  entries.foldl (fun c e => c.put e.1 e.2) (unknown oldest)

/-- Reads a list of answers. -/
def ofDocument? (now : Time) : Document.Reader NodeConditions := fun d =>
  (Document.list? entryOfDocument? d).map (ofEntries · now)

end NodeConditions

/-- What is known of one member. -/
structure Node where
  /-- The host name of the member. -/
  name : String
  /-- The error that the latest look met, if any. -/
  message : Option String := none
  consensus : Consensus := {}
  conditions : NodeConditions
  deriving DecidableEq, Repr

namespace Node

/-- A member of which nothing is known. -/
def unknown (name : String) (now : Time) : Node :=
  { name := name, conditions := .unknown now }

/-- The role of the member. -/
def role (n : Node) : Role := Role.ofName n.consensus.role

/-- Reads an entry; answers that are missing altogether are unknown from now on. -/
def ofDocument? (now : Time) : Document.Reader Node := fun d => do
  let given ← Document.fields? ["name", "message", "raftStatus", "conditions"] d
  return ⟨← Document.required given "name" Document.text?,
    ← Document.field given "message" (Document.optional? Document.text?) none,
    ← Document.field given "raftStatus" Consensus.ofDocument? {},
    ← Document.field given "conditions" (NodeConditions.ofDocument? now) (.unknown now)⟩

/-- Writes an entry. -/
def toJson (n : Node) : Json :=
  .ofMembers [("name", some (.text n.name)), ("message", n.message.map .text),
    ("raftStatus", some n.consensus.toJson), ("conditions", some n.conditions.toJson)]

end Node

end RaftMysql
