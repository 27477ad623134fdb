import RaftMysql.Simulation.Furnishing
import RaftMysql.Simulation.Group
import RaftMysql.Member.Handoffs
import RaftMysql.Program.Basic

/-!
# A simulated world

A `World` is a simulated platform, a group of simulated members, a clock that only pauses and changes
from outside move, and an agenda of changes to come. `World.answer` answers every request that a
procedure can make, so that `World.run` runs a procedure in it. Before a call to the object store or to
an agent is answered, the changes that are due are carried out in the order of their times, and among
those of one time in the order in which they were put on the agenda; sessions and statements are
answered as things stand. Calls that failed, and those that changed something, are kept in a journal.
-/

namespace RaftMysql.Simulation

/-- A call as it is kept. -/
inductive Entry where
  | store (call : String) (failure : Option Error)
  | agent (host password : String) (call : AgentCall) (refusal : Option Nat)
  | connect (login : Login) (failed : Bool)
  | sql (host statement : String) (failed : Bool)

/-- A change to be carried out at a moment of the clock. -/
structure Appointment where
  due : Duration
  change : Change

/-- A simulated world around one cluster. -/
structure World where
  /-- The time of day when the clock stood at zero. -/
  start : Time
  clock : Duration := 0
  settings : Settings
  /-- The cluster that the step under way is about. -/
  cluster : Cluster
  /-- Copies of the cluster, among them the first one and the one last seen. -/
  saved : Table Cluster := []
  platform : Platform := {}
  group : Group := {}
  /-- The moves of leadership on record; one that was put there from outside is held. -/
  handoffs : HeldHandoffs := {}
  metrics : Metrics := {}
  /-- The faults, in the order in which they were set up. -/
  faults : List Fault := []
  /-- The changes to come, in the order in which they were put there. -/
  agenda : List Appointment := []
  /-- The calls since the journal was last read, in reverse. -/
  journal : List Entry := []

namespace World

/-- The time of day. -/
def now (w : World) : Time := w.start.after w.clock

/-- The world with a call kept. -/
def log (w : World) (e : Entry) : World := { w with journal := e :: w.journal }

/-- The world with a change on the agenda. -/
def plan (w : World) (due : Duration) (change : Change) : World :=
  { w with agenda := w.agenda ++ [⟨due, change⟩] }

/-! ### Changes from outside -/

/-- The name under which a move of leadership from outside is held. -/
def outside : String := "outside"

/-- The moves of leadership on record. -/
def moves (w : World) : Handoffs := w.handoffs.moves

/-- The world with other moves of leadership on record. -/
def setMoves (w : World) (moves : Handoffs) : World :=
  { w with handoffs := { w.handoffs with moves := moves } }

/-- The world with an object put in place. -/
def seed (w : World) (kind : Kind) (object : Json) : World :=
  { w with platform := w.platform.seed kind object }

/-- The world with a member patched. -/
def patchMember (w : World) (host : String) (patch : Json) : World :=
  { w with group := w.group.patch host patch }

/-- The world with the pod of a member in place and its servers started. -/
def seedMember (leader : Int) (w : World) (ordinal : Int) : World :=
  let c := w.cluster
  let role : Role := if ordinal = leader then .leader else .follower
  (w.seed .pod (podOf c ordinal role.label "yes" "rev-1")).patchMember (c.hostOf (c.podName ordinal))
    (.ofPairs [("state", .text role.name)])

/-- The world after a change that was due at a moment of the clock. -/
def apply (w : World) (due : Duration) : Change → World
  | .seed kind object => w.seed kind object
  | .seedPod ordinal role healthy revision patch =>
    w.seed .pod ((podOf w.cluster ordinal role healthy revision).patchResolved patch)
  | .seedClaim ordinal size patch =>
    w.seed .claim ((claimOf w.cluster ordinal size).patchResolved patch)
  | .seedWorkload ready updated revision =>
    w.seed .workload (workloadOf w.cluster ready updated revision)
  | .seedSecret patch => w.seed .secret ((secretOf w.cluster).patchResolved patch)
  | .seedMembers leader => w.cluster.ordinals.foldl (seedMember leader) w
  | .edit kind name patch => { w with platform := w.platform.edit kind name patch }
  | .remove kind name => { w with platform := w.platform.remove kind name }
  | .member host patch => w.patchMember host patch
  | .peers peers => { w with group := { w.group with peers := peers } }
  | .save name => { w with saved := w.saved.insert name w.cluster }
  | .advance time => { w with clock := w.clock + time }
  | .beginHandoff => { w with handoffs := w.handoffs.hold outside w.cluster.key }
  | .endHandoff => { w with handoffs := w.handoffs.release outside }
  | .fault fault => { w with faults := w.faults ++ [fault] }
  | .hook hook => { w with platform := { w.platform with hooks := hook :: w.platform.hooks } }
  | .later after change => w.plan (due + after) change

/-! ### The agenda -/

/-- The appointment to keep first of those that are due: the first of the earliest. -/
def firstDue? (clock : Duration) (agenda : List Appointment) : Option Appointment :=
  (agenda.filter fun a => a.due ≤ clock).foldl
    (fun best a => match best with
      | some b => if a.due < b.due then some a else some b
      | none => some a) none

/-- An agenda without the first appointment at a time. -/
def withoutFirst (due : Duration) : List Appointment → List Appointment
  | [] => []
  | a :: agenda => if a.due = due then agenda else a :: withoutFirst due agenda

/-- Carries out at most so many changes that are due. -/
def carryOut (w : World) : Nat → World
  | 0 => w
  | changes + 1 =>
    match firstDue? w.clock w.agenda with
    | none => w
    | some a =>
      carryOut ({ w with agenda := withoutFirst a.due w.agenda }.apply a.due a.change) changes

/-- Carries out the changes that are due. -/
def catchUp (w : World) : World :=
  w.carryOut (w.agenda.foldr (fun a n => a.change.depth + n) 0)

/-- The name of the copy of the cluster as it was last seen. -/
def last : String := "last"

/-- The world about a copy of the cluster, if there is one of that name. -/
def about (w : World) (name : String) : World :=
  { w with cluster := (w.saved.get? name).getD w.cluster }

/-- The world about the stored cluster, or if none is stored, about the one last seen. -/
def look (w : World) : World :=
  let stored := w.platform.get? .cluster w.cluster.name
  match stored.bind fun v => Kind.cluster.read? w.now (Document.ofJson v) with
  | some (c : Cluster) => { w with cluster := c, saved := w.saved.insert last c }
  | none => w.about last

/-- The beginning of a step: what is due is carried out, and the cluster is looked at unless the step
is about a copy. -/
def beginStep (w : World) (copy : Option String) : World :=
  match copy with
  | some name => w.catchUp.about name
  | none => w.catchUp.look

/-! ### Calls to the object store -/

/-- The fault that makes a call fail, and the faults after the call. The first fault about the call
that is not used up counts; one that still lets calls through leaves the call to the next. A call is
told by its text in the journal, so that a deletion that leaves the dependents behind is another call
than one that does not. -/
def pickFault (call : String) : List Fault → Option Error × List Fault
  | [] => (none, [])
  | f :: fs =>
    if f.call = call ∧ f.times ≠ 0 then
      if f.skip = 0 then (some f.error, { f with times := f.times - 1 } :: fs)
      else
        let (error, fs) := pickFault call fs
        (error, { f with skip := f.skip - 1 } :: fs)
    else
      let (error, fs) := pickFault call fs
      (error, f :: fs)

/-- An object as a kind reads it. -/
def readObject (w : World) (kind : Kind) (v : Json) : Except Error kind.Object :=
  match kind.read? w.now (Document.ofJson v) with
  | some object => .ok object
  | none => .error .malformed

/-- Answers a call to the object store, of which a success may be kept too. -/
def call {α : Type} (w : World) (name : String) (changes : Bool)
    (act : World → Except Error (α × World)) : Except Error α × World :=
  let w := w.catchUp
  let (fault, faults) := pickFault name w.faults
  let w := { w with faults := faults }
  match fault with
  | some e => (.error e, w.log (.store name (some e)))
  | none => match act w with
    | .error e => (.error e, w.log (.store name (some e)))
    | .ok (answer, after) =>
      (.ok answer, if changes then after.log (.store name none) else after)

/-- The world after a call that changed the platform. -/
def settle (w : World) (effect : Effect) : World :=
  effect.later.foldl (fun w l => w.plan (w.clock + l.1) l.2) { w with platform := effect.platform }

/-- Answers a write, which returns what was stored. -/
def write (w : World) (verb : String) (kind : Kind) (object : kind.Object)
    (act : Platform → Kind → Json → Except Error Effect) : Except Error kind.Object × World :=
  w.call (verb ++ " " ++ kind.singular ++ "/" ++ kind.nameOf object) true fun w => do
    let effect ← act w.platform kind (kind.write object)
    return (← w.readObject kind effect.object, w.settle effect)

/-- Answers a request for an object. -/
def get (w : World) (kind : Kind) (name : String) : Except Error (Option kind.Object) × World :=
  w.call ("get " ++ kind.singular ++ "/" ++ name) false fun w => do
    match w.platform.get? kind name with
    | none => return (none, w)
    | some v => return (some (← w.readObject kind v), w)

/-- Answers a request for the objects that satisfy a selector. -/
def list (w : World) (kind : Kind) (selector : Labels) :
    Except Error (List kind.Object) × World :=
  w.call ("list " ++ kind.singular) false fun w => do
    return (← (w.platform.list kind selector).mapM (w.readObject kind), w)

/-- Answers a deletion. -/
def delete (w : World) (kind : Kind) (name : String) (propagation : Propagation) :
    Except Error Unit × World :=
  let manner := match propagation with
    | .orphan => " orphan"
    | .byKind => ""
  w.call ("delete " ++ kind.singular ++ "/" ++ name ++ manner) true fun w => do
    return ((), w.settle (← w.platform.delete kind name))

/-! ### Calls to members -/

/-- Answers a call to an agent. -/
def ask (w : World) (host password : String) (call : AgentCall) :
    Except Error call.Answer × World :=
  let w := w.catchUp
  let refusal := w.group.refusal? host call
  let w := w.log (.agent host password call refusal)
  match refusal with
  | some status => (.error (.agentRefused host call.path status), w)
  | none =>
    let (answer, group) := w.group.ask host call
    (.ok answer, { w with group := group })

/-- Answers a request for a session. -/
def connect (w : World) (login : Login) : Except Error Session × World :=
  let (fails, group) := w.group.connect login.host
  let w := { w with group := group }.log (.connect login fails)
  if fails then (.error (.internal ("connection to " ++ login.host ++ " refused")), w)
  else (.ok ⟨login.host, 0⟩, w)

/-- The failure of a statement on a host. -/
def statementFailure (host statement : String) : Error :=
  .internal (statement ++ " failed on " ++ host)

/-- Answers a query. -/
def query (w : World) (host statement : String) : Except Error (List Row) × World :=
  let (rows, group) := w.group.query host statement
  let w := { w with group := group }.log (.sql host statement rows.isNone)
  match rows with
  | some rows => (.ok rows, w)
  | none => (.error (statementFailure host statement), w)

/-- Answers a statement. -/
def execute (w : World) (host statement : String) : Except Error Unit × World :=
  let (fails, group) := w.group.execute host statement
  let w := { w with group := group }.log (.sql host statement fails)
  if fails then (.error (statementFailure host statement), w) else (.ok (), w)

/-! ### Running procedures -/

/-- The answer to a request and the world after it. -/
def answer : (q : Request) → World → q.Answer × World
  | .serves _, w => (.ok (), w)
  | .get kind name, w => w.get kind name
  | .list kind selector, w => w.list kind selector
  | .create kind object, w => w.write "create" kind object Platform.create
  | .replace kind object, w => w.write "replace" kind object Platform.replace
  | .replaceStatus kind object, w => w.write "replace_status" kind object Platform.replaceStatus
  | .delete kind name propagation, w => w.delete kind name propagation
  | .agent host password call, w => w.ask host password call
  | .connect login, w => w.connect login
  | .query session statement, w => w.query session.host statement
  | .execute session statement, w => w.execute session.host statement
  | .now, w => (w.now, w)
  | .clock, w => (w.clock, w)
  | .sleep time, w => ((), { w with clock := w.clock + time })
  | .startHandoff cluster, w => ((), w.setMoves (w.moves.start cluster))
  | .stopHandoff cluster, w => ((), w.setMoves (w.moves.stop cluster))
  | .inHandoff cluster, w => (w.moves.inProgress cluster, w)
  | .record occurrence, w => ((), { w with metrics := w.metrics.record occurrence })
  | .publish _, w => ((), w)

/-- Runs a procedure. -/
def run {α : Type} (w : World) (p : Procedure α) : Except Error α × World :=
  Program.run answer p.outcome w

/-- The world in which a cluster has just been put in place. -/
def around (c : Cluster) (settings : Settings) (start : Time) : World :=
  let saved := Table.ofPairs [("first", c), (last, c)]
  ({ start := start, settings := settings, cluster := c, saved := saved } : World).seed .cluster
    c.toJson

end World

end RaftMysql.Simulation
