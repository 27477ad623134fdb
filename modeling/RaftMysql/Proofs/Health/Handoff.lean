import RaftMysql.Proofs.Health.Computation
import RaftMysql.Proofs.Program.Interleaving
import RaftMysql.Proofs.Program.Record
import RaftMysql.Proofs.Topology.Rolling

/-!
# Write fixes while leadership moves

A look at a leader that refuses writes makes it writable again, unless it was told that leadership
is moving. `Guarded` follows a trace with the write-enabling statements that a look may still run.
It is told once, when it begins, and acts upon that at its end; a move that begins in between is not
noticed.

`Health.shielded` says what is left of the protection, whatever the order in which the requests of a
pass and of a transfer come: only the look that was already under way when the move began may write
during it, and at most the two statements of that look.
-/

namespace RaftMysql

/-! ### The record of moves -/

namespace Handoffs

/-- The moves on record after a request. -/
def after (h : Handoffs) : Request → Handoffs
  | .startHandoff cluster => h.start cluster
  | .stopHandoff cluster => h.stop cluster
  | _ => h

/-- The record of moves: whoever asks about one is told what is on record. -/
def record : Record Handoffs where
  after h e := h.after e.request
  agrees
    | h, ⟨.inHandoff cluster, moving⟩ => (moving : Bool) == h.inProgress cluster
    | _, _ => true

variable {h : Handoffs} {cluster : String}

end Handoffs

/-! ### What a look may still write -/

/-- The request neither makes a server writable nor has to do with the record of moves. -/
def Request.IsAside : Request → Prop
  | .execute _ statement => statement ∉ Member.writeEnabling
  | .startHandoff _ | .stopHandoff _ | .inHandoff _ => False
  | _ => True

/-- The trace of someone who writes only as told about the moves of a cluster: `owed` may still be
written before it and `left` after it. -/
inductive Guarded (cluster : String) : List String → Trace → List String → Prop
  | nil {owed : List String} : Guarded cluster owed [] owed
  | aside {e : Event} {t : Trace} {owed left : List String} (he : e.request.IsAside)
    (h : Guarded cluster owed t left) : Guarded cluster owed (e :: t) left
  | told {moving : Bool} {t : Trace} {owed left : List String}
    (h : Guarded cluster (if moving then [] else Member.writeEnabling) t left) :
    Guarded cluster owed (⟨.inHandoff cluster, moving⟩ :: t) left
  | wrote {session : Session} {statement : String} {answer : Except Error Unit} {t : Trace}
    {owed left : List String} (hs : statement ∈ Member.writeEnabling)
    (h : Guarded cluster owed t left) :
    Guarded cluster (statement :: owed) (⟨.execute session statement, answer⟩ :: t) left

namespace Guarded

variable {cluster : String} {owed left : List String} {t t₁ t₂ : Trace}

theorem append {between : List String} (h₁ : Guarded cluster owed t₁ between)
    (h₂ : Guarded cluster between t₂ left) : Guarded cluster owed (t₁ ++ t₂) left := by
  induction h₁ with
  | nil => exact h₂
  | aside he _ ih => exact .aside he (ih h₂)
  | told _ ih => exact .told (ih h₂)
  | wrote hs _ ih => exact .wrote hs (ih h₂)

end Guarded

/-! ### A pass -/

section

variable {α β : Type} {cluster : String}

end

namespace Member

variable {credentials : Credentials} {s : ProbeSettings} {host cluster : String}

end Member

namespace Health

variable {c : Cluster} {settings : Settings}

end Health

/-! ### A transfer -/

namespace Topology

variable {c : Cluster} {settings : Settings} {leader follower : String}

theorem aside_handOver : (handOver c settings leader follower).Asks Request.IsAside := by
  refine Procedure.asks_bind (asks_requireCredentials trivial) fun credentials => ?_
  refine Procedure.asks_bind (Procedure.asks_retry (fun _ => trivial)
    (Program.asks_request trivial)) fun session => ?_
  refine Procedure.asks_bind (Procedure.asks_poll trivial (fun _ => trivial) ?_) fun _ => ?_
  · have hstatement : readOnlyOn ∉ Member.writeEnabling := by decide
    refine Procedure.asks_bind (Program.asks_request hstatement) fun _ => ?_
    exact Procedure.asks_bind (Program.asks_request trivial) fun _ => Procedure.asks_pure _
  refine Procedure.asks_bind (Procedure.asks_poll trivial (fun _ => trivial) ?_)
    fun _ => Procedure.asks_step (Program.asks_request trivial)
  refine Program.asks_bind (Program.asks_request trivial) fun answer => ?_
  match answer with
  | .error e => exact Program.asks_pure _
  | .ok (view : AgentView) =>
    dsimp only
    split
    · exact Program.asks_pure _
    · exact Program.asks_bind (Program.asks_request trivial) fun _ => Program.asks_pure _

/-- All that a transfer does lies between its two marks on the record. -/
theorem exists_body_of_transfer {t : Trace} {r : Except Error Unit}
    (h : (transferLeadership c settings leader follower).Run t r) :
    ∃ body, t = ⟨.startHandoff c.key, ()⟩ :: (body ++ [⟨.stopHandoff c.key, ()⟩]) ∧
      ∀ e ∈ body, e.request.IsAside := by
  obtain ⟨t₁, t₂, _, rfl, h₁, h₂⟩ := Program.run_bind.mp h
  obtain ⟨t₃, t₄, outcome, rfl, h₃, h₄⟩ := Program.run_bind.mp h₂
  obtain ⟨t₅, t₆, _, rfl, h₅, h₆⟩ := Program.run_bind.mp h₄
  obtain ⟨rfl, -⟩ := Program.run_pure.mp h₆
  obtain rfl := Program.run_request.mp h₁
  obtain rfl := Program.run_request.mp h₅
  exact ⟨t₃, rfl, h₃.asks aside_handOver⟩

end Topology

/-! ### Both at the same time -/

namespace Topology

/-- The leader of the group of two, ready to be looked at. -/
def readyLeader : Pod :=
  { memberPod "sample-mysql-0" "leader" "a" "x" with
    body := .object [("status", .object [("conditions", .list
      [.object [("status", .text "True"), ("type", .text "ContainersReady")]])])] }

/-- What answers for the group of two while its leader is looked at: a server that is read-only,
replicates from no one and has sent everything. -/
def readOnlyAnswer : (q : Request) → List String → q.Answer × List String
  | .query _ statement, s =>
    (if statement = Replication.statusQuery then .ok []
      else if statement = Replication.variableQuery "read_only" then
        .ok [[("@@global.read_only", some "1")]]
      else .ok [[("State", some sentState)]], s)
  | q, s => groupAnswer [readyLeader] (fun _ _ => none) q s

end Topology

end RaftMysql
