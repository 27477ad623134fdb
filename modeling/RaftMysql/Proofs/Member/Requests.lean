import RaftMysql.Member.Probe
import RaftMysql.Proofs.Program.Trace

/-!
# What a look at a member asks for

A look asks the consensus agent for its view, opens a session, queries it and perhaps runs the
write-enabling statements on it, with pauses in between. Whatever allows these requests allows the
whole look (`Member.asks_probe`).
-/

namespace RaftMysql

variable {P : Request → Prop}

namespace Replication

theorem asks_globalVariable {session : Session} {name : String}
    (hquery : P (.query session (variableQuery name))) : (globalVariable session name).Asks P :=
  Procedure.asks_bind (Program.asks_request hquery) fun _ => Procedure.asks_pure _

theorem asks_checkOnce {session : Session} (hstatus : P (.query session statusQuery))
    (hlong : P (.query session (variableQuery "long_query_time"))) : (checkOnce session).Asks P := by
  refine Program.asks_bind (Program.asks_request hstatus) fun answer => ?_
  match answer with
  | .error e => exact Program.asks_pure _
  | .ok rows =>
    dsimp only
    split
    · exact Program.asks_pure _
    · exact Program.asks_pure _
    · refine Program.asks_bind (asks_globalVariable hlong) fun value => ?_
      match value with
      | .error e => exact Program.asks_pure _
      | .ok value => exact Program.asks_pure _

end Replication

namespace Member

variable {credentials : Credentials} {s : ProbeSettings} {host : String} {session : Session}

theorem asks_askAgent {password : String} (hagent : P (.agent host password .view)) :
    (askAgent host password).Asks P := by
  refine Program.asks_bind (Program.asks_request hagent) fun answer => ?_
  match answer with
  | .ok (view : AgentView) => exact Program.asks_pure _
  | .error e => exact Program.asks_pure _

theorem asks_connect (hconnect : P (.connect (credentials.login host s)))
    (hsleep : ∀ d, P (.sleep d)) : (connect credentials host s).Asks P :=
  Procedure.asks_retry hsleep (Program.asks_request hconnect)

/-- The questions of a look to a database server. -/
def queries : List String :=
  [Replication.statusQuery, Replication.variableQuery "long_query_time",
   Replication.variableQuery "read_only"]

theorem asks_check {attempts : Nat} {interval : Duration} (hsleep : ∀ d, P (.sleep d))
    (hquery : ∀ statement ∈ queries, P (.query session statement)) :
    (Replication.check session attempts interval).Asks P :=
  Procedure.asks_repeatUntil hsleep
    (Replication.asks_checkOnce (hquery _ (by simp [queries])) (hquery _ (by simp [queries]))) _

theorem asks_checkReadOnly (hquery : ∀ statement ∈ queries, P (.query session statement)) :
    (checkReadOnly session).Asks P := by
  refine Procedure.asks_bind (Replication.asks_globalVariable (hquery _ (by simp [queries])))
    fun value => ?_
  match readOnlyVerdict value with
  | .ok verdict => exact Procedure.asks_pure _
  | .error e => exact Procedure.asks_throw e

theorem asks_askServer {report : Report}
    (hquery : ∀ statement ∈ queries, P (.query session statement)) (hsleep : ∀ d, P (.sleep d)) :
    (askServer session s report).Asks P := by
  refine Program.asks_bind (asks_check hsleep hquery) fun replication => ?_
  refine Program.asks_bind (p := (checkReadOnly session).outcome) (asks_checkReadOnly hquery)
    fun verdict => ?_
  match verdict with
  | .ok verdict => exact Program.asks_pure _
  | .error e => exact Program.asks_pure _

theorem asks_executeAll {statements : List String}
    (hexecute : ∀ statement ∈ statements, P (.execute session statement)) :
    (executeAll session statements).Asks P := by
  induction statements with
  | nil => exact Program.asks_pure _
  | cons statement statements ih =>
    obtain ⟨hfirst, hrest⟩ := List.forall_mem_cons.mp hexecute
    exact Program.asks_bind (Program.asks_request hfirst) fun _ => ih hrest

/-- What a look does with a session that was opened. -/
def useSession (session : Session) (s : ProbeSettings) (allowWriteFix : Bool) (report : Report) :
    Program Report := do
  let report ← askServer session s report
  if allowWriteFix && needsWriteFix report then executeAll session writeEnabling
  return report

theorem asks_useSession {allowWriteFix : Bool} {report : Report}
    (hsleep : ∀ d, P (.sleep d)) (hquery : ∀ statement ∈ queries, P (.query session statement))
    (hexecute : ∀ statement ∈ writeEnabling, P (.execute session statement)) :
    (useSession session s allowWriteFix report).Asks P := by
  refine Program.asks_bind (asks_askServer hquery hsleep) fun report => ?_
  split
  · exact Program.asks_bind (asks_executeAll hexecute) fun _ => Program.asks_pure _
  · exact Program.asks_pure _

/-- **What a look asks for**, whether it may make the server writable or not. -/
theorem asks_probe {allowWriteFix : Bool} (hagent : ∀ password, P (.agent host password .view))
    (hconnect : ∀ login, P (.connect login)) (hsleep : ∀ d, P (.sleep d))
    (hquery : ∀ session, ∀ statement ∈ queries, P (.query session statement))
    (hexecute : ∀ session, ∀ statement ∈ writeEnabling, P (.execute session statement)) :
    (probe credentials s host allowWriteFix).Asks P := by
  refine Program.asks_bind (asks_askAgent (hagent _)) fun report => ?_
  refine Program.asks_bind (asks_connect (hconnect _) hsleep) fun answer => ?_
  match answer with
  | .error e => exact Program.asks_pure _
  | .ok session => exact asks_useSession hsleep (hquery session) (hexecute session)

end Member

end RaftMysql
