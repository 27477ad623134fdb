import RaftMysql.Proofs.Member.Requests
import RaftMysql.Proofs.Program.Worlds

/-!
# What a look at a member reports

A look asks many times and believes the last answers: `Heard` are the last answers to the questions of a
trace, and `Heard.report` is what they say. Every look reports just that (`Member.report_of_looks`): whatever
was not answered stays unknown, the last of the errors is the message, and statements that make a leader
writable leave no mark. `Member.probe_reports` puts this together, with what two looks have in common that
are answered alike.
-/

namespace RaftMysql

/-! ### The last answers -/

/-- What an agent answered about the group. -/
def Event.view? : Event → Option (Except Error AgentView)
  | ⟨.agent _ _ .view, answer⟩ => some answer
  | _ => none

/-- What came of opening a session. -/
def Event.session? : Event → Option (Except Error Session)
  | ⟨.connect _, answer⟩ => some answer
  | _ => none

/-- What a server answered to a query. -/
def Event.rows? (statement : String) : Event → Option (Except Error (List Row))
  | ⟨.query _ asked, answer⟩ => if asked = statement then some answer else none
  | _ => none

theorem Event.rows?_of_ne {session : Session} {asked statement : String}
    {answer : Except Error (List Row)} (h : asked ≠ statement) :
    rows? statement ⟨.query session asked, answer⟩ = none := if_neg h

/-- The statement that was run, and in which session. -/
def Event.executed? : Event → Option (Session × String)
  | ⟨.execute session statement, _⟩ => some (session, statement)
  | _ => none

/-- The last answer of a kind in a trace. -/
def lastOf {α : Type} (read : Event → Option α) (t : Trace) : Option α := (t.filterMap read).getLast?

section

variable {α : Type} {read : Event → Option α} {t t₁ t₂ : Trace} {e : Event}

theorem lastOf_append : lastOf read (t₁ ++ t₂) = (lastOf read t₂).or (lastOf read t₁) := by
  rw [lastOf, List.filterMap_append, List.getLast?_append]
  rfl

theorem lastOf_eq_none (h : ∀ e ∈ t, read e = none) : lastOf read t = none := by
  rw [lastOf, List.filterMap_eq_nil_iff.mpr h]
  rfl

theorem lastOf_of_asks {β : Type} {p : Program β} {b : β} (h : p.Run t b)
    (hp : p.Asks fun q => ∀ answer, read ⟨q, answer⟩ = none) : lastOf read t = none :=
  lastOf_eq_none fun e he => h.asks hp e he e.answer

theorem lastOf_singleton : lastOf read [e] = read e := by
  unfold lastOf
  cases h : read e <;> simp [h]

end

/-- The last answers to what a look asks. -/
structure Heard where
  view : Option (Except Error AgentView)
  session : Option (Except Error Session)
  status : Option (Except Error (List Row))
  longQuery : Option (Except Error (List Row))
  readOnly : Option (Except Error (List Row))

/-- The last answers in a trace. -/
def Heard.of (t : Trace) : Heard where
  view := lastOf Event.view? t
  session := lastOf Event.session? t
  status := lastOf (Event.rows? Replication.statusQuery) t
  longQuery := lastOf (Event.rows? (Replication.variableQuery "long_query_time")) t
  readOnly := lastOf (Event.rows? (Replication.variableQuery "read_only")) t

namespace Heard

variable {h h' : Heard}

/-- Nothing was answered. -/
def nothing : Heard := ⟨none, none, none, none, none⟩

/-- The last answers after more was asked. -/
def andThen (h later : Heard) : Heard where
  view := later.view.or h.view
  session := later.session.or h.session
  status := later.status.or h.status
  longQuery := later.longQuery.or h.longQuery
  readOnly := later.readOnly.or h.readOnly

theorem of_append {t₁ t₂ : Trace} : of (t₁ ++ t₂) = (of t₁).andThen (of t₂) := by
  simp only [of, andThen, lastOf_append]

/-- The value of a variable that a query is answered with. -/
def value (rows : List Row) : Option String := rows.head?.bind Row.first?

/-- What the answers say about replication. -/
def replication (h : Heard) : Replication :=
  match h.status with
  | none => ⟨.unknown, .unknown, none⟩
  | some (.error e) => .failed .unknown e.message
  | some (.ok rows) =>
    match ReplicaState.ofRows rows with
    | .none => ⟨.no, .no, none⟩
    | .broken reason => .failed .no reason
    | .running behind =>
      match h.longQuery with
      | none => ⟨.unknown, .yes, none⟩
      | some (.error e) => .failed .yes e.message
      | some (.ok rows) => ⟨Replication.lag behind (ReplicaState.number ((value rows).getD "")), .yes, none⟩

/-- What the answers say about writes being refused. -/
def readOnlyVerdict (h : Heard) : Except Error Verdict :=
  match h.readOnly with
  | none => .ok .unknown
  | some (.error e) => .error e
  | some (.ok rows) => RaftMysql.readOnlyVerdict (value rows)

/-- The error in an outcome. -/
def errorOf? {α : Type} : Except Error α → Option String
  | .ok _ => none
  | .error e => some e.message

/-- The errors met, in the order of the steps: the agent is asked, a session opened, replication checked,
and whether writes are refused. -/
def errors (h : Heard) : List String :=
  [h.view.bind errorOf?, h.session.bind errorOf?, h.replication.error,
    errorOf? h.readOnlyVerdict].filterMap id

/-- What the answers say about a member. -/
def report (host : String) (h : Heard) : Report where
  host := host
  consensus := match h.view with
    | some (.ok view) => view.toConsensus
    | _ => { role := Role.unknown.name }
  leader := match h.view with
    | some (.ok view) => Member.leaderVerdict view.role
    | _ => .unknown
  lagged := h.replication.lagged
  replicating := h.replication.replicating
  readOnly := match h.readOnlyVerdict with
    | .ok verdict => verdict
    | .error _ => .unknown
  message := h.errors.getLast?

end Heard

namespace Member

variable {c : Credentials} {s : ProbeSettings} {host : String} {session : Session}
  {allowed : Bool} {t : Trace} {report : Report}

/-! ### One look -/

/-- The report after the agent was asked. -/
def viewed (host : String) : Except Error AgentView → Report
  | .ok view => { host := host, leader := leaderVerdict view.role, consensus := view.toConsensus }
  | .error e => { host := host, message := some e.message }

/-- The report with what a server said added to it. -/
def inspected (report : Report) (replication : Replication) (verdict : Except Error Verdict) : Report :=
  let report := { report with
    lagged := replication.lagged
    replicating := replication.replicating
    message := replication.error <|> report.message }
  match verdict with
  | .ok verdict => { report with readOnly := verdict }
  | .error e => { report with message := some e.message }

/-- How a look goes: no session is opened, or the server is asked in one, and perhaps made writable. -/
inductive Looks (c : Credentials) (s : ProbeSettings) (host : String) (allowed : Bool) :
    Trace → Report → Prop
  | closed {view : Except Error AgentView} {t : Trace} {e : Error}
    (h : (connect c host s).Run t (.error e)) :
    Looks c s host allowed (⟨.agent host c.rootPassword .view, view⟩ :: t)
      { viewed host view with message := some e.message }
  | opened {view : Except Error AgentView} {session : Session} {t₁ t₂ t₃ fixes : Trace}
    {replication : Replication} {verdict : Except Error Verdict}
    (h₁ : (connect c host s).Run t₁ (.ok session))
    (h₂ : (Replication.check session s.attempts s.retryInterval).Run t₂ replication)
    (h₃ : (checkReadOnly session).Run t₃ verdict)
    (hfixes : (executeAll session
      (if allowed && needsWriteFix (inspected (viewed host view) replication verdict)
        then writeEnabling else [])).Run fixes ()) :
    Looks c s host allowed
      (⟨.agent host c.rootPassword .view, view⟩ :: (t₁ ++ (t₂ ++ (t₃ ++ fixes))))
      (inspected (viewed host view) replication verdict)

theorem run_askAgent {password : String} (h : (askAgent host password).Run t report) :
    ∃ view, t = [⟨.agent host password .view, view⟩] ∧ report = viewed host view := by
  obtain ⟨t₁, t₂, view, rfl, h₁, h₂⟩ := Program.run_bind.mp h
  obtain rfl := Program.run_request.mp h₁
  match view with
  | .ok (view : AgentView) =>
    obtain ⟨rfl, rfl⟩ := Program.run_pure.mp h₂
    exact ⟨.ok view, rfl, rfl⟩
  | .error e =>
    obtain ⟨rfl, rfl⟩ := Program.run_pure.mp h₂
    exact ⟨.error e, rfl, rfl⟩

theorem run_askServer {before : Report} (h : (askServer session s before).Run t report) :
    ∃ t₁ t₂ replication verdict, t = t₁ ++ t₂ ∧
      (Replication.check session s.attempts s.retryInterval).Run t₁ replication ∧
      (checkReadOnly session).Run t₂ verdict ∧ report = inspected before replication verdict := by
  obtain ⟨t₁, t₂, replication, rfl, h₁, h₂⟩ := Program.run_bind.mp h
  obtain ⟨t₃, t₄, verdict, rfl, h₃, h₄⟩ := Program.run_bind.mp h₂
  refine ⟨t₁, t₃, replication, verdict, ?_⟩
  match verdict with
  | .ok verdict =>
    obtain ⟨rfl, rfl⟩ := Program.run_pure.mp h₄
    exact ⟨by simp, h₁, h₃, rfl⟩
  | .error e =>
    obtain ⟨rfl, rfl⟩ := Program.run_pure.mp h₄
    exact ⟨by simp, h₁, h₃, rfl⟩

/-- **Every look** goes like that. -/
theorem looks_of_run (h : (probe c s host allowed).Run t report) : Looks c s host allowed t report := by
  obtain ⟨t₁, t₂, asked, rfl, h₁, h⟩ := Program.run_bind.mp h
  obtain ⟨view, rfl, rfl⟩ := run_askAgent h₁
  obtain ⟨t₃, t₄, opened, rfl, h₃, h⟩ := Program.run_bind.mp h
  match opened with
  | .error e =>
    obtain ⟨rfl, rfl⟩ := Program.run_pure.mp h
    rw [List.append_nil]
    exact .closed h₃
  | .ok session =>
    obtain ⟨t₅, t₆, told, rfl, h₅, h⟩ := Program.run_bind.mp h
    obtain ⟨t₇, t₈, replication, verdict, rfl, h₇, h₈, rfl⟩ := run_askServer h₅
    dsimp only at h
    rw [List.singleton_append, List.append_assoc]
    split at h <;> rename_i hfix
    · obtain ⟨t₉, t₁₀, _, rfl, h₉, h⟩ := Program.run_bind.mp h
      obtain ⟨rfl, rfl⟩ := Program.run_pure.mp h
      rw [List.append_nil]
      exact .opened h₃ h₇ h₈ (by rwa [if_pos hfix])
    · obtain ⟨rfl, rfl⟩ := Program.run_pure.mp h
      exact .opened h₃ h₇ h₈ (by rw [if_neg hfix]; exact .done ())

/-! ### What is heard in a look -/

theorem heard_agent {password : String} {view : Except Error AgentView} :
    Heard.of [⟨.agent host password .view, view⟩] = { Heard.nothing with view := some view } := rfl

theorem heard_connect {r : Except Error Session} (h : (connect c host s).Run t r) :
    Heard.of t = { Heard.nothing with session := some r } := by
  have hview : lastOf Event.view? t = none :=
    lastOf_of_asks h (asks_connect (fun _ => rfl) fun _ _ => rfl)
  have hrows : ∀ statement, lastOf (Event.rows? statement) t = none := fun statement =>
    lastOf_of_asks h (asks_connect (fun _ => rfl) fun _ _ => rfl)
  have hsession : lastOf Event.session? t = some r := by
    obtain ⟨t₁, t₂, rfl, hlast⟩ := Procedure.run_retry h
    obtain rfl := Program.run_request.mp hlast
    rw [lastOf_append, lastOf_singleton]
    rfl
  simp only [Heard.of, Heard.nothing, hview, hrows, hsession]

/-- An answer to a query is heard as that to its statement. -/
theorem heard_query {statement : String} {answer : Except Error (List Row)} :
    Heard.of [⟨.query session statement, answer⟩] =
      { Heard.nothing with
        status := if statement = Replication.statusQuery then some answer else none
        longQuery := if statement = Replication.variableQuery "long_query_time" then some answer else none
        readOnly := if statement = Replication.variableQuery "read_only" then some answer else none } := by
  simp only [Heard.of, lastOf_singleton]
  rfl

theorem run_globalVariable {name : String} {r : Except Error (Option String)}
    (h : (Replication.globalVariable session name).Run t r) :
    ∃ answer : Except Error (List Row),
      t = [⟨.query session (Replication.variableQuery name), answer⟩] ∧ r = answer.map Heard.value := by
  rcases Procedure.run_bind.mp h with ⟨e, h₁, rfl⟩ | ⟨t₁, t₂, rows, rfl, h₁, h₂⟩
  · obtain rfl := Program.run_request.mp h₁
    exact ⟨.error e, rfl, rfl⟩
  · obtain rfl := Program.run_request.mp h₁
    obtain ⟨rfl, rfl⟩ := Procedure.run_pure.mp h₂
    exact ⟨.ok rows, rfl, rfl⟩

theorem replication_of_checkOnce {before : Heard} {r : Replication}
    (h : (Replication.checkOnce session).Run t r) : (before.andThen (Heard.of t)).replication = r := by
  obtain ⟨t₁, t₂, answer, rfl, h₁, h₂⟩ := Program.run_bind.mp h
  obtain rfl := Program.run_request.mp h₁
  rw [Heard.of_append, heard_query]
  match answer with
  | .error e =>
    obtain ⟨rfl, rfl⟩ := Program.run_pure.mp h₂
    rfl
  | .ok rows =>
    dsimp only at h₂
    unfold Heard.replication
    split at h₂ <;> rename_i hstate
    · obtain ⟨rfl, rfl⟩ := Program.run_pure.mp h₂
      simp [Heard.andThen, Heard.of, lastOf, hstate]
    · obtain ⟨rfl, rfl⟩ := Program.run_pure.mp h₂
      simp [Heard.andThen, Heard.of, lastOf, hstate]
    · obtain ⟨t₃, t₄, value, rfl, h₃, h₄⟩ := Program.run_bind.mp h₂
      obtain ⟨answer, rfl, rfl⟩ := run_globalVariable h₃
      rw [Heard.of_append, heard_query]
      match answer with
      | .error e =>
        obtain ⟨rfl, rfl⟩ := Program.run_pure.mp h₄
        simp [Heard.andThen, Heard.nothing, Heard.of, lastOf, hstate, Replication.variableQuery,
          Replication.statusQuery]
      | .ok rows =>
        obtain ⟨rfl, rfl⟩ := Program.run_pure.mp h₄
        simp [Heard.andThen, Heard.nothing, Heard.of, lastOf, hstate, Replication.variableQuery,
          Replication.statusQuery]

theorem heard_check {attempts : Nat} {interval : Duration} {r : Replication}
    (h : (Replication.check session attempts interval).Run t r) :
    ∃ status longQuery, Heard.of t = { Heard.nothing with status := status, longQuery := longQuery } ∧
      (Heard.of t).replication = r := by
  have hview : lastOf Event.view? t = none := lastOf_of_asks h
    (asks_check (fun _ _ => rfl) fun _ _ _ => rfl)
  have hsession : lastOf Event.session? t = none := lastOf_of_asks h
    (asks_check (fun _ _ => rfl) fun _ _ _ => rfl)
  have hreadOnly : lastOf (Event.rows? (Replication.variableQuery "read_only")) t = none :=
    lastOf_of_asks h (Procedure.asks_repeatUntil (fun _ _ => rfl)
      (Replication.asks_checkOnce (fun _ => Event.rows?_of_ne (by decide))
        fun _ => Event.rows?_of_ne (by decide)) _)
  refine ⟨(Heard.of t).status, (Heard.of t).longQuery, ?_, ?_⟩
  · simp only [Heard.of, Heard.nothing, hview, hsession, hreadOnly]
  · obtain ⟨t₁, t₂, rfl, hlast⟩ := Procedure.run_repeatUntil h
    rw [Heard.of_append]
    exact replication_of_checkOnce hlast

theorem heard_checkReadOnly {r : Except Error Verdict} (h : (checkReadOnly session).Run t r) :
    ∃ answer, Heard.of t = { Heard.nothing with readOnly := some answer } ∧
      (Heard.of t).readOnlyVerdict = r := by
  rcases Procedure.run_bind.mp h with ⟨e, h₁, rfl⟩ | ⟨t₁, t₂, value, rfl, h₁, h₂⟩
  · obtain ⟨answer, rfl, hanswer⟩ := run_globalVariable h₁
    match answer with
    | .error e' =>
      cases hanswer
      exact ⟨_, heard_query, by rw [heard_query]; rfl⟩
    | .ok rows => cases hanswer
  · obtain ⟨answer, rfl, hanswer⟩ := run_globalVariable h₁
    obtain ⟨rfl, rfl⟩ := Procedure.run_lift.mp h₂
    rw [List.append_nil]
    match answer with
    | .error e' => cases hanswer
    | .ok rows =>
      cases hanswer
      exact ⟨_, heard_query, by rw [heard_query]; rfl⟩

theorem heard_executeAll {statements : List String} (h : (executeAll session statements).Run t ()) :
    Heard.of t = Heard.nothing ∧
      t.filterMap Event.executed? = statements.map fun statement => (session, statement) := by
  induction statements generalizing t with
  | nil =>
    obtain ⟨rfl, -⟩ := Program.run_pure.mp h
    exact ⟨rfl, rfl⟩
  | cons statement statements ih =>
    obtain ⟨t₁, t₂, answer, rfl, h₁, h₂⟩ := Program.run_bind.mp h
    obtain rfl := Program.run_request.mp h₁
    obtain ⟨hheard, hexecuted⟩ := ih h₂
    rw [Heard.of_append, hheard, List.filterMap_append, hexecuted]
    exact ⟨rfl, rfl⟩

/-- The last answers of a look with a session. -/
theorem report_of_heard {view : Except Error AgentView} {heard : Heard} {replication : Replication}
    {verdict : Except Error Verdict} (hview : heard.view = some view)
    (hsession : heard.session = some (.ok session)) (hreplication : heard.replication = replication)
    (hverdict : heard.readOnlyVerdict = verdict) :
    heard.report host = inspected (viewed host view) replication verdict := by
  obtain ⟨lagged, replicating, error⟩ := replication
  unfold Heard.report Heard.errors
  rw [hview, hsession, hreplication, hverdict]
  cases view <;> cases verdict <;> cases error <;> rfl

/-- What is heard in a look that opens no session. -/
theorem heard_closed {password : String} {view : Except Error AgentView} {e : Error}
    (h : (connect c host s).Run t (.error e)) :
    Heard.of (⟨.agent host password .view, view⟩ :: t) =
      { Heard.nothing with view := some view, session := some (.error e) } := by
  rw [← List.singleton_append, Heard.of_append, heard_agent, heard_connect h]
  rfl

/-- What is heard in a look that asks the server. -/
theorem heard_opened {password : String} {statements : List String} {view : Except Error AgentView}
    {t₁ t₂ t₃ fixes : Trace} {replication : Replication} {verdict : Except Error Verdict}
    (h₁ : (connect c host s).Run t₁ (.ok session))
    (h₂ : (Replication.check session s.attempts s.retryInterval).Run t₂ replication)
    (h₃ : (checkReadOnly session).Run t₃ verdict)
    (hfixes : (executeAll session statements).Run fixes ()) :
    ∃ heard, Heard.of (⟨.agent host password .view, view⟩ :: (t₁ ++ (t₂ ++ (t₃ ++ fixes)))) = heard ∧
      heard.view = some view ∧ heard.session = some (.ok session) ∧ heard.replication = replication ∧
      heard.readOnlyVerdict = verdict := by
  obtain ⟨status, longQuery, hcheck, hreplication⟩ := heard_check h₂
  obtain ⟨answer, hread, hverdict⟩ := heard_checkReadOnly h₃
  rw [hcheck] at hreplication
  rw [hread] at hverdict
  refine ⟨⟨some view, some (.ok session), status, longQuery, some answer⟩, ?_, rfl, rfl, hreplication,
    hverdict⟩
  rw [← List.singleton_append, Heard.of_append, Heard.of_append, Heard.of_append, Heard.of_append,
    heard_agent, heard_connect h₁, hcheck, hread, (heard_executeAll hfixes).1]
  simp [Heard.andThen, Heard.nothing]

/-- **What a look reports** is what the last answers say. -/
theorem report_of_looks (h : Looks c s host allowed t report) : report = (Heard.of t).report host := by
  cases h with
  | @closed view t e hclosed =>
    rw [heard_closed hclosed]
    cases view <;> rfl
  | @opened view session t₁ t₂ t₃ fixes replication verdict h₁ h₂ h₃ hfixes =>
    obtain ⟨heard, hall, hview, hsession, hreplication, hverdict⟩ := heard_opened h₁ h₂ h₃ hfixes
    rw [hall]
    exact (report_of_heard hview hsession hreplication hverdict).symm

/-! ### What is asked of the server -/

theorem executed_eq_nil {α : Type} {p : Program α} {a : α} (h : p.Run t a)
    (hp : p.Asks fun q => ∀ answer, Event.executed? ⟨q, answer⟩ = none) :
    t.filterMap Event.executed? = [] :=
  List.filterMap_eq_nil_iff.mpr fun e he => h.asks hp e he e.answer

/-- The server is to be made writable in the session: the session was opened, the look may write, the agent
answered that the member leads, and the server was not found to take writes. -/
structure Fixes (allowed : Bool) (heard : Heard) (session : Session) : Prop where
  opened : heard.session = some (.ok session)
  mayWrite : allowed = true
  leads : ∃ view, heard.view = some (.ok view) ∧ view.role = .leader
  notWritable : heard.readOnlyVerdict ≠ .ok .no

theorem leaderVerdict_eq_yes {role : Role} : leaderVerdict role = .yes ↔ role = .leader := by
  cases role <;> simp [leaderVerdict]

theorem leaderVerdict_eq_no {role : Role} : leaderVerdict role = .no ↔ role = .follower := by
  cases role <;> simp [leaderVerdict]

theorem leader_report {heard : Heard} {verdict : Verdict} (hknown : verdict ≠ .unknown) :
    (heard.report host).leader = verdict ↔
      ∃ view, heard.view = some (.ok view) ∧ leaderVerdict view.role = verdict := by
  unfold Heard.report
  rcases heard.view with _ | _ | view <;> simp [hknown.symm]

theorem readOnly_report {heard : Heard} {verdict : Verdict} (hknown : verdict ≠ .unknown) :
    (heard.report host).readOnly = verdict ↔ heard.readOnlyVerdict = .ok verdict := by
  unfold Heard.report
  rcases heard.readOnlyVerdict with _ | _ <;> simp [hknown.symm]

theorem fixes_iff {heard : Heard} (hsession : heard.session = some (.ok session)) :
    Fixes allowed heard session ↔ (allowed && needsWriteFix (heard.report host)) = true := by
  unfold needsWriteFix
  rw [Bool.and_eq_true, Bool.and_eq_true, beq_iff_eq, bne_iff_ne, leader_report (by decide), Ne,
    readOnly_report (by decide)]
  simp only [leaderVerdict_eq_yes]
  exact ⟨fun h => ⟨h.mayWrite, h.leads, h.notWritable⟩, fun h => ⟨hsession, h.1, h.2.1, h.2.2⟩⟩

/-- **Statements are run** to make a leader writable, both of them in order, and for nothing else. -/
theorem executed_of_looks (h : Looks c s host allowed t report) :
    (∀ session, Fixes allowed (Heard.of t) session →
      t.filterMap Event.executed? = writeEnabling.map fun statement => (session, statement)) ∧
    ((∀ session, ¬ Fixes allowed (Heard.of t) session) → t.filterMap Event.executed? = []) := by
  have hreport := report_of_looks h
  cases h with
  | @closed view t e hclosed =>
    have hnone : t.filterMap Event.executed? = [] :=
      executed_eq_nil hclosed (asks_connect (fun _ => rfl) fun _ _ => rfl)
    refine ⟨fun session hfixes => ?_, fun _ => hnone⟩
    have hopened := hfixes.opened
    rw [heard_closed hclosed] at hopened
    cases hopened
  | @opened view session t₁ t₂ t₃ fixes replication verdict h₁ h₂ h₃ hfixes =>
    have hexecuted : (⟨.agent host c.rootPassword .view, view⟩ :: (t₁ ++ (t₂ ++ (t₃ ++ fixes)))
        : Trace).filterMap Event.executed? = fixes.filterMap Event.executed? := by
      rw [← List.singleton_append]
      simp only [List.filterMap_append,
        executed_eq_nil h₁ (asks_connect (fun _ => rfl) fun _ _ => rfl),
        executed_eq_nil h₂ (asks_check (fun _ _ => rfl) fun _ _ _ => rfl),
        executed_eq_nil h₃ (asks_checkReadOnly fun _ _ _ => rfl)]
      rfl
    obtain ⟨heard, hall, -, hheard, -⟩ := heard_opened h₁ h₂ h₃ hfixes
    have hran := (heard_executeAll hfixes).2
    rw [hreport, hall] at hran
    rw [hexecuted, hran, hall]
    constructor
    · intro session' hfix
      obtain rfl : session' = session := by
        rw [hfix.opened] at hheard
        exact Except.ok.inj (Option.some.inj hheard)
      rw [if_pos ((fixes_iff hheard).mp hfix)]
    · intro hnone
      rw [if_neg fun hfix => hnone session ((fixes_iff hheard).mpr hfix)]
      rfl

/-! ### What is reported -/

/-- What a look may ask for: the view of the agent, a session, pauses, the three queries, and the
statements that make a leader writable. -/
inductive ProbeRequest (host : String) : Request → Prop
  | view {password : String} : ProbeRequest host (.agent host password .view)
  | connect {login : Login} : ProbeRequest host (.connect login)
  | sleep {d : Duration} : ProbeRequest host (.sleep d)
  | query {session : Session} {statement : String} (h : statement ∈ queries) :
    ProbeRequest host (.query session statement)
  | execute {session : Session} {statement : String} (h : statement ∈ writeEnabling) :
    ProbeRequest host (.execute session statement)

/-- What a look has to do with the answers it was given. -/
structure Reports (host : String) (allowed : Bool) (t : Trace) (report : Report) : Prop where
  /-- The report is what the last answers say. -/
  told : report = (Heard.of t).report host
  /-- The message is the last of the errors met, in the order of the steps. -/
  message : report.message = (Heard.of t).errors.getLast?
  /-- There is no message just when no step failed. -/
  silent : report.message = none ↔ (Heard.of t).errors = []
  /-- Without a view of the agent nothing is known of the role. -/
  viewless : (∀ view, (Heard.of t).view ≠ some (.ok view)) →
    report.consensus = { role := Role.unknown.name } ∧ report.leader = .unknown
  /-- Without a session nothing is known of the server. -/
  sessionless : (∀ session, (Heard.of t).session ≠ some (.ok session)) →
    report.lagged = .unknown ∧ report.replicating = .unknown ∧ report.readOnly = .unknown
  /-- Without rows about replication nothing is known of it. -/
  statusless : (∀ rows, (Heard.of t).status ≠ some (.ok rows)) →
    report.lagged = .unknown ∧ report.replicating = .unknown
  /-- Without the measure of a long query no delay is weighed. -/
  measureless : (∀ rows, (Heard.of t).longQuery ≠ some (.ok rows)) → report.replicating = .yes →
    report.lagged = .unknown
  /-- Without the switch nothing is known of writes being refused. -/
  switchless : (∀ rows, (Heard.of t).readOnly ≠ some (.ok rows)) → report.readOnly = .unknown
  /-- Where a leader is to be made writable, both statements are run, in order. -/
  fixed : ∀ session, Fixes allowed (Heard.of t) session → t.filterMap Event.executed? =
    [(session, "SET GLOBAL read_only=off"), (session, "SET GLOBAL super_read_only=off")]
  /-- Elsewhere no statement is run. -/
  unfixed : (∀ session, ¬ Fixes allowed (Heard.of t) session) → t.filterMap Event.executed? = []
  /-- Nothing else is asked for. -/
  asked : ∀ e ∈ t, ProbeRequest host e.request

/-- **Every look** reports what it was answered. -/
theorem reports_of_run (h : (probe c s host allowed).Run t report) : Reports host allowed t report := by
  have hlooks := looks_of_run h
  have htold := report_of_looks hlooks
  obtain ⟨hfixed, hunfixed⟩ := executed_of_looks hlooks
  have hmessage : report.message = (Heard.of t).errors.getLast? := by rw [htold]; rfl
  refine ⟨htold, hmessage, by rw [hmessage, List.getLast?_eq_none_iff], ?_, ?_, ?_, ?_, ?_, hfixed,
    hunfixed, ?_⟩
  · intro hview
    rw [htold, Heard.report]
    rcases hview' : (Heard.of t).view with _ | _ | view
    · exact ⟨rfl, rfl⟩
    · exact ⟨rfl, rfl⟩
    · exact absurd hview' (hview view)
  · intro hsession
    cases hlooks with
    | @closed view t e _ => cases view <;> exact ⟨rfl, rfl, rfl⟩
    | opened h₁ h₂ h₃ hfixes =>
      obtain ⟨heard, hall, -, hopened, -⟩ := heard_opened h₁ h₂ h₃ hfixes
      rw [hall] at hsession
      exact absurd hopened (hsession _)
  · intro hstatus
    rw [htold, Heard.report, Heard.replication]
    rcases hstatus' : (Heard.of t).status with _ | _ | rows
    · exact ⟨rfl, rfl⟩
    · exact ⟨rfl, rfl⟩
    · exact absurd hstatus' (hstatus rows)
  · intro hlong hreplicating
    rw [htold, Heard.report, Heard.replication] at hreplicating ⊢
    dsimp only at hreplicating ⊢
    split at hreplicating
    · rfl
    · rfl
    · split at hreplicating
      · cases hreplicating
      · rfl
      · rcases hlong' : (Heard.of t).longQuery with _ | _ | rows
        · rfl
        · rfl
        · exact absurd hlong' (hlong rows)
  · intro hread
    rw [htold, Heard.report, Heard.readOnlyVerdict]
    rcases hread' : (Heard.of t).readOnly with _ | _ | rows
    · rfl
    · rfl
    · exact absurd hread' (hread rows)
  · refine h.asks (asks_probe (fun _ => .view) (fun _ => .connect) (fun _ => .sleep)
      (fun _ _ hquery => .query hquery) fun _ _ hexecute => .execute hexecute)

end Member

end RaftMysql
