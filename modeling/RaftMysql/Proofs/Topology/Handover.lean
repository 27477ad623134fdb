import RaftMysql.Proofs.Health.Computation
import RaftMysql.Proofs.Topology.Replacement

/-!
# Leadership changes hands

What the trace of `Topology.transferLeadership` looks like. It visits no pod, and if it ends well it
is `Topology.HandedOver`: a session on the leader was made to refuse writes, then told that some
follower has been sent everything, and then the follower answered that it leads.
-/

namespace RaftMysql

namespace Topology

variable {c : Cluster} {settings : Settings} {leader follower : String} {t : Trace}

/-- The leader accepted to be read-only, then one of its connections had sent everything, and then
the follower answered that it leads. -/
def HandedOver (c : Cluster) (leader follower : String) (t : Trace) : Prop :=
  ∃ (login : Login) (session : Session) (rows : List Row) (password : String) (view : AgentView),
    login.host = c.hostOf leader ∧ hasDrained rows = true ∧ view.role = .leader ∧
    [⟨.connect login, .ok session⟩, ⟨.execute session readOnlyOn, .ok ()⟩,
      ⟨.query session "show processlist", .ok rows⟩,
      ⟨.agent (c.hostOf follower) password .view, .ok view⟩].Sublist t

theorem HandedOver.mono {t' : Trace} (h : HandedOver c leader follower t) (ht : t.Sublist t') :
    HandedOver c leader follower t' := by
  obtain ⟨login, session, rows, password, view, hhost, hrows, hview, hsub⟩ := h
  exact ⟨login, session, rows, password, view, hhost, hrows, hview, hsub.trans ht⟩

/-! ### The steps of a transfer that ends well -/

theorem run_connect {credentials : Credentials} {host : String} {s : ProbeSettings}
    {session : Session} (h : (Member.connect credentials host s).Run t (.ok session)) :
    ∃ login : Login, login.host = host ∧ [⟨.connect login, .ok session⟩].Sublist t := by
  obtain ⟨t₁, t₂, rfl, h₂⟩ := Procedure.run_retry h
  obtain rfl := Program.run_request.mp h₂
  exact ⟨credentials.login host s, rfl, List.sublist_append_right ..⟩

theorem run_drain {session : Session} (h : (drain settings session leader).Run t (.ok ())) :
    ∃ rows, hasDrained rows = true ∧ [⟨.execute session readOnlyOn, .ok ()⟩,
      ⟨.query session "show processlist", .ok rows⟩].Sublist t := by
  obtain ⟨t₁, t₂, rfl, h₂⟩ := Procedure.run_poll_ok h
  obtain ⟨t₃, t₄, _, rfl, h₃, h₄⟩ := Procedure.run_bind_ok.mp h₂
  obtain rfl := Program.run_request.mp h₃
  obtain ⟨t₅, t₆, rows, rfl, h₅, h₆⟩ := Procedure.run_bind_ok.mp h₄
  obtain rfl := Program.run_request.mp h₅
  obtain ⟨rfl, hrows⟩ := Procedure.run_pure.mp h₆
  exact ⟨rows, (Except.ok.inj hrows).symm, List.sublist_append_right ..⟩

theorem run_urge {host password : String} (h : (urge host password).Run t (.ok true)) :
    ∃ view : AgentView, view.role = .leader ∧ t = [⟨.agent host password .view, .ok view⟩] := by
  obtain ⟨t₁, t₂, answer, rfl, h₁, h₂⟩ := Program.run_bind.mp h
  obtain rfl := Program.run_request.mp h₁
  match answer with
  | .error e =>
    obtain ⟨-, hr⟩ := Program.run_pure.mp h₂
    cases hr
  | .ok (view : AgentView) =>
    dsimp only at h₂
    split at h₂
    · rename_i hview
      obtain ⟨rfl, -⟩ := Program.run_pure.mp h₂
      exact ⟨view, hview, rfl⟩
    · obtain ⟨t₃, t₄, _, rfl, -, h₄⟩ := Program.run_bind.mp h₂
      obtain ⟨-, hr⟩ := Program.run_pure.mp h₄
      cases hr

theorem run_handOver (h : (handOver c settings leader follower).Run t (.ok ())) :
    HandedOver c leader follower t := by
  obtain ⟨t₁, t₂, credentials, rfl, -, h₂⟩ := Procedure.run_bind_ok.mp h
  obtain ⟨t₃, t₄, session, rfl, h₃, h₄⟩ := Procedure.run_bind_ok.mp h₂
  obtain ⟨t₅, t₆, _, rfl, h₅, h₆⟩ := Procedure.run_bind_ok.mp h₄
  obtain ⟨t₇, t₈, _, rfl, h₇, -⟩ := Procedure.run_bind_ok.mp h₆
  obtain ⟨login, hhost, hconnect⟩ := run_connect h₃
  obtain ⟨rows, hrows, hdrain⟩ := run_drain h₅
  obtain ⟨t₉, t₁₀, rfl, h₁₀⟩ := Procedure.run_poll_ok h₇
  obtain ⟨view, hview, rfl⟩ := run_urge h₁₀
  refine ⟨login, session, rows, credentials.rootPassword, view, hhost, hrows, hview, ?_⟩
  have hlead : [(⟨.agent (c.hostOf follower) credentials.rootPassword .view, .ok view⟩ : Event)].Sublist
      ((t₉ ++ [⟨.agent (c.hostOf follower) credentials.rootPassword .view, .ok view⟩]) ++ t₈) :=
    (List.sublist_append_right t₉ _).trans (List.sublist_append_left _ t₈)
  exact ((hconnect.append (hdrain.append hlead))).trans (List.sublist_append_right t₁ _)

/-- **A transfer that ends well** has handed leadership over. -/
theorem run_transferLeadership (h : (transferLeadership c settings leader follower).Run t (.ok ())) :
    HandedOver c leader follower t := by
  obtain ⟨t₁, t₂, _, rfl, -, h₂⟩ := Program.run_bind.mp h
  obtain ⟨t₃, t₄, outcome, rfl, h₃, h₄⟩ := Program.run_bind.mp h₂
  obtain ⟨t₅, t₆, _, rfl, -, h₆⟩ := Program.run_bind.mp h₄
  obtain ⟨rfl, rfl⟩ := Program.run_pure.mp h₆
  refine (run_handOver h₃).mono ?_
  exact (List.sublist_append_left t₃ _).trans (List.sublist_append_right t₁ _)

/-! ### What a transfer may ask for -/

/-- What a transfer may ask for: sessions are opened on the leader only, and no pod is visited. -/
inductive TransferRequest (c : Cluster) (leader follower : String) : Request → Prop
  | clock : TransferRequest c leader follower .clock
  | sleep (d : Duration) : TransferRequest c leader follower (.sleep d)
  | secret : TransferRequest c leader follower (.get .secret c.secretName)
  | connect {login : Login} (h : login.host = c.hostOf leader) :
    TransferRequest c leader follower (.connect login)
  | execute (session : Session) : TransferRequest c leader follower (.execute session readOnlyOn)
  | query (session : Session) : TransferRequest c leader follower (.query session "show processlist")
  | agent (password : String) (call : AgentCall) :
    TransferRequest c leader follower (.agent (c.hostOf follower) password call)
  | startHandoff : TransferRequest c leader follower (.startHandoff c.key)
  | stopHandoff : TransferRequest c leader follower (.stopHandoff c.key)
  | record (occurrence : Occurrence) : TransferRequest c leader follower (.record occurrence)

theorem TransferRequest.visited? {q : Request} (h : TransferRequest c leader follower q) :
    q.visited? = none := by
  cases h <;> rfl

theorem asks_requireCredentials {P : Request → Prop} (hsecret : P (.get .secret c.secretName)) :
    (requireCredentials c).Asks P := by
  refine Procedure.asks_bind (Cluster.asks_credentials? hsecret) fun credentials => ?_
  match credentials with
  | some credentials => exact Procedure.asks_pure _
  | none => exact Procedure.asks_throw _

theorem asks_drain {session : Session} :
    (drain settings session leader).Asks (TransferRequest c leader follower) := by
  refine Procedure.asks_poll .clock .sleep ?_
  refine Procedure.asks_bind (Program.asks_request (.execute session)) fun _ => ?_
  exact Procedure.asks_bind (Program.asks_request (.query session)) fun _ => Procedure.asks_pure _

theorem asks_urge {password : String} :
    (urge (c.hostOf follower) password).Asks (TransferRequest c leader follower) := by
  refine Program.asks_bind (Program.asks_request (.agent password _)) fun answer => ?_
  match answer with
  | .error e => exact Program.asks_pure _
  | .ok (view : AgentView) =>
    dsimp only
    split
    · exact Program.asks_pure _
    · exact Program.asks_bind (Program.asks_request (.agent password _)) fun _ =>
        Program.asks_pure _

theorem asks_handOver :
    (handOver c settings leader follower).Asks (TransferRequest c leader follower) := by
  refine Procedure.asks_bind (asks_requireCredentials .secret) fun credentials => ?_
  refine Procedure.asks_bind (Procedure.asks_retry .sleep (Program.asks_request (.connect rfl)))
    fun session => ?_
  refine Procedure.asks_bind asks_drain fun _ => ?_
  refine Procedure.asks_bind (Procedure.asks_poll .clock .sleep asks_urge) fun _ => ?_
  exact Procedure.asks_step (Program.asks_request (.record _))

theorem asks_transferLeadership :
    (transferLeadership c settings leader follower).Asks (TransferRequest c leader follower) := by
  refine Program.asks_bind (Program.asks_request .startHandoff) fun _ => ?_
  refine Program.asks_bind asks_handOver fun _ => ?_
  exact Program.asks_bind (Program.asks_request .stopHandoff) fun _ => Program.asks_pure _

theorem visits_transferLeadership {r : Except Error Unit}
    (h : (transferLeadership c settings leader follower).Run t r) : visits t = [] :=
  visits_eq_nil fun e he => (h.asks asks_transferLeadership e he).visited?

end Topology

end RaftMysql
