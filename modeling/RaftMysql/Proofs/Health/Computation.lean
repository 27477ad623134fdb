import RaftMysql.Proofs.Health.Passes
import RaftMysql.Proofs.Member.Requests
import RaftMysql.Proofs.Program.Visits

/-!
# The program of a status pass

`Health.compute` is a pass up to its write. It stores nothing but the labels of pods
(`Health.onlyPods_compute`), and the status that it comes to is that of its copy of the cluster with
the entries brought up to date and a proposal accepted (`Health.run_compute`). `Health.Goes` lists the
ways of a pass: only at its end, and only once, does it write a status.
-/

namespace RaftMysql

theorem Cluster.asks_credentials? {P : Request → Prop} {c : Cluster}
    (hsecret : P (.get .secret c.secretName)) : c.credentials?.Asks P := by
  refine Procedure.asks_bind (Program.asks_request hsecret) fun secret => ?_
  match secret with
  | none => exact Procedure.asks_pure _
  | some secret =>
    refine Procedure.asks_bind ?_ fun _ => Procedure.asks_pure _
    match Credentials.ofSecret c.secretName secret with
    | .ok credentials => exact Procedure.asks_pure _
    | .error e => exact Procedure.asks_throw e

/-- The secret is read once, and makes the credentials. -/
theorem Cluster.run_credentials? {c : Cluster} {t : Trace} {r : Except Error (Option Credentials)}
    (h : c.credentials?.Run t r) :
    ∃ answer : Except Error (Option Secret), t = [⟨.get .secret c.secretName, answer⟩] ∧
      ∀ credentials, r = .ok (some credentials) ↔ ∃ secret, answer = .ok (some secret) ∧
        Credentials.ofSecret c.secretName secret = .ok credentials := by
  rcases Procedure.run_bind.mp h with ⟨e, h₁, rfl⟩ | ⟨t₁, t₂, secret?, rfl, h₁, h₂⟩
  · obtain rfl := Store.run_get.mp h₁
    exact ⟨.error e, rfl, by simp⟩
  obtain rfl := Store.run_get.mp h₁
  match secret? with
  | none =>
    obtain ⟨rfl, rfl⟩ := Procedure.run_pure.mp h₂
    exact ⟨.ok none, rfl, by simp⟩
  | some secret =>
    rcases Procedure.run_bind.mp h₂ with ⟨e, h₃, rfl⟩ | ⟨t₃, t₄, credentials, rfl, h₃, h₄⟩
    · obtain ⟨rfl, he⟩ := Procedure.run_lift.mp h₃
      exact ⟨.ok (some secret), rfl, by simp [← he]⟩
    · obtain ⟨rfl, hsecret⟩ := Procedure.run_lift.mp h₃
      obtain ⟨rfl, rfl⟩ := Procedure.run_pure.mp h₄
      exact ⟨.ok (some secret), rfl, by simp [← hsecret]⟩

namespace Health

variable {c : Cluster} {settings : Settings} {now : Time}

/-! ### Looking at the members -/

theorem asks_labelPod {P : Request → Prop} {pod : Pod} {role : Role} {healthy : Bool}
    (hreplace : P (.replace .pod (pod.setLabels (Pod.wantedLabels role healthy)))) :
    (labelPod pod role healthy).Asks P := by
  unfold labelPod
  dsimp only
  split
  · exact Program.asks_pure _
  · exact Program.asks_bind (Program.asks_request hreplace) fun _ => Program.asks_pure _

/-- What bringing the entries up to date may ask for. -/
inductive LookRequest (c : Cluster) : Request → Prop
  | secret : LookRequest c (.get .secret c.secretName)
  | inHandoff : LookRequest c (.inHandoff c.key)
  | agent (host password : String) : LookRequest c (.agent host password .view)
  | connect (login : Login) : LookRequest c (.connect login)
  | sleep (d : Duration) : LookRequest c (.sleep d)
  | query (session : Session) (statement : String) : LookRequest c (.query session statement)
  | execute (session : Session) (statement : String) : LookRequest c (.execute session statement)
  | label (pod : Pod) : LookRequest c (.replace .pod pod)

theorem LookRequest.onlyPods {q : Request} (h : LookRequest c q) : q.OnlyPods := by
  cases h with
  | label => rfl
  | secret | inHandoff | agent | connect | sleep | query | execute => trivial

theorem asks_lookAt {credentials : Credentials} {status : Status} {pod : Pod} :
    (lookAt c settings credentials now status pod).Asks (LookRequest c) := by
  refine Program.asks_bind (Program.asks_request .inHandoff) fun moving => ?_
  refine Program.asks_bind (Member.asks_probe (.agent _) .connect .sleep
    (fun session statement _ => .query session statement)
    fun session statement _ => .execute session statement) fun report => ?_
  exact Program.asks_bind (asks_labelPod (.label _)) fun _ => Program.asks_pure _

theorem asks_lookAtAll {credentials : Credentials} {status : Status} {pods : List Pod} :
    (lookAtAll c settings credentials now status pods).Asks (LookRequest c) := by
  induction pods generalizing status with
  | nil => exact Program.asks_pure _
  | cons pod pods ih => exact Program.asks_bind asks_lookAt fun status => ih

theorem asks_refresh {status : Status} {ready : List Pod} :
    (refresh c settings now status ready).Asks (LookRequest c) := by
  refine Program.asks_bind (Cluster.asks_credentials? .secret) fun answer => ?_
  match answer with
  | .ok (some credentials) => exact asks_lookAtAll
  | .ok none | .error _ => exact Program.asks_pure _

/-- The second status is the first with its entries brought up to date, and perhaps more of them. -/
def Refreshed (before after : Status) : Prop :=
  ∃ nodes, after = { before with nodes := nodes } ∧
    before.nodes.map Node.name <+: nodes.map Node.name

theorem Refreshed.refl (status : Status) : Refreshed status status :=
  ⟨status.nodes, rfl, List.prefix_refl _⟩

theorem Refreshed.trans {s₁ s₂ s₃ : Status} (h₁₂ : Refreshed s₁ s₂) (h₂₃ : Refreshed s₂ s₃) :
    Refreshed s₁ s₃ := by
  obtain ⟨nodes₁, rfl, hnames₁⟩ := h₁₂
  obtain ⟨nodes₂, rfl, hnames₂⟩ := h₂₃
  exact ⟨nodes₂, rfl, hnames₁.trans hnames₂⟩

theorem run_lookAt {credentials : Credentials} {status status' : Status} {pod : Pod} {t : Trace}
    (h : Program.Run (lookAt c settings credentials now status pod) t status') :
    Refreshed status status' := by
  obtain ⟨t₁, t₂, moving, rfl, -, h⟩ := Program.run_bind.mp h
  obtain ⟨t₃, t₄, report, rfl, -, h⟩ := Program.run_bind.mp h
  obtain ⟨t₅, t₆, -, rfl, -, h⟩ := Program.run_bind.mp h
  obtain ⟨-, rfl⟩ := Program.run_pure.mp h
  exact ⟨_, rfl, Status.names_updateNode fun _ => rfl⟩

theorem run_lookAtAll {credentials : Credentials} {pods : List Pod} {status status' : Status}
    {t : Trace} (h : Program.Run (lookAtAll c settings credentials now status pods) t status') :
    Refreshed status status' := by
  induction pods generalizing status t with
  | nil =>
    obtain ⟨-, rfl⟩ := Program.run_pure.mp h
    exact .refl _
  | cons pod pods ih =>
    obtain ⟨t₁, t₂, status₁, rfl, h₁, h₂⟩ := Program.run_bind.mp h
    exact (run_lookAt h₁).trans (ih h₂)

theorem run_refresh {status status' : Status} {ready : List Pod} {t : Trace}
    (h : Program.Run (refresh c settings now status ready) t status') :
    Refreshed status status' := by
  obtain ⟨t₁, t₂, x, rfl, -, h⟩ := Program.run_bind.mp h
  match x with
  | .ok (some credentials) => exact run_lookAtAll h
  | .ok none | .error _ =>
    obtain ⟨-, rfl⟩ := Program.run_pure.mp h
    exact .refl _

/-! ### The computation -/

/-- A pass up to its write: the status that it comes to. -/
def compute (c : Cluster) (settings : Settings) : Procedure Status := do
  let now ← Procedure.step (Program.request .now)
  let previous := c.status.getD {}
  let pods : List Pod ← Store.list .pod c.selector
  let ready := pods.filter Pod.isReady
  let status ← Procedure.step
    (refresh c settings now { previous with readyNodes := ready.length } ready)
  let workload : Option Workload ← Store.get .workload c.workloadName
  let proposal := (observe c pods workload status).propose previous.state
  let status := status.accept settings.status proposal now
  Procedure.step (note (.observed c.key status.readyNodes status.state))
  return status

/-- A pass computes a status and writes it. -/
theorem pass_eq : pass c settings = (do
    let status ← compute c settings
    write c status
    return status) := by
  simp only [pass, compute, bind_assoc, pure_bind]

theorem onlyPods_compute : (compute c settings).Asks Request.OnlyPods := by
  refine Procedure.asks_bind (Procedure.asks_step (Program.asks_request trivial)) fun now => ?_
  refine Procedure.asks_bind (Program.asks_request trivial) fun pods => ?_
  refine Procedure.asks_bind
    (Procedure.asks_step (asks_refresh.mono fun _ h => h.onlyPods)) fun status => ?_
  refine Procedure.asks_bind (Program.asks_request trivial) fun workload => ?_
  exact Procedure.asks_bind (Procedure.asks_step (Program.asks_request trivial)) fun _ =>
    Procedure.asks_pure _

/-- The status that a pass comes to from a listing of the pods, the workload and the entries brought up
to date. -/
def conclude (c : Cluster) (settings : Settings) (now : Time) (pods : List Pod)
    (workload : Option Workload) (status : Status) : Status :=
  status.accept settings.status ((observe c pods workload status).propose (c.status.getD {}).state) now

/-- The status that a pass begins to look at the members with: it counts the ready ones. -/
def counted (c : Cluster) (pods : List Pod) : Status :=
  { c.status.getD {} with readyNodes := (pods.filter Pod.isReady).length }

/-- The ways in which a computation can go, by its trace and outcome. -/
inductive Computes (c : Cluster) (settings : Settings) : Trace → Except Error Status → Prop
  | unlisted {now : Time} {e : Error} :
    Computes c settings [⟨.now, now⟩, ⟨.list .pod c.selector, .error e⟩] (.error e)
  | unread {now : Time} {pods : List Pod} {looks : Trace} {status : Status} {e : Error}
    (hrun : Program.Run (refresh c settings now (counted c pods) (pods.filter Pod.isReady)) looks
      status) :
    Computes c settings (⟨.now, now⟩ :: ⟨.list .pod c.selector, .ok pods⟩ ::
      (looks ++ [⟨.get .workload c.workloadName, .error e⟩])) (.error e)
  | concluded {now : Time} {pods : List Pod} {looks : Trace} {status : Status}
    {workload : Option Workload} {occurrence : Occurrence}
    (hrun : Program.Run (refresh c settings now (counted c pods) (pods.filter Pod.isReady)) looks
      status) :
    Computes c settings (⟨.now, now⟩ :: ⟨.list .pod c.selector, .ok pods⟩ ::
      (looks ++ [⟨.get .workload c.workloadName, .ok workload⟩, ⟨.record occurrence, ()⟩]))
      (.ok (conclude c settings now pods workload status))

/-- **The ways of a computation** are all there are. -/
theorem computes_of_run {t : Trace} {r : Except Error Status} (h : (compute c settings).Run t r) :
    Computes c settings t r := by
  obtain ⟨t₁, t₂, now, rfl, h₁, h₂⟩ := Procedure.run_step_bind.mp h
  obtain rfl := Program.run_request.mp h₁
  rcases Procedure.run_bind.mp h₂ with ⟨e, h₃, rfl⟩ | ⟨t₃, t₄, pods, rfl, h₃, h₄⟩
  · obtain rfl := Store.run_list.mp h₃
    exact .unlisted
  obtain rfl := Store.run_list.mp h₃
  obtain ⟨looks, t₅, status, rfl, hrun, h₅⟩ := Procedure.run_step_bind.mp h₄
  rcases Procedure.run_bind.mp h₅ with ⟨e, h₆, rfl⟩ | ⟨t₆, t₇, workload, rfl, h₆, h₇⟩
  · obtain rfl := Store.run_get.mp h₆
    exact .unread hrun
  obtain rfl := Store.run_get.mp h₆
  obtain ⟨t₈, t₉, _, rfl, h₈, h₉⟩ := Procedure.run_step_bind.mp h₇
  obtain rfl := Program.run_request.mp h₈
  obtain ⟨rfl, rfl⟩ := Procedure.run_pure.mp h₉
  exact .concluded hrun

/-- **What a pass computes** is made of the status of its copy: the entries are brought up to date,
and a proposal is accepted. -/
theorem run_compute {t : Trace} {status : Status} (hrun : (compute c settings).Run t (.ok status)) :
    ∃ (now : Time) (seen : Observation) (nodes : List Node), ⟨.now, now⟩ ∈ t ∧
      seen.desired = c.replicas ∧
      (c.status.getD {}).nodes.map Node.name <+: nodes.map Node.name ∧
      status = { c.status.getD {} with readyNodes := seen.ready, nodes := nodes }.accept
        settings.status (seen.propose (c.status.getD {}).state) now := by
  cases computes_of_run hrun with
  | @concluded now pods looks refreshed workload occurrence hlooks =>
    obtain ⟨nodes, rfl, hnames⟩ := run_refresh hlooks
    exact ⟨now, observe c pods workload _, nodes, by simp, rfl, hnames, rfl⟩

theorem continues_of_compute {t : Trace} {status : Status}
    (h : (compute c settings).Run t (.ok status)) : (c.status.getD {}).Continues status := by
  obtain ⟨now, seen, nodes, -, -, hnames, rfl⟩ := run_compute h
  have hrefreshed : (c.status.getD {}).Continues
      { c.status.getD {} with readyNodes := seen.ready, nodes := nodes } := ⟨.refl _, hnames⟩
  exact hrefreshed.trans Status.continues_accept

/-! ### The ways of a pass -/

/-- How a pass ends when its write got this answer: a cluster that is gone needs no status. -/
def afterWrite (status : Status) : Except Error Cluster → Except Error Status
  | .ok _ => .ok status
  | .error e => if e.isNotFound then .ok status else .error e

theorem eq_of_afterWrite {status status' : Status} {answer : Except Error Cluster}
    (h : afterWrite status answer = .ok status') : status = status' := by
  unfold afterWrite at h
  split at h
  · exact Except.ok.inj h
  · split at h
    · exact Except.ok.inj h
    · cases h

/-- The ways in which a pass can go, by its trace and outcome. -/
inductive Goes (c : Cluster) (settings : Settings) : Trace → Except Error Status → Prop
  | failed {t : Trace} {e : Error} (hrun : (compute c settings).Run t (.error e)) :
    Goes c settings t (.error e)
  | unchanged {t : Trace} {status : Status} (hrun : (compute c settings).Run t (.ok status))
    (h : c.status = some status) : Goes c settings t (.ok status)
  | written {t : Trace} {status : Status} {answer : Except Error Cluster}
    (hrun : (compute c settings).Run t (.ok status)) (h : c.status ≠ some status) :
    Goes c settings (t ++ [⟨.replaceStatus .cluster { c with status := some status }, answer⟩])
      (afterWrite status answer)

/-- The write is skipped when there is nothing new, and else a single request. -/
theorem run_write {status : Status} {t : Trace} {r : Except Error Status}
    (h : (do write c status; return status : Procedure Status).Run t r) :
    (c.status = some status ∧ t = [] ∧ r = .ok status) ∨
      ∃ answer, c.status ≠ some status ∧
        t = [⟨.replaceStatus .cluster { c with status := some status }, answer⟩] ∧
        r = afterWrite status answer := by
  obtain ⟨t₁, t₂, x, rfl, h₁, h₂⟩ := Program.run_bind.mp h
  unfold write at h₁
  dsimp only [Procedure.of] at h₁
  split at h₁ <;> rename_i hsame
  · obtain ⟨rfl, rfl⟩ := Program.run_pure.mp h₁
    obtain ⟨rfl, rfl⟩ := Program.run_pure.mp h₂
    exact .inl ⟨hsame, rfl, rfl⟩
  · obtain ⟨t₃, t₄, answer, rfl, h₃, h₄⟩ := Program.run_bind.mp h₁
    obtain rfl := Program.run_request.mp h₃
    refine .inr ⟨answer, hsame, ?_⟩
    match answer with
    | .ok _ =>
      obtain ⟨rfl, rfl⟩ := Program.run_pure.mp h₄
      obtain ⟨rfl, rfl⟩ := Program.run_pure.mp h₂
      exact ⟨rfl, rfl⟩
    | .error e =>
      obtain ⟨rfl, hx⟩ := Program.run_pure.mp h₄
      unfold afterWrite
      dsimp only
      split at hx <;> rename_i hgone
      · obtain rfl := hx
        obtain ⟨rfl, rfl⟩ := Program.run_pure.mp h₂
        exact ⟨rfl, (if_pos hgone).symm⟩
      · obtain rfl := hx
        obtain ⟨rfl, rfl⟩ := Program.run_pure.mp h₂
        exact ⟨rfl, (if_neg hgone).symm⟩

/-- **The ways of a pass** are all there are. -/
theorem goes_of_run {t : Trace} {r : Except Error Status} (h : (pass c settings).Run t r) :
    Goes c settings t r := by
  rw [pass_eq] at h
  rcases Procedure.run_bind.mp h with ⟨e, h₁, rfl⟩ | ⟨t₁, t₂, status, rfl, h₁, h₂⟩
  · exact .failed h₁
  · rcases run_write h₂ with ⟨hsame, rfl, rfl⟩ | ⟨answer, hother, rfl, rfl⟩
    · rw [List.append_nil]
      exact .unchanged h₁ hsame
    · exact .written h₁ hother

/-- The status that a pass ends well with is what the pass makes of the stored one. -/
theorem run_pass {t : Trace} {status : Status} (hrun : (pass c settings).Run t (.ok status))
    (hclock : ∀ now : Time, ⟨.now, now⟩ ∈ t → now.isLeap = false) :
    ∃ p : Pass, ⟨.now, p.moment⟩ ∈ t ∧ p.seen.desired = c.replicas ∧
      status = p.apply settings.status (c.status.getD {}) := by
  rw [pass_eq] at hrun
  obtain ⟨t₁, t₂, status', rfl, h₁, h₂⟩ := Procedure.run_bind_ok.mp hrun
  obtain ⟨t₃, t₄, _, rfl, -, h₄⟩ := Procedure.run_bind_ok.mp h₂
  obtain ⟨-, hstatus⟩ := Procedure.run_pure.mp h₄
  obtain rfl := Except.ok.inj hstatus
  obtain ⟨now, seen, nodes, hnow, hdesired, -, rfl⟩ := run_compute h₁
  have hmem : (⟨.now, now⟩ : Event) ∈ t₁ ++ (t₃ ++ t₄) := List.mem_append_left _ hnow
  exact ⟨⟨now, seen, nodes, hclock now hmem⟩, hmem, hdesired, rfl⟩

end Health

end RaftMysql
