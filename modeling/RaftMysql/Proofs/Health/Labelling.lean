import RaftMysql.Proofs.Health.Headcount
import RaftMysql.Proofs.Program.InTurn
import Mathlib.Data.List.ReduceOption

/-!
# What the labels of a pod vouch for

A pass looks at the members whose pods are ready and labels each of these pods by its own look
(`Health.Looked`). No other pod is stored: one that is not ready keeps the labels it has, whatever they
say of it (`Health.labels_of_pass`). So a label may outlive the state of the member that it was given
for: it is that of the last pass for which the pod was ready (`Health.Sight.Series.exists_findings`).
-/

namespace RaftMysql

/-! ### Pods that are stored -/

/-- The request stores no pod. -/
def Request.LeavesPods : Request → Prop
  | .replace .pod _ => False
  | _ => True

/-- The request does not list pods. -/
def Request.ListsNoPods : Request → Prop
  | .list .pod _ => False
  | _ => True

/-- The host that a request asks for something. -/
def Request.host? : Request → Option String
  | .agent host .. => some host
  | .connect login => some login.host
  | .query session _ | .execute session _ => some session.host
  | _ => none

/-- The pod that the platform stored with an event, if it did. -/
def Event.podWrite? : Event → Option Pod
  | ⟨.replace .pod pod, answer⟩ =>
    match (answer : Except Error Pod) with
    | .ok _ => some pod
    | .error _ => none
  | _ => none

theorem Event.podWrite?_eq_none {e : Event} (h : e.request.LeavesPods) : e.podWrite? = none := by
  unfold podWrite?
  split
  · exact absurd h id
  · rfl

namespace Pod

variable {pod : Pod} {t : Trace}

/-- The pod after an event: one that is stored under its name takes its place. -/
def afterEvent (pod : Pod) (e : Event) : Pod :=
  match e.podWrite? with
  | some stored => if stored.name = pod.name then stored else pod
  | none => pod

/-- The pod after a trace. -/
def after (pod : Pod) (t : Trace) : Pod := t.foldl afterEvent pod

theorem after_append (t₁ t₂ : Trace) : after pod (t₁ ++ t₂) = after (after pod t₁) t₂ :=
  List.foldl_append

theorem after_cons (e : Event) (t : Trace) : after pod (e :: t) = after (afterEvent pod e) t := rfl

theorem name_afterEvent {e : Event} : (afterEvent pod e).name = pod.name := by
  unfold afterEvent
  split
  · split
    · assumption
    · rfl
  · rfl

theorem name_after : (after pod t).name = pod.name := by
  induction t generalizing pod with
  | nil => rfl
  | cons e t ih => exact ih.trans name_afterEvent

theorem afterEvent_of_leaves {e : Event} (h : e.request.LeavesPods) : afterEvent pod e = pod := by
  unfold afterEvent
  rw [Event.podWrite?_eq_none h]

theorem after_of_leaves (h : ∀ e ∈ t, e.request.LeavesPods) : after pod t = pod := by
  induction t with
  | nil => rfl
  | cons e t ih =>
    rw [after_cons, afterEvent_of_leaves (h e (by simp))]
    exact ih fun e he => h e (List.mem_cons_of_mem _ he)

theorem afterEvent_of_ne {stored : Pod} {answer : Except Error Pod}
    (h : stored.name ≠ pod.name) : afterEvent pod ⟨.replace .pod stored, answer⟩ = pod := by
  unfold afterEvent Event.podWrite?
  match answer with
  | .ok _ => exact if_neg h
  | .error _ => rfl

theorem afterEvent_of_accepted {stored : Pod} (returned : Pod) (h : stored.name = pod.name) :
    afterEvent pod ⟨.replace .pod stored, .ok returned⟩ = stored := if_pos h

/-! ### Labels that are set -/

theorem name_setLabels (wanted : List (String × String)) : (setLabels pod wanted).name = pod.name := by
  unfold setLabels Manifest.name
  dsimp only
  generalize pod.metadata = metadata
  induction wanted generalizing metadata with
  | nil => rfl
  | cons w wanted ih => exact ih (metadata.setLabel w.1 w.2)

theorem hasLabels_setLabels (role : Role) (healthy : Bool) :
    hasLabels (setLabels pod (wantedLabels role healthy)) (wantedLabels role healthy) = true := by
  simp [hasLabels, setLabels, wantedLabels, Manifest.label?, Metadata.label?_setLabel,
    Cluster.roleLabel, Cluster.healthyLabel]

theorem label?_of_hasLabels {role : Role} {healthy : Bool}
    (h : hasLabels pod (wantedLabels role healthy) = true) :
    pod.label? Cluster.roleLabel = some role.label ∧ isHealthy pod = healthy := by
  unfold hasLabels wantedLabels at h
  obtain ⟨hrole, hhealthy⟩ : pod.label? Cluster.roleLabel = some role.label ∧
      pod.label? Cluster.healthyLabel = some (if healthy then "yes" else "no") := by simpa using h
  refine ⟨hrole, ?_⟩
  unfold isHealthy
  rw [hhealthy]
  cases healthy <;> rfl

end Pod

/-! ### What a report vouches for -/

namespace Report

/-- The report is of a member that keeps up, and is either a read-only replicating follower or a
writable leader that replicates from no one. -/
def vouches (r : Report) : Bool :=
  r.lagged == .no &&
    ((r.leader == .no && r.readOnly == .yes && r.replicating == .yes) ||
      (r.leader == .yes && r.readOnly == .no && r.replicating == .no))

/-- The labels of a pod whose member the report is of. -/
def labels (r : Report) : List (String × String) := Pod.wantedLabels r.role r.vouches

end Report

@[simp] theorem Slot.verdict_record (s : Slot) (verdict : Verdict) (now : Time) :
    (s.record verdict now).verdict = verdict := by
  unfold record
  split
  · assumption
  · rfl

theorem Node.isHealthy_record (n : Node) (r : Report) (now : Time) :
    (n.record r now).conditions.isHealthy = r.vouches := by
  simp [record, NodeConditions.record, NodeConditions.put, NodeConditions.get,
    NodeConditions.isHealthy, Report.vouches]

namespace Health

variable {c : Cluster} {settings : Settings} {now : Time} {credentials : Credentials}
  {status status' : Status} {pod : Pod} {pods : List Pod} {t : Trace} {report : Report}

theorem isHealthy_updateNode {host : String} :
    isHealthy (status.updateNode host now fun node => node.record report now) host =
      report.vouches := by
  have hname : ∀ n : Node, (n.record report now).name = n.name := fun _ => rfl
  unfold isHealthy
  rw [Status.node?_updateNode hname]
  exact Node.isHealthy_record ..

/-! ### One look -/

/-- The trace of a look at the member in a pod, and its report: the pod is labelled by it, unless it
already was. -/
inductive Looked (c : Cluster) (settings : Settings) (credentials : Credentials) (pod : Pod) :
    Trace → Report → Prop
  | kept {moving : Bool} {look : Trace} {report : Report}
    (hprobe : Program.Run
      (Member.probe credentials settings.probe (c.hostOf pod.name) !moving) look report)
    (h : pod.hasLabels report.labels = true) :
    Looked c settings credentials pod (⟨.inHandoff c.key, moving⟩ :: look) report
  | labelled {moving : Bool} {look : Trace} {report : Report} {answer : Except Error Pod}
    (hprobe : Program.Run
      (Member.probe credentials settings.probe (c.hostOf pod.name) !moving) look report)
    (h : pod.hasLabels report.labels = false) :
    Looked c settings credentials pod
      (⟨.inHandoff c.key, moving⟩ :: (look ++ [⟨.replace .pod (pod.setLabels report.labels), answer⟩]))
      report

/-- A look brings the entry of its member up to date by its report. -/
theorem looked_of_run
    (h : Program.Run (lookAt c settings credentials now status pod) t status') :
    ∃ report, Looked c settings credentials pod t report ∧
      status' = status.updateNode (c.hostOf pod.name) now fun node => node.record report now := by
  obtain ⟨t₁, t₂, moving, rfl, h₁, h₂⟩ := Program.run_bind.mp h
  obtain rfl := Program.run_request.mp h₁
  obtain ⟨look, t₃, report, rfl, hprobe, h₃⟩ := Program.run_bind.mp h₂
  obtain ⟨t₄, t₅, _, rfl, h₄, h₅⟩ := Program.run_bind.mp h₃
  obtain ⟨rfl, rfl⟩ := Program.run_pure.mp h₅
  rw [isHealthy_updateNode, List.append_nil] at *
  refine ⟨report, ?_, rfl⟩
  unfold labelPod at h₄
  dsimp only at h₄
  split at h₄ <;> rename_i hlabels
  · obtain ⟨rfl, -⟩ := Program.run_pure.mp h₄
    rw [List.append_nil]
    exact .kept hprobe hlabels
  · obtain ⟨t₆, t₇, answer, rfl, h₆, h₇⟩ := Program.run_bind.mp h₄
    obtain rfl := Program.run_request.mp h₆
    obtain ⟨rfl, -⟩ := Program.run_pure.mp h₇
    exact .labelled hprobe (Bool.not_eq_true _ ▸ hlabels)

theorem leavesPods_of_probe {host : String} {moving : Bool} {look : Trace}
    (hprobe : Program.Run (Member.probe credentials settings.probe host !moving) look report) :
    ∀ e ∈ (⟨.inHandoff c.key, moving⟩ :: look : Trace), e.request.LeavesPods := by
  refine List.forall_mem_cons.mpr ⟨trivial, ?_⟩
  exact hprobe.asks (Member.asks_probe (fun _ => trivial) (fun _ => trivial) (fun _ => trivial)
    (fun _ _ _ => trivial) fun _ _ _ => trivial)

theorem after_look {host : String} {moving : Bool} {look : Trace}
    (hprobe : Program.Run (Member.probe credentials settings.probe host !moving) look report) :
    Pod.after pod (⟨.inHandoff c.key, moving⟩ :: look) = pod :=
  Pod.after_of_leaves (leavesPods_of_probe hprobe)

namespace Looked

variable (h : Looked c settings credentials pod t report)

include h

theorem after_other {other : Pod} (hname : pod.name ≠ other.name) : other.after t = other := by
  cases h with
  | kept hprobe hlabels => exact after_look hprobe
  | labelled hprobe =>
    rw [← List.cons_append, Pod.after_append, after_look hprobe]
    exact Pod.afterEvent_of_ne (by rwa [Pod.name_setLabels])

theorem exists_probe : ∃ moving look after, t = ⟨.inHandoff c.key, moving⟩ :: (look ++ after) ∧
    Program.Run (Member.probe credentials settings.probe (c.hostOf pod.name) !moving) look report := by
  cases h with
  | kept hprobe hlabels => exact ⟨_, _, [], by simp, hprobe⟩
  | labelled hprobe => exact ⟨_, _, _, rfl, hprobe⟩

theorem hasLabels_after (hwrites : ∀ stored e, (⟨.replace .pod stored, .error e⟩ : Event) ∉ t) :
    (pod.after t).hasLabels report.labels = true := by
  cases h with
  | kept hprobe hlabels =>
    rw [after_look hprobe]
    exact hlabels
  | @labelled moving look report answer hprobe =>
    rw [← List.cons_append, Pod.after_append, after_look hprobe]
    match answer with
    | .error e => exact absurd (by simp) (hwrites (pod.setLabels report.labels) e)
    | .ok stored =>
      have hstored : pod.after [⟨.replace .pod (pod.setLabels report.labels), .ok stored⟩] =
        pod.setLabels report.labels := Pod.afterEvent_of_accepted stored (Pod.name_setLabels _)
      rw [hstored]
      exact Pod.hasLabels_setLabels ..

end Looked

/-! ### One look after the other -/

theorem inTurn_of_lookAtAll
    (h : Program.Run (lookAtAll c settings credentials now status pods) t status') :
    InTurn (fun pod t _ => ∃ report, Looked c settings credentials pod t report) pods t (.ok ()) := by
  induction pods generalizing status t with
  | nil =>
    obtain ⟨rfl, -⟩ := Program.run_pure.mp h
    exact .nil
  | cons pod pods ih =>
    obtain ⟨t₁, t₂, status₁, rfl, h₁, h₂⟩ := Program.run_bind.mp h
    obtain ⟨report, hlooked, -⟩ := looked_of_run h₁
    exact .cons ⟨report, hlooked⟩ (ih h₂)

theorem after_of_inTurn {r : Except Error Unit}
    (h : InTurn (fun pod t _ => ∃ report, Looked c settings credentials pod t report) pods t r)
    (hother : ∀ other ∈ pods, other.name ≠ pod.name) : pod.after t = pod := by
  induction h with
  | nil => rfl
  | failed h =>
    obtain ⟨report, hlooked⟩ := h
    exact hlooked.after_other (hother _ (by simp))
  | cons h hs ih =>
    obtain ⟨report, hlooked⟩ := h
    rw [Pod.after_append, hlooked.after_other (hother _ (by simp))]
    exact ih fun other hmem => hother other (List.mem_cons_of_mem _ hmem)

/-- The ways of looking at the members in some pods: without credentials at none, and else at one
after the other. -/
inductive Looks (c : Cluster) (settings : Settings) (pods : List Pod) : Trace → Prop
  | unread {answer : Except Error (Option Secret)}
    (h : ∀ secret credentials, answer = .ok (some secret) →
      Credentials.ofSecret c.secretName secret ≠ .ok credentials) :
    Looks c settings pods [⟨.get .secret c.secretName, answer⟩]
  | read {secret : Secret} {credentials : Credentials} {looks : Trace}
    (h : Credentials.ofSecret c.secretName secret = .ok credentials)
    (hlooks : InTurn (fun pod t _ => ∃ report, Looked c settings credentials pod t report) pods looks
      (.ok ())) :
    Looks c settings pods (⟨.get .secret c.secretName, .ok (some secret)⟩ :: looks)

theorem looks_of_run (h : Program.Run (refresh c settings now status pods) t status') :
    Looks c settings pods t := by
  obtain ⟨t₁, t₂, x, rfl, h₁, h₂⟩ := Program.run_bind.mp h
  obtain ⟨answer, rfl, hx⟩ := Cluster.run_credentials? h₁
  match x with
  | .ok (some credentials) =>
    obtain ⟨secret, rfl, hsecret⟩ := (hx credentials).mp rfl
    exact .read hsecret (inTurn_of_lookAtAll h₂)
  | .ok none | .error _ =>
    obtain ⟨rfl, -⟩ := Program.run_pure.mp h₂
    refine .unread fun secret credentials hanswer hsecret => ?_
    cases (hx credentials).mpr ⟨secret, hanswer, hsecret⟩

/-! ### One pass -/

theorem LookRequest.listsNoPods {q : Request} (h : LookRequest c q) : q.ListsNoPods := by
  cases h <;> trivial

/-- A computation that was shown these pods brings the entries of the ready ones up to date, and does
nothing more about pods. -/
theorem exists_refresh_of_compute {r : Except Error Status} (h : (compute c settings).Run t r)
    (hlist : ⟨.list .pod c.selector, .ok pods⟩ ∈ t) :
    ∃ now looks refreshed after, t = ⟨.now, now⟩ :: ⟨.list .pod c.selector, .ok pods⟩ :: (looks ++ after) ∧
      Program.Run (refresh c settings now (counted c pods) (pods.filter Pod.isReady)) looks refreshed ∧
      (∀ e ∈ after, e.request.LeavesPods) ∧ ∀ status, r = .ok status → status.nodes = refreshed.nodes := by
  -- Only the request that comes second lists pods.
  have hsecond : ∀ {now : Time} {listed : List Pod} {looks after : Trace} {refreshed : Status},
      Program.Run (refresh c settings now (counted c listed) (listed.filter Pod.isReady)) looks
          refreshed → (∀ e ∈ after, e.request.ListsNoPods) →
        (⟨.list .pod c.selector, .ok pods⟩ : Event) ∈
          (⟨.now, now⟩ :: ⟨.list .pod c.selector, .ok listed⟩ :: (looks ++ after) : Trace) →
            pods = listed := by
    intro now listed looks after refreshed hrun hafter hmem
    rcases List.mem_cons.mp ((List.mem_cons.mp hmem).resolve_left (by simp)) with heq | hmem
    · simpa using heq
    · rcases List.mem_append.mp hmem with hmem | hmem
      · exact absurd (hrun.asks asks_refresh _ hmem).listsNoPods id
      · exact absurd (hafter _ hmem) id
  cases computes_of_run h with
  | unlisted => simp at hlist
  | unread hrun =>
    obtain rfl := hsecond hrun (by simp [Request.ListsNoPods]) hlist
    exact ⟨_, _, _, _, rfl, hrun, by simp [Request.LeavesPods], fun _ hr => by cases hr⟩
  | concluded hrun =>
    obtain rfl := hsecond hrun (by simp [Request.ListsNoPods]) hlist
    refine ⟨_, _, _, _, rfl, hrun, by simp [Request.LeavesPods], fun status hr => ?_⟩
    obtain rfl := Except.ok.inj hr
    exact Status.nodes_accept

/-- All that a pass does to pods lies in its looks at the ready ones of its listing. -/
theorem exists_looks {r : Except Error Status} (h : (pass c settings).Run t r)
    (hlist : ⟨.list .pod c.selector, .ok pods⟩ ∈ t) :
    ∃ before looks after, t = before ++ (looks ++ after) ∧
      Looks c settings (pods.filter Pod.isReady) looks ∧
      (∀ e ∈ before, e.request.LeavesPods) ∧ ∀ e ∈ after, e.request.LeavesPods := by
  obtain ⟨t₁, t₂, r', rfl, hrun, hstatus, -⟩ := exists_compute_of_pass h
  have hlist₁ : ⟨.list .pod c.selector, .ok pods⟩ ∈ t₁ :=
    (List.mem_append.mp hlist).resolve_right fun hmem => by
      obtain ⟨status, answer, heq⟩ := hstatus _ hmem
      cases heq
  obtain ⟨now, looks, refreshed, after, rfl, hrefresh, hafter, -⟩ := exists_refresh_of_compute hrun hlist₁
  refine ⟨[⟨.now, now⟩, ⟨.list .pod c.selector, .ok pods⟩], looks, after ++ t₂, by simp,
    looks_of_run hrefresh, by simp [Request.LeavesPods], ?_⟩
  refine List.forall_mem_append.mpr ⟨hafter, fun e he => ?_⟩
  obtain ⟨status, answer, rfl⟩ := hstatus e he
  trivial

/-- The pods were listed, and nothing that the labels depend on went wrong: the secret had the
credentials, and whatever pod was to be stored was stored. -/
structure Unhindered (c : Cluster) (pods : List Pod) (t : Trace) : Prop where
  listed : ⟨.list .pod c.selector, .ok pods⟩ ∈ t
  secret : ∀ answer : Except Error (Option Secret), ⟨.get .secret c.secretName, answer⟩ ∈ t →
    ∃ secret credentials, answer = .ok (some secret) ∧
      Credentials.ofSecret c.secretName secret = .ok credentials
  stored : ∀ pod e, (⟨.replace .pod pod, .error e⟩ : Event) ∉ t

/-- The trace holds a look at the member in a pod, made with credentials that were read before, and
this is its report. -/
def Probed (c : Cluster) (settings : Settings) (pod : Pod) (t : Trace) (report : Report) : Prop :=
  ∃ secret credentials moving before look after,
    t = before ++ ⟨.inHandoff c.key, moving⟩ :: (look ++ after) ∧
      ⟨.get .secret c.secretName, .ok (some secret)⟩ ∈ before ∧
      Credentials.ofSecret c.secretName secret = .ok credentials ∧
      Program.Run (Member.probe credentials settings.probe (c.hostOf pod.name) !moving) look report

theorem Probed.append {before after : Trace} (h : Probed c settings pod t report) :
    Probed c settings pod (before ++ (t ++ after)) report := by
  obtain ⟨secret, credentials, moving, earlier, look, later, rfl, hread, hsecret, hprobe⟩ := h
  exact ⟨secret, credentials, moving, before ++ earlier, look, later ++ after, by simp,
    List.mem_append_right _ hread, hsecret, hprobe⟩

theorem Looks.after_other (h : Looks c settings pods t) (hother : ∀ other ∈ pods, other.name ≠ pod.name) :
    pod.after t = pod := by
  cases h with
  | unread => exact Pod.after_of_leaves (List.forall_mem_singleton.mpr trivial)
  | @read secret credentials looks _ hlooks =>
    show pod.after looks = pod
    exact after_of_inTurn hlooks hother

/-- Each pod is labelled in its turn, and later looks leave it so. -/
theorem Looks.exists_report (h : Looks c settings pods t) (hnodup : (pods.map Manifest.name).Nodup)
    (hpod : pod ∈ pods)
    (hsecret : ∀ answer : Except Error (Option Secret), ⟨.get .secret c.secretName, answer⟩ ∈ t →
      ∃ secret credentials, answer = .ok (some secret) ∧
        Credentials.ofSecret c.secretName secret = .ok credentials)
    (hstored : ∀ stored e, (⟨.replace .pod stored, .error e⟩ : Event) ∉ t) :
    ∃ report, Probed c settings pod t report ∧ (pod.after t).hasLabels report.labels = true := by
  cases h with
  | @unread answer hnone =>
    obtain ⟨secret, credentials, hanswer, hok⟩ := hsecret answer (by simp)
    exact absurd hok (hnone secret credentials hanswer)
  | @read secret credentials looks hok hlooks =>
    obtain ⟨done, rest, rfl⟩ := List.append_of_mem hpod
    obtain ⟨before, own, after, rfl, hdone, ⟨report, hlooked⟩, hrest⟩ := hlooks.part
    have hother := Topology.name_ne_of_nodup hnodup
    refine ⟨report, ?_, ?_⟩
    · obtain ⟨moving, look, later, rfl, hprobe⟩ := hlooked.exists_probe
      exact ⟨secret, credentials, moving,
        ⟨.get .secret c.secretName, .ok (some secret)⟩ :: before, look, later ++ after, by simp,
        by simp, hok, hprobe⟩
    -- The turns before and after its own are of pods with other names.
    · have hbefore : pod.after before = pod :=
        after_of_inTurn hdone fun other hmem => hother other (List.mem_append_left _ hmem)
      have hown := hlooked.hasLabels_after fun stored e hmem => hstored stored e (by simp [hmem])
      have hname : (pod.after own).name = pod.name := Pod.name_after
      have hafter : (pod.after own).after after = pod.after own :=
        after_of_inTurn hrest fun other hmem => by
          rw [hname]
          exact hother other (List.mem_append_right _ hmem)
      show (pod.after (before ++ own ++ after)).hasLabels report.labels = true
      rw [Pod.after_append, Pod.after_append, hbefore, hafter]
      exact hown

/-- **What a pass makes of a pod**: one that is not ready stays as it is, and a ready one is labelled by
a look at its member. -/
theorem labelled_of_run {r : Except Error Status} (h : (pass c settings).Run t r)
    (hnodup : (pods.map Manifest.name).Nodup) (hgood : Unhindered c pods t) (hpod : pod ∈ pods) :
    (pod.isReady = false ∧ pod.after t = pod) ∨
      pod.isReady = true ∧ ∃ report, Probed c settings pod t report ∧
        (pod.after t).hasLabels report.labels = true := by
  obtain ⟨before, looks, after, rfl, hlooks, hbefore, hafter⟩ := exists_looks h hgood.listed
  have hpart : pod.after (before ++ (looks ++ after)) = pod.after looks := by
    rw [Pod.after_append, Pod.after_of_leaves hbefore, Pod.after_append, Pod.after_of_leaves hafter]
  rw [hpart]
  rcases hready : pod.isReady with _ | _
  · refine .inl ⟨rfl, hlooks.after_other fun other hmem => ?_⟩
    obtain ⟨done, rest, rfl⟩ := List.append_of_mem hpod
    obtain ⟨hlisted, hother⟩ := List.mem_filter.mp hmem
    have hne : other ≠ pod := by
      rintro rfl
      rw [hready] at hother
      cases hother
    refine Topology.name_ne_of_nodup hnodup other ?_
    simpa [hne] using hlisted
  · have hnodup' := hnodup.sublist ((List.filter_sublist (p := Pod.isReady)).map Manifest.name)
    obtain ⟨report, hprobed, hlabels⟩ := hlooks.exists_report hnodup'
      (List.mem_filter.mpr ⟨hpod, hready⟩)
      (fun answer hmem => hgood.secret answer (by simp [hmem]))
      fun stored e hmem => hgood.stored stored e (by simp [hmem])
    exact .inr ⟨rfl, report, hprobed.append, hlabels⟩

/-- **The labels after a pass** over pods of distinct names: those of a pod that is not ready are what
they were when it was listed, so it is vouched for just when it already was; a ready pod is vouched
for just when the look at its member, in this pass, found it healthy. -/
theorem labels_of_pass {r : Except Error Status} (h : (pass c settings).Run t r)
    (hnodup : (pods.map Manifest.name).Nodup) (hgood : Unhindered c pods t) :
    ∀ pod ∈ pods, (pod.isReady = false → pod.after t = pod) ∧
      (pod.isReady = true → ∃ report, Probed c settings pod t report ∧
        (pod.after t).isHealthy = report.vouches ∧
        (pod.after t).label? Cluster.roleLabel = some report.role.label) := by
  intro pod hpod
  rcases labelled_of_run h hnodup hgood hpod with ⟨hready, hafter⟩ | ⟨hready, report, hprobed, hlabels⟩
  · exact ⟨fun _ => hafter, fun h => by simp [hready] at h⟩
  · obtain ⟨hrole, hhealthy⟩ := Pod.label?_of_hasLabels hlabels
    exact ⟨fun h => by simp [hready] at h, fun _ => ⟨report, hprobed, hhealthy, hrole⟩⟩

/-! ### Pass after pass -/

/-- A pass, unhindered, that listed a pod. -/
structure Sight where
  cluster : Cluster
  settings : Settings
  trace : Trace
  outcome : Except Error Status
  pods : List Pod
  pod : Pod
  run : (pass cluster settings).Run trace outcome
  distinct : (pods.map Manifest.name).Nodup
  unhindered : Unhindered cluster pods trace
  listed : pod ∈ pods

namespace Sight

/-- The pod as the pass leaves it. -/
def left (s : Sight) : Pod := s.pod.after s.trace

/-- What the pass found of the member in the pod: whether its look vouches for it, or nothing when the
pod was not ready. -/
def Finds (s : Sight) : Option Bool → Prop
  | none => s.pod.isReady = false
  | some healthy => s.pod.isReady = true ∧
    ∃ report, Probed s.cluster s.settings s.pod s.trace report ∧ report.vouches = healthy

theorem exists_finding (s : Sight) :
    ∃ found, s.Finds found ∧ s.left.isHealthy = found.getD s.pod.isHealthy := by
  rcases labelled_of_run s.run s.distinct s.unhindered s.listed with
    ⟨hready, hafter⟩ | ⟨hready, report, hprobed, hlabels⟩
  · exact ⟨none, hready, congrArg Pod.isHealthy hafter⟩
  · exact ⟨some report.vouches, ⟨hready, report, hprobed, rfl⟩, (Pod.label?_of_hasLabels hlabels).2⟩

/-- Sights of the pod of a name, whose health label no one changes in between: what it says before the
first pass, and after the last. -/
inductive Series (name : String) : Bool → List Sight → Bool → Prop
  | nil {healthy : Bool} : Series name healthy [] healthy
  | cons {s : Sight} {sights : List Sight} {after : Bool} (hname : s.pod.name = name)
    (h : Series name s.left.isHealthy sights after) : Series name s.pod.isHealthy (s :: sights) after

/-- **A label is as old as the last look**: after any number of passes it says what was found by the
last one that the pod was ready for, however long ago. -/
theorem Series.exists_findings {name : String} {before after : Bool} {sights : List Sight}
    (h : Series name before sights after) :
    ∃ found, List.Forall₂ Finds sights found ∧ after = found.reduceOption.getLast?.getD before := by
  induction h with
  | nil => exact ⟨[], .nil, rfl⟩
  | @cons s sights after hname h ih =>
    obtain ⟨found, hfound, hafter⟩ := ih
    obtain ⟨first, hfirst, hleft⟩ := s.exists_finding
    refine ⟨first :: found, .cons hfirst hfound, ?_⟩
    rw [hafter, hleft]
    -- What the first pass found counts only if no later one found anything.
    match first with
    | none => rfl
    | some healthy =>
      rw [List.reduceOption_cons_of_some, List.getLast?_cons, Option.getD_some, Option.getD_some]

end Sight

/-! ### A member that is no longer ready -/

/-- The pods of a group of two: the follower is labelled healthy, but not ready any more. -/
def fadedPods : List Pod :=
  [readyPod "sample-mysql-0", Topology.memberPod "sample-mysql-1" "follower" "a" "y"]

/-- What answers for the group: its pods, and a writable leader that replicates from no one. -/
def fadedAnswer : (q : Request) → List String → q.Answer × List String
  | .query _ statement, s =>
    (if statement = Replication.statusQuery then .ok []
      else if statement = Replication.variableQuery "read_only" then
        .ok [[("@@global.read_only", some "0")]]
      else .ok [[("State", some sentState)]], s)
  | .get .workload _, s => (.ok none, s)
  | .replace .pod pod, s => (.ok pod, s)
  | .replaceStatus .cluster c, s => (.ok c, s)
  | q, s => Topology.groupAnswer fadedPods (fun _ _ => none) q s

/-- The trace of a pass over the group. -/
def fadedTrace : Trace := (pass Topology.groupCluster {}).outcome.traceOf fadedAnswer []

theorem run_fadedTrace : ∃ status, (pass Topology.groupCluster {}).Run fadedTrace (.ok status) := by
  have hok : (Program.run fadedAnswer (pass Topology.groupCluster {}).outcome []).1.isOk = true := by
    decide +kernel
  rcases hrun : (Program.run fadedAnswer (pass Topology.groupCluster {}).outcome []).1 with e | status
  · rw [hrun] at hok
    cases hok
  · exact ⟨status, Program.run_traceOf_of_eq fadedAnswer hrun⟩

theorem unhindered_fadedTrace : Unhindered Topology.groupCluster fadedPods fadedTrace := by
  refine ⟨.tail _ (.head _), fun answer hmem => ?_, fun pod e hmem => ?_⟩
  · obtain ⟨s, hanswer⟩ := Program.exists_of_mem_traceOf fadedAnswer hmem
    exact ⟨Topology.groupSecret, ⟨"u", "p", "r"⟩, hanswer, by decide +kernel⟩
  · obtain ⟨s, hanswer⟩ := Program.exists_of_mem_traceOf fadedAnswer hmem
    cases hanswer

/-- The leader of this group is labelled by its look; the follower is not, and is left as it was. -/
theorem faded_labels :
    (∃ report, Probed Topology.groupCluster {} (readyPod "sample-mysql-0") fadedTrace report ∧
      report.vouches = true) ∧
      (Topology.memberPod "sample-mysql-1" "follower" "a" "y").after fadedTrace =
        Topology.memberPod "sample-mysql-1" "follower" "a" "y" := by
  obtain ⟨status, hrun⟩ := run_fadedTrace
  have hlabels := labels_of_pass hrun (by decide) unhindered_fadedTrace
  obtain ⟨-, hready⟩ := hlabels (readyPod "sample-mysql-0") (.head _)
  obtain ⟨hunready, -⟩ := hlabels _ (.tail _ (.head _))
  obtain ⟨report, hprobed, hhealthy, -⟩ := hready (by decide)
  have hvouched : ((readyPod "sample-mysql-0").after fadedTrace).isHealthy = true := by decide +kernel
  exact ⟨⟨report, hprobed, hhealthy.symm.trans hvouched⟩, hunready (by decide)⟩

/-- After a pass in which nothing went wrong a pod may be vouched for that is not ready: no one looked at
its member. -/
theorem exists_unready_vouched_for :
    ∃ t status pods pod, (pass Topology.groupCluster {}).Run t (.ok status) ∧
      Unhindered Topology.groupCluster pods t ∧ (pods.map Manifest.name).Nodup ∧ pod ∈ pods ∧
      Pod.isReady pod = false ∧ Pod.isHealthy (Pod.after pod t) = true ∧
      ∀ e ∈ t, e.request.host? ≠ some (Topology.groupCluster.hostOf (Manifest.name pod)) := by
  obtain ⟨status, hrun⟩ := run_fadedTrace
  refine ⟨fadedTrace, status, fadedPods, Topology.memberPod "sample-mysql-1" "follower" "a" "y", hrun,
    unhindered_fadedTrace, by decide, .tail _ (.head _), by decide, by decide +kernel, ?_⟩
  decide +kernel

end Health

end RaftMysql
