import RaftMysql.Proofs.Health.Labelling
import RaftMysql.Proofs.Health.Settling
import RaftMysql.Proofs.Program.Worlds

/-!
# What one member has to do with another

A pass looks at the members one after the other, and keeps what it finds in one status. Still no member
has a part in what becomes of another. In two worlds that differ only in what has to do with one member,
passes ask the same of every other, store its pod in the same way and set the same entry for it
(`Health.TreatsAlike`). And what a pass makes of a member is read off the report of the look at it, and
nothing else (`Health.GoesByReports`): its entry, and the two labels of its pod, which is stored only if
it does not have them yet.
-/

namespace RaftMysql

/-! ### Requests about a member -/

/-- The request asks the member in the pod of a name for something, or stores that pod. -/
def Request.concerns (c : Cluster) (name : String) : Request → Bool
  | .replace .pod pod => pod.name == name
  | q => q.host? == some (c.hostOf name)

/-- What a world knows nothing of that knows nothing of a member. -/
def hiddenBy (c : Cluster) (name : String) (q : Request) : Bool := q.concerns c name || q.isSilent

section

variable {c : Cluster} {name member : String} {q : Request}

theorem Request.concerns_of_host? {host : String} (h : q.host? = some host) :
    q.concerns c name = (host == c.hostOf name) := by
  unfold concerns
  split
  · cases h
  · rw [h]
    rfl

theorem open_of_concerns_eq_false (h : q.concerns c name = false) :
    hiddenBy c name q = false ∨ q.isSilent = true := by
  unfold hiddenBy
  rw [h]
  cases q.isSilent <;> simp

theorem Request.concerns_eq_false (h : q.concerns c name = true) (hne : name ≠ member) :
    q.concerns c member = false := by
  unfold concerns at h ⊢
  split at h
  · rw [beq_iff_eq] at h
    exact beq_eq_false_iff_ne.mpr (h ▸ hne)
  · rw [beq_iff_eq] at h
    rw [h]
    refine beq_eq_false_iff_ne.mpr fun heq => hne ?_
    exact Topology.hostOf_inj (Option.some.inj heq)

theorem Request.isSilent_eq_false (h : q.concerns c name = true) : q.isSilent = false := by
  cases q with
  | sleep _ | record _ | publish _ => cases h
  | _ => rfl

end

/-- The request asks this host for something, or is one to which nothing comes back. -/
def Request.StaysAt (host : String) (q : Request) : Prop := q.host? = some host ∨ q.isSilent = true

namespace Member

variable {credentials : Credentials} {s : ProbeSettings} {host : String} {fix : Bool}
  {t : Trace} {report : Report}

theorem host_of_connect {session : Session}
    (h : (connect credentials host s).Run t (.ok session)) (hplace : ∀ e ∈ t, e.opensInPlace) :
    session.host = host := by
  obtain ⟨t₁, t₂, rfl, h₂⟩ := Procedure.run_retry h
  obtain rfl := Program.run_request.mp h₂
  exact hplace _ (List.mem_append_right _ List.mem_cons_self) session rfl

theorem host_of_probe (h : Program.Run (probe credentials s host fix) t report)
    (hplace : ∀ e ∈ t, e.opensInPlace) :
    ∀ e ∈ t, e.request.StaysAt host := by
  obtain ⟨t₁, t₂, asked, rfl, h₁, h₂⟩ := Program.run_bind.mp h
  obtain ⟨t₃, t₄, x, rfl, h₃, h₄⟩ := Program.run_bind.mp h₂
  have hagent : ∀ e ∈ t₁, e.request.StaysAt host := h₁.asks (asks_askAgent (.inl rfl))
  have hconnect : ∀ e ∈ t₃, e.request.StaysAt host :=
    h₃.asks (asks_connect (.inl rfl) fun _ => .inr rfl)
  refine List.forall_mem_append.mpr ⟨hagent, List.forall_mem_append.mpr ⟨hconnect, ?_⟩⟩
  match x with
  | .error e =>
    obtain ⟨rfl, -⟩ := Program.run_pure.mp h₄
    simp
  | .ok session =>
    obtain rfl : session.host = host := host_of_connect h₃ fun e he =>
      hplace e (List.mem_append_right _ (List.mem_append_left _ he))
    have huse : Program.Run (useSession session s fix asked) t₄ report := h₄
    exact huse.asks (asks_useSession (fun _ => .inr rfl) (fun _ _ => .inl rfl) fun _ _ => .inl rfl)

end Member

/-! ### Entries of other hosts -/

namespace Status

variable {status s₁ s₂ : Status} {host other : String} {now : Time} {change f₁ f₂ : Node → Node}

/-- The statuses have the same entry for every host but this one. -/
def SameApart (host : String) (s₁ s₂ : Status) : Prop :=
  ∀ other, other ≠ host → s₁.node? other = s₂.node? other

theorem node?_updateNode_of_ne (hchange : ∀ n, (change n).name = n.name) (hne : host ≠ other) :
    (status.updateNode host now change).node? other = status.node? other := by
  unfold updateNode node?
  rw [find?_updateFirst_of_ne hchange _ hne, find?_withNode_of_ne _ hne]

theorem SameApart.updateNode_self (h : SameApart host s₁ s₂) (hf₁ : ∀ n, (f₁ n).name = n.name)
    (hf₂ : ∀ n, (f₂ n).name = n.name) :
    SameApart host (s₁.updateNode host now f₁) (s₂.updateNode host now f₂) := by
  intro other hother
  rw [node?_updateNode_of_ne hf₁ hother.symm, node?_updateNode_of_ne hf₂ hother.symm]
  exact h other hother

theorem SameApart.updateNode (h : SameApart host s₁ s₂) (hchange : ∀ n, (change n).name = n.name)
    (hne : other ≠ host) :
    SameApart host (s₁.updateNode other now change) (s₂.updateNode other now change) := by
  intro third hthird
  by_cases heq : other = third
  · subst heq
    rw [node?_updateNode hchange, node?_updateNode hchange, h other hne]
  · rw [node?_updateNode_of_ne hchange heq, node?_updateNode_of_ne hchange heq]
    exact h third hthird

theorem SameApart.of_nodes_eq {s₁' s₂' : Status} (h : SameApart host s₁ s₂)
    (h₁ : s₁'.nodes = s₁.nodes) (h₂ : s₂'.nodes = s₂.nodes) : SameApart host s₁' s₂' := by
  intro other hother
  unfold node?
  rw [h₁, h₂]
  exact h other hother

end Status

/-! ### Passes in two worlds -/

namespace Health

open Program (alike_of_asks alike_of_asks_hidden alike_of_hidden alike_of_open alike_pure)

variable {c : Cluster} {settings : Settings} {credentials : Credentials} {now : Time}
  {member : String} {world : World} {pod : Pod} {pods : List Pod} {s₁ s₂ : Status}

theorem hidden_of_probe {moving : Bool} {t : Trace} {report : Report}
    (h : Program.Run (Member.probe credentials settings.probe (c.hostOf member) moving) t report)
    (hplace : ∀ e ∈ t, e.opensInPlace) : ∀ e ∈ t, hiddenBy c member e.request = true := by
  intro e he
  unfold hiddenBy
  rcases Member.host_of_probe h hplace e he with hhost | hsilent
  · rw [Request.concerns_of_host? hhost]
    simp
  · rw [hsilent, Bool.or_true]

/-- A look at another member hides nothing. -/
theorem alike_probe {name : String} {moving : Bool} (hne : name ≠ member) :
    Program.Alike world (hiddenBy c member)
      (Member.probe credentials settings.probe (c.hostOf name) moving)
      (Member.probe credentials settings.probe (c.hostOf name) moving) Eq := by
  refine alike_of_open fun t report h hplace e he => ?_
  rcases Member.host_of_probe h hplace e he with hhost | hsilent
  · refine open_of_concerns_eq_false ?_
    rw [Request.concerns_of_host? hhost]
    exact beq_eq_false_iff_ne.mpr fun heq => hne (Topology.hostOf_inj heq)
  · exact .inr hsilent

theorem concerns_label {role : Role} {healthy : Bool} :
    Request.concerns c member (.replace .pod (pod.setLabels (Pod.wantedLabels role healthy))) =
      (pod.name == member) := by
  show ((pod.setLabels _).name == member) = _
  rw [Pod.name_setLabels]

/-- **One look**: whatever the member has to say, nothing is seen of it, and the entries of others
stay the same. -/
theorem alike_lookAt (h : Status.SameApart (c.hostOf member) s₁ s₂) :
    (lookAt c settings credentials now s₁ pod).Alike world (hiddenBy c member)
      (lookAt c settings credentials now s₂ pod) (Status.SameApart (c.hostOf member)) := by
  refine (alike_of_asks (Program.asks_request (.inl rfl))).bind_eq fun moving => ?_
  by_cases hname : pod.name = member
  · subst hname
    have hlabel : ∀ {role : Role} {healthy : Bool},
        (labelPod pod role healthy).Asks fun q => hiddenBy c pod.name q = true := by
      intro role healthy
      refine asks_labelPod ?_
      unfold hiddenBy
      rw [concerns_label, beq_self_eq_true, Bool.true_or]
    refine (alike_of_hidden (fun _ _ => hidden_of_probe) fun _ _ => hidden_of_probe).bind
      fun report₁ report₂ _ => ?_
    refine (alike_of_asks_hidden hlabel hlabel).bind fun _ _ _ => ?_
    exact alike_pure (h.updateNode_self (fun _ => rfl) fun _ => rfl)
  · refine (alike_probe hname).bind_eq fun report => ?_
    dsimp only
    -- The label is read off the entry, which may rest on an older one; the report alone decides it.
    rw [isHealthy_updateNode, isHealthy_updateNode]
    have hlabel : (labelPod pod report.role report.vouches).Asks
        fun q => hiddenBy c member q = false ∨ q.isSilent = true := by
      refine asks_labelPod (open_of_concerns_eq_false ?_)
      rw [concerns_label]
      exact beq_eq_false_iff_ne.mpr hname
    refine (alike_of_asks hlabel).bind_eq fun _ => ?_
    exact alike_pure (h.updateNode (fun _ => rfl) fun heq => hname (Topology.hostOf_inj heq))

theorem alike_lookAtAll (h : Status.SameApart (c.hostOf member) s₁ s₂) :
    (lookAtAll c settings credentials now s₁ pods).Alike world (hiddenBy c member)
      (lookAtAll c settings credentials now s₂ pods) (Status.SameApart (c.hostOf member)) := by
  induction pods generalizing s₁ s₂ with
  | nil => exact alike_pure h
  | cons pod pods ih => exact (alike_lookAt h).bind fun _ _ h => ih h

theorem alike_refresh {status : Status} :
    (refresh c settings now status pods).Alike world (hiddenBy c member)
      (refresh c settings now status pods) (Status.SameApart (c.hostOf member)) := by
  refine (alike_of_asks (Cluster.asks_credentials? (.inl rfl))).bind_eq fun x => ?_
  match x with
  | .ok (some credentials) => exact alike_lookAtAll fun _ _ => rfl
  | .ok none | .error _ => exact alike_pure fun _ _ => rfl

/-- **A computation**: the entries of all other members are the same. -/
theorem alike_compute :
    (compute c settings).Alike world (hiddenBy c member) (compute c settings)
      (Status.SameApart (c.hostOf member)) := by
  refine Procedure.Alike.bind_eq
    (Procedure.alike_step (alike_of_asks (Program.asks_request (.inl rfl)))) fun now => ?_
  refine Procedure.Alike.bind_eq
    (Procedure.alike_of_asks (Program.asks_request (.inl rfl))) fun pods => ?_
  refine Procedure.Alike.bind (Procedure.alike_step alike_refresh) fun s₁ s₂ hsame => ?_
  refine Procedure.Alike.bind_eq
    (Procedure.alike_of_asks (Program.asks_request (.inl rfl))) fun workload => ?_
  -- The metrics count the member as ready or not, so they may differ; nothing comes back from them.
  have hnote : ∀ {occurrence : Occurrence},
      (note occurrence).Asks fun q => hiddenBy c member q = true := Program.asks_request rfl
  refine Procedure.Alike.bind
    (Procedure.alike_step (alike_of_asks_hidden hnote hnote)) fun _ _ _ => ?_
  exact Procedure.alike_pure (hsame.of_nodes_eq Status.nodes_accept Status.nodes_accept)

/-- Two passes make the same requests to a member and to store its pod, which are answered in the same
way, and set the same entry for it. -/
structure TreatsAlike (c : Cluster) (name : String) (t t' : Trace) (r r' : Except Error Status) :
    Prop where
  requests_eq : t.filter (·.request.concerns c name) = t'.filter (·.request.concerns c name)
  entry_eq : ∀ status status', Sets c t r status → Sets c t' r' status' →
    status.node? (c.hostOf name) = status'.node? (c.hostOf name)

theorem filter_concerns_seen {name : String} (hne : name ≠ member) (t : Trace) :
    (seen (hiddenBy c member) t).filter (·.request.concerns c name) =
      t.filter (·.request.concerns c name) := by
  unfold seen
  rw [List.filter_filter]
  refine List.filter_congr fun e _ => ?_
  rcases hconcerns : e.request.concerns c name with _ | _
  · rfl
  · have hopen : hiddenBy c member e.request = false := by
      unfold hiddenBy
      rw [Request.concerns_eq_false hconcerns hne, Request.isSilent_eq_false hconcerns, Bool.or_false]
    rw [hopen]
    rfl

/-- **Passes in two worlds** that differ only in what has to do with one member treat every other
alike. -/
theorem treatsAlike_of_pass {t t' : Trace} {r r' : Except Error Status} {name : String}
    (h : (pass c settings).Run t r) (h' : (pass c settings).Run t' r')
    (hw : AnsweredBy world (hiddenBy c member) [] t) (hw' : AnsweredBy world (hiddenBy c member) [] t')
    (hne : name ≠ member) : TreatsAlike c name t t' r r' := by
  obtain ⟨t₁, t₂, r₁, rfl, hrun, hstatus, hset⟩ := exists_compute_of_pass h
  obtain ⟨t₁', t₂', r₁', rfl, hrun', hstatus', hset'⟩ := exists_compute_of_pass h'
  obtain ⟨hseen, hrelated⟩ :=
    alike_compute hrun hrun' (answeredBy_append.mp hw).1 (answeredBy_append.mp hw').1
  have hnone : ∀ {t : Trace}, (∀ e ∈ t, ∃ (status : Status) (answer : Except Error Cluster),
      e = ⟨.replaceStatus .cluster { c with status := some status }, answer⟩) →
        t.filter (·.request.concerns c name) = [] := by
    refine fun h => List.filter_eq_nil_iff.mpr fun e he => ?_
    obtain ⟨status, answer, rfl⟩ := h e he
    exact Bool.false_ne_true
  refine ⟨?_, fun status status' hsets hsets' => ?_⟩
  · rw [List.filter_append, List.filter_append, hnone hstatus, hnone hstatus',
      ← filter_concerns_seen hne t₁, ← filter_concerns_seen hne t₁', hseen]
  · obtain rfl := hset status hsets
    obtain rfl := hset' status' hsets'
    exact hrelated _ fun heq => hne (Topology.hostOf_inj heq)

end Health

/-! ### What becomes of a report -/

/-- The entry says of its member what the report does. -/
structure Node.Shows (n : Node) (r : Report) : Prop where
  message : n.message = r.message
  consensus : n.consensus = r.consensus
  leader : n.conditions.leader.verdict = r.leader
  lagged : n.conditions.lagged.verdict = r.lagged
  replicating : n.conditions.replicating.verdict = r.replicating
  readOnly : n.conditions.readOnly.verdict = r.readOnly

theorem Node.shows_of_record_eq {n : Node} {r : Report} {now : Time} (h : n.record r now = n) :
    n.Shows r := by
  rw [← h]
  constructor <;> simp [record, NodeConditions.record, NodeConditions.put, NodeConditions.get]

theorem Status.holds_look_of_last {nodes : List Node} {before after : List (String × Report)}
    {host : String} {r : Report} {now : Time} (h : host ∉ after.map Prod.fst) :
    Holds (look nodes (before ++ (host, r) :: after) now) host r := by
  unfold look
  rw [List.foldl_append, List.foldl_cons]
  exact holds_recordAt.look_of_notMem h

/-- The second pod is the first with another role and another word on its health, if it differs at
all. -/
structure Pod.Relabels (pod stored : Pod) : Prop where
  body : stored.body = pod.body
  metadata : stored.metadata = { pod.metadata with labels := stored.metadata.labels }
  label : ∀ key, key ≠ Cluster.roleLabel → key ≠ Cluster.healthyLabel →
    stored.label? key = pod.label? key

theorem Pod.relabels_setLabels (pod : Pod) (role : Role) (healthy : Bool) :
    Relabels pod (pod.setLabels (wantedLabels role healthy)) where
  body := rfl
  metadata := rfl
  label key hrole hhealthy := by
    simp [setLabels, wantedLabels, Manifest.label?, Metadata.label?_setLabel, hrole.symm,
      hhealthy.symm]

/-- The pod that a request is to store. -/
def Request.stored? : Request → Option Pod
  | .replace .pod pod => some pod
  | _ => none

/-- The pods that were to be stored, in order. -/
def storedPods (t : Trace) : List Pod := t.filterMap fun e => e.request.stored?

theorem storedPods_eq_nil {t : Trace} (h : ∀ e ∈ t, e.request.LeavesPods) : storedPods t = [] := by
  refine List.filterMap_eq_nil_iff.mpr fun e he => ?_
  have hleaves := h e he
  unfold Request.stored?
  split
  · rename_i pod hrequest
    rw [hrequest] at hleaves
    exact hleaves.elim
  · rfl

@[simp] theorem storedPods_append (t₁ t₂ : Trace) :
    storedPods (t₁ ++ t₂) = storedPods t₁ ++ storedPods t₂ := List.filterMap_append

namespace Health

variable {c : Cluster} {settings : Settings} {credentials : Credentials} {now : Time}
  {pod : Pod} {pods : List Pod} {status status' : Status} {t : Trace} {r : Except Error Status}
  {report : Report} {looks : List (Pod × Report)}

/-- The pods of looks that do not have the labels of their reports yet, with these labels. -/
def relabelled (looks : List (Pod × Report)) : List Pod :=
  (looks.filter fun p => !p.1.hasLabels p.2.labels).map fun p => p.1.setLabels p.2.labels

theorem Looked.storedPods_eq (h : Looked c settings credentials pod t report) :
    storedPods t = relabelled [(pod, report)] := by
  unfold relabelled
  cases h with
  | kept hprobe hlabels =>
    rw [storedPods_eq_nil (leavesPods_of_probe hprobe), List.filter_cons_of_neg (by simp [hlabels])]
    rfl
  | @labelled moving look report answer hprobe hlabels =>
    rw [← List.cons_append, storedPods_append, storedPods_eq_nil (leavesPods_of_probe hprobe),
      List.filter_cons_of_pos (by simp [hlabels])]
    rfl

theorem storedPods_of_inTurn {r : Except Error Unit}
    (h : InTurn (fun p t _ => Looked c settings credentials p.1 t p.2) looks t r) (hr : r = .ok ()) :
    storedPods t = relabelled looks := by
  induction h with
  | nil => rfl
  | failed => cases hr
  | @cons p looks t₁ t₂ r h hs ih =>
    have hcons : relabelled (p :: looks) = relabelled [p] ++ relabelled looks := by
      unfold relabelled
      rw [← List.map_append, ← List.filter_append]
      rfl
    rw [storedPods_append, h.storedPods_eq, ih hr, hcons]

/-- Looks one after the other come with reports, which make up the entries. -/
theorem exists_reports_of_lookAtAll
    (h : Program.Run (lookAtAll c settings credentials now status pods) t status') :
    ∃ looks : List (Pod × Report), looks.map Prod.fst = pods ∧
      InTurn (fun p t _ => Looked c settings credentials p.1 t p.2) looks t (.ok ()) ∧
      status'.nodes =
        Status.look status.nodes (looks.map fun p => (c.hostOf p.1.name, p.2)) now := by
  induction pods generalizing status t with
  | nil =>
    obtain ⟨rfl, rfl⟩ := Program.run_pure.mp h
    exact ⟨[], rfl, .nil, rfl⟩
  | cons pod pods ih =>
    obtain ⟨t₁, t₂, status₁, rfl, h₁, h₂⟩ := Program.run_bind.mp h
    obtain ⟨report, hlooked, rfl⟩ := looked_of_run h₁
    obtain ⟨looks, rfl, hturns, hnodes⟩ := ih h₂
    exact ⟨(pod, report) :: looks, rfl, .cons hlooked hturns, hnodes⟩

/-- What a pass makes of the ready pods: each is looked at once, in their order. The entry of a member
says what the last look at it reported, and the labels that a pod is given are those of its report. -/
structure GoesByReports (c : Cluster) (settings : Settings) (pods : List Pod) (t : Trace)
    (r : Except Error Status) (looks : List (Pod × Report)) : Prop where
  pods_eq : looks.map Prod.fst = pods.filter Pod.isReady
  probed : ∀ p ∈ looks, Probed c settings p.1 t p.2
  entry : ∀ status, Sets c t r status → ∀ before pod report after,
    looks = before ++ (pod, report) :: after → pod.name ∉ after.map (fun p => p.1.name) →
      ∃ node, status.node? (c.hostOf pod.name) = some node ∧ node.Shows report
  stored_eq : storedPods t = relabelled looks
  relabels : ∀ p ∈ looks, Pod.Relabels p.1 (p.1.setLabels p.2.labels)

/-- The credentials of the cluster were there to be read. -/
def ReadsCredentials (c : Cluster) (t : Trace) : Prop :=
  ∀ answer : Except Error (Option Secret), ⟨.get .secret c.secretName, answer⟩ ∈ t →
    ∃ secret credentials, answer = .ok (some secret) ∧
      Credentials.ofSecret c.secretName secret = .ok credentials

theorem exists_reports_of_refresh
    (h : Program.Run (refresh c settings now status pods) t status') (hread : ReadsCredentials c t) :
    ∃ looks : List (Pod × Report), looks.map Prod.fst = pods ∧
      (∀ p ∈ looks, Probed c settings p.1 t p.2) ∧ storedPods t = relabelled looks ∧
      status'.nodes =
        Status.look status.nodes (looks.map fun p => (c.hostOf p.1.name, p.2)) now := by
  obtain ⟨t₁, t₂, x, rfl, h₁, h₂⟩ := Program.run_bind.mp h
  obtain ⟨answer, rfl, hx⟩ := Cluster.run_credentials? h₁
  obtain ⟨secret, credentials, rfl, hsecret⟩ := hread answer (by simp)
  obtain rfl := (hx credentials).mpr ⟨secret, rfl, hsecret⟩
  obtain ⟨looks, hpods, hturns, hnodes⟩ := exists_reports_of_lookAtAll h₂
  have hstored : storedPods t₂ = relabelled looks := storedPods_of_inTurn hturns rfl
  refine ⟨looks, hpods, fun p hp => ?_, hstored, hnodes⟩
  obtain ⟨done, rest, rfl⟩ := List.append_of_mem hp
  obtain ⟨before, own, after, rfl, -, hlooked, -⟩ := hturns.part
  obtain ⟨moving, look, later, rfl, hprobe⟩ := hlooked.exists_probe
  exact ⟨secret, credentials, moving, ⟨.get .secret c.secretName, .ok (some secret)⟩ :: before, look,
    later ++ after, by simp, by simp, hsecret, hprobe⟩

/-- **A pass goes by its reports**, if it gets to see the pods and the credentials. -/
theorem exists_reports_of_pass (h : (pass c settings).Run t r)
    (hlisted : ⟨.list .pod c.selector, .ok pods⟩ ∈ t) (hread : ReadsCredentials c t) :
    ∃ looks, GoesByReports c settings pods t r looks := by
  obtain ⟨t₁, t₂, r', rfl, hrun, hstatus, hset⟩ := exists_compute_of_pass h
  have hlisted₁ : ⟨.list .pod c.selector, .ok pods⟩ ∈ t₁ :=
    (List.mem_append.mp hlisted).resolve_right fun hmem => by
      obtain ⟨status, answer, heq⟩ := hstatus _ hmem
      cases heq
  obtain ⟨now, part, refreshed, after, rfl, hrefresh, hafter, hnodes⟩ :=
    exists_refresh_of_compute hrun hlisted₁
  obtain ⟨looks, hpods, hprobed, hstored, hlook⟩ :=
    exists_reports_of_refresh hrefresh fun answer hmem => hread answer (by simp [hmem])
  refine ⟨looks, hpods, fun p hp => ?_, ?_, ?_, fun p _ => Pod.relabels_setLabels ..⟩
  · have hpart : Probed c settings p.1
        ([⟨.now, now⟩, ⟨.list .pod c.selector, .ok pods⟩] ++ (part ++ (after ++ t₂))) p.2 :=
      (hprobed p hp).append
    simpa using hpart
  · rintro status hsets before pod report later rfl hlast
    -- A later pod of the same name is looked at on the same host, and would have the last word.
    have hlast' : c.hostOf pod.name ∉
        (later.map fun p => (c.hostOf p.1.name, p.2)).map Prod.fst := by
      intro hmem
      simp only [List.map_map, List.mem_map, Function.comp_apply] at hmem
      obtain ⟨p, hp, hhost⟩ := hmem
      exact hlast (List.mem_map.mpr ⟨p, hp, Topology.hostOf_inj hhost⟩)
    rw [List.map_append, List.map_cons] at hlook
    obtain ⟨node, hnode, hsame⟩ := Status.holds_look_of_last hlast'
    rw [← hlook, ← hnodes status (hset status hsets)] at hnode
    exact ⟨node, hnode, Node.shows_of_record_eq (hsame now)⟩
  · have hleaves : ∀ e ∈ t₂, e.request.LeavesPods := fun e he => by
      obtain ⟨status, answer, rfl⟩ := hstatus e he
      trivial
    show storedPods (part ++ after ++ t₂) = relabelled looks
    rw [storedPods_append, storedPods_append, storedPods_eq_nil hafter, storedPods_eq_nil hleaves,
      hstored, List.append_nil, List.append_nil]

/-- **No member has a part in what becomes of another.** Whatever another pass over the same copy of the
cluster does in a world that differs only in what has to do with one member, it treats every other
member alike; and a pass that gets to see the pods and the credentials goes by the reports of its looks,
each of which is about one member. -/
theorem pass_isolates (h : (pass c settings).Run t r) :
    (∀ (world : World) (member : String), AnsweredBy world (hiddenBy c member) [] t →
      ∀ t' r', (pass c settings).Run t' r' → AnsweredBy world (hiddenBy c member) [] t' →
        ∀ name, name ≠ member → TreatsAlike c name t t' r r') ∧
      ∀ pods : List Pod, ⟨.list .pod c.selector, .ok pods⟩ ∈ t → ReadsCredentials c t →
        ∃ looks, GoesByReports c settings pods t r looks :=
  ⟨fun _ _ hw _ _ h' hw' _ hne => treatsAlike_of_pass h h' hw hw' hne,
    fun _ hlisted hread => exists_reports_of_pass h hlisted hread⟩

/-! ### A member that refuses connections -/

/-- The pods of a group of two, both ready. -/
def pairPods : List Pod := [readyPod "sample-mysql-0", readyPod "sample-mysql-1"]

/-- What answers for the group: its pods, and servers that are writable and replicate from no one. -/
def pairAnswer : (q : Request) → q.Answer
  | .list .pod _ => .ok pairPods
  | q => (fadedAnswer q []).1

/-- The same, except that the server of the second member takes no connection. -/
def refusingAnswer : (q : Request) → q.Answer
  | .connect login =>
    if login.host = Topology.groupCluster.hostOf "sample-mysql-1" then .error .database
    else .ok ⟨login.host, 0⟩
  | q => pairAnswer q

/-- The trace of a pass over the group. -/
def pairTrace (answer : (q : Request) → q.Answer) : Trace :=
  (pass Topology.groupCluster {}).outcome.traceOf (fun q _ => (answer q, ())) ()

theorem run_pairTrace (answer : (q : Request) → q.Answer) :
    ∃ r, (pass Topology.groupCluster {}).Run (pairTrace answer) r :=
  ⟨_, Program.run_traceOf (fun q _ => (answer q, ())) _ _⟩

theorem answeredBy_pairTrace :
    AnsweredBy (fun _ => pairAnswer) (hiddenBy Topology.groupCluster "sample-mysql-1") []
      (pairTrace pairAnswer) := by
  refine Program.answeredBy_traceOf (fun login session h => ?_) fun _ _ => rfl
  obtain rfl := Except.ok.inj h
  rfl

theorem answeredBy_refusing :
    AnsweredBy (fun _ => pairAnswer) (hiddenBy Topology.groupCluster "sample-mysql-1") []
      (pairTrace refusingAnswer) := by
  refine Program.answeredBy_traceOf (fun login session h => ?_) fun q hq => ?_
  · unfold refusingAnswer at h
    dsimp only at h
    split at h
    · cases h
    · obtain rfl := Except.ok.inj h
      rfl
  · cases q with
    | connect login =>
      refine if_neg fun hhost => ?_
      have hhidden : hiddenBy Topology.groupCluster "sample-mysql-1" (.connect login) = true := by
        simp [hiddenBy, Request.concerns, Request.host?, hhost]
      rw [hhidden] at hq
      cases hq
    | _ => rfl

theorem readsCredentials_pairTrace : ReadsCredentials Topology.groupCluster (pairTrace pairAnswer) := by
  intro answer hmem
  obtain ⟨_, hanswer⟩ := Program.exists_of_mem_traceOf (fun q _ => (pairAnswer q, ())) hmem
  exact ⟨Topology.groupSecret, ⟨"u", "p", "r"⟩, hanswer, by decide +kernel⟩

/-- Whether the second member takes connections or not, the first one is treated alike, although
the second is vouched for in one of the two worlds only. -/
theorem isolates_refusing_member :
    (∃ r r', TreatsAlike Topology.groupCluster "sample-mysql-0" (pairTrace pairAnswer)
      (pairTrace refusingAnswer) r r' ∧
        ∃ looks, GoesByReports Topology.groupCluster {} pairPods (pairTrace pairAnswer) r looks) ∧
      (storedPods (pairTrace pairAnswer)).map Pod.isHealthy = [true, true] ∧
      (storedPods (pairTrace refusingAnswer)).map Pod.isHealthy = [true, false] := by
  obtain ⟨r, hrun⟩ := run_pairTrace pairAnswer
  obtain ⟨r', hrun'⟩ := run_pairTrace refusingAnswer
  obtain ⟨halike, hreports⟩ := pass_isolates hrun
  have hlisted : ⟨.list .pod Topology.groupCluster.selector, .ok pairPods⟩ ∈ pairTrace pairAnswer :=
    .tail _ (.head _)
  refine ⟨⟨r, r', ?_, hreports pairPods hlisted readsCredentials_pairTrace⟩, ?_⟩
  · exact halike _ "sample-mysql-1" answeredBy_pairTrace _ _ hrun' answeredBy_refusing "sample-mysql-0"
      (by decide)
  · decide +kernel

end Health

end RaftMysql
