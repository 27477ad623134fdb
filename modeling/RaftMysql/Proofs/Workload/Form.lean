import RaftMysql.Workload.Template
import RaftMysql.Proofs.Object.Shapes

/-!
# The form of the workload of a cluster

The parts of a specification that are written as the platform does have their form when they were
read (`Spec.formed_of_ofDocument?`), and then so does the whole workload of the cluster, also with
what has become of it (`Workload.holds_withStatus`).
-/

namespace RaftMysql

open Shape

/-- The parts of a policy for pods that are not of its own making are in the platform's form. -/
structure PodPolicy.Formed (p : PodPolicy) : Prop where
  resources : Shape.resources.Holds p.extraResources
  affinity : ∀ v ∈ p.affinity, Shape.affinity.Holds v
  tolerations : ∀ v ∈ p.tolerations, toleration.Holds v
  annotations : p.annotations.Ordered

/-- The parts of a specification that are not of its own making are in the platform's form. -/
structure Spec.Formed (s : Spec) : Prop where
  replicas : -2147483648 ≤ s.replicas ∧ s.replicas ≤ 2147483647
  database : resources.Holds s.database.resources
  agent : resources.Holds s.agent.resources
  exporter : resources.Holds s.exporter.resources
  policy : s.podPolicy.Formed

/-! ### Reading -/

theorem Document.of_field {α : Type} {given : String → Option Document} {name : String}
    {read : Document.Reader α} {default x : α} {P : α → Prop}
    (h : Document.field given name read default = some x) (hdefault : P default)
    (hread : ∀ d y, read d = some y → P y) : P x := by
  unfold Document.field at h
  split at h
  · exact hread _ _ h
  · cases h
    exact hdefault

theorem Resources.holds_of_field {given : String → Option Document} {name : String} {v : Json}
    (h : Document.field given name Resources.ofDocument? (.object []) = some v) :
    resources.Holds v :=
  Document.of_field h (by simp [resources, HoldFields, opt]) fun _ _ => holds_of_fit? (by decide)

theorem DatabaseOptions.holds_resources {d : Document} {o : DatabaseOptions}
    (h : DatabaseOptions.ofDocument? d = some o) : Shape.resources.Holds o.resources := by
  simp only [ofDocument?, Option.bind_eq_bind, Option.bind_eq_some_iff] at h
  obtain ⟨given, -, _, -, _, -, _, -, v, hv, h⟩ := h
  cases h
  exact Resources.holds_of_field hv

theorem AgentOptions.holds_resources {d : Document} {o : AgentOptions}
    (h : AgentOptions.ofDocument? d = some o) : Shape.resources.Holds o.resources := by
  simp only [ofDocument?, Option.bind_eq_bind, Option.bind_eq_some_iff] at h
  obtain ⟨given, -, _, -, _, -, _, -, _, -, v, hv, h⟩ := h
  cases h
  exact Resources.holds_of_field hv

theorem ExporterOptions.holds_resources {d : Document} {o : ExporterOptions}
    (h : ExporterOptions.ofDocument? d = some o) : Shape.resources.Holds o.resources := by
  simp only [ofDocument?, Option.bind_eq_bind, Option.bind_eq_some_iff] at h
  obtain ⟨given, -, _, -, _, -, v, hv, h⟩ := h
  cases h
  exact Resources.holds_of_field hv

theorem PodPolicy.formed_of_ofDocument? {d : Document} {p : PodPolicy}
    (h : PodPolicy.ofDocument? d = some p) : p.Formed := by
  unfold ofDocument? at h
  obtain ⟨given, -, h⟩ := Option.bind_eq_some_iff.mp h
  obtain ⟨_, -, h⟩ := Option.bind_eq_some_iff.mp h
  obtain ⟨_, -, h⟩ := Option.bind_eq_some_iff.mp h
  obtain ⟨annotations, hannotations, h⟩ := Option.bind_eq_some_iff.mp h
  obtain ⟨affinity, haffinity, h⟩ := Option.bind_eq_some_iff.mp h
  obtain ⟨_, -, h⟩ := Option.bind_eq_some_iff.mp h
  obtain ⟨tolerations, htolerations, h⟩ := Option.bind_eq_some_iff.mp h
  obtain ⟨_, -, h⟩ := Option.bind_eq_some_iff.mp h
  obtain ⟨extra, hextra, h⟩ := Option.bind_eq_some_iff.mp h
  obtain ⟨_, -, h⟩ := Option.bind_eq_some_iff.mp h
  obtain ⟨_, -, h⟩ := Option.bind_eq_some_iff.mp h
  obtain ⟨_, -, h⟩ := Option.bind_eq_some_iff.mp h
  obtain ⟨_, -, h⟩ := Option.bind_eq_some_iff.mp h
  cases h
  refine ⟨Resources.holds_of_field hextra, ?_, ?_, ?_⟩
  · refine Document.of_field (P := fun o => ∀ v ∈ o, Shape.affinity.Holds v) haffinity (by simp)
      fun d y hd v hv => ?_
    unfold Document.optional? at hd
    split at hd
    · cases hd
      cases hv
    · obtain ⟨w, hw, rfl⟩ := Option.map_eq_some_iff.mp hd
      cases hv
      exact holds_of_fit? (by decide) hw
  · refine Document.of_field (P := fun vs => ∀ v ∈ vs, toleration.Holds v) htolerations (by simp)
      fun d y hd => ?_
    cases d with
    | list ds => exact forall_mem_of_mapM hd fun _ _ _ => holds_of_fit? (by decide)
    | _ => cases hd
  · refine Document.of_field hannotations List.Pairwise.nil fun d y hd => ?_
    cases d with
    | record members =>
      obtain ⟨ps, -, rfl⟩ := Option.map_eq_some_iff.mp hd
      exact Table.sorted_ofPairs ps
    | _ => cases hd

theorem Document.int32_bounds {d : Document} {n : Int} (h : Document.int32? d = some n) :
    -2147483648 ≤ n ∧ n ≤ 2147483647 := by
  cases d with
  | int m =>
    unfold Document.int32? Document.intBetween? at h
    obtain ⟨hbounds, hm⟩ := Option.ite_none_right_eq_some.mp h
    cases hm
    exact hbounds
  | _ => cases h

/-- **A specification that was read** has its parts in the platform's form. -/
theorem Spec.formed_of_ofDocument? {d : Document} {s : Spec} (h : Spec.ofDocument? d = some s) :
    s.Formed := by
  unfold Spec.ofDocument? at h
  obtain ⟨given, -, h⟩ := Option.bind_eq_some_iff.mp h
  obtain ⟨replicas, hreplicas, h⟩ := Option.bind_eq_some_iff.mp h
  obtain ⟨_, -, h⟩ := Option.bind_eq_some_iff.mp h
  obtain ⟨database, hdatabase, h⟩ := Option.bind_eq_some_iff.mp h
  obtain ⟨agent, hagent, h⟩ := Option.bind_eq_some_iff.mp h
  obtain ⟨exporter, hexporter, h⟩ := Option.bind_eq_some_iff.mp h
  obtain ⟨policy, hpolicy, h⟩ := Option.bind_eq_some_iff.mp h
  obtain ⟨_, -, h⟩ := Option.bind_eq_some_iff.mp h
  obtain ⟨_, -, h⟩ := Option.bind_eq_some_iff.mp h
  cases h
  have hempty : resources.Holds (.object []) := by simp [resources, HoldFields, opt]
  constructor
  · exact Document.of_field (P := fun n => -2147483648 ≤ n ∧ n ≤ 2147483647) hreplicas (by decide)
      fun _ _ => Document.int32_bounds
  · exact Document.of_field (P := fun o => Shape.resources.Holds o.resources) hdatabase hempty
      fun _ _ => DatabaseOptions.holds_resources
  · exact Document.of_field (P := fun o => Shape.resources.Holds o.resources) hagent hempty
      fun _ _ => AgentOptions.holds_resources
  · exact Document.of_field (P := fun o => Shape.resources.Holds o.resources) hexporter hempty
      fun _ _ => ExporterOptions.holds_resources
  · exact Document.of_field hpolicy ⟨hempty, by simp, by simp, List.Pairwise.nil⟩
      fun _ _ => PodPolicy.formed_of_ofDocument?

/-! ### Heads -/

theorem Owner.holds_toJson (o : Owner) : owner.Holds o.toJson := by
  obtain ⟨version, kind, name, uid, controller, block⟩ := o
  cases controller <;> cases block <;>
    simp [Owner.toJson, owner, opts, opt, reqs, req, HoldFields]

theorem Metadata.holds_toJson {m : Metadata} (hrest : m.rest = [])
    (hgeneration : m.generation = none) (hdeleted : m.deletedAt = none)
    (hlabels : ∀ t ∈ m.labels, t.Ordered) : metadata.Holds m.toJson := by
  have htexts : ∀ t, m.labels = some t → (table text).Holds (.ofTexts t) := fun t ht =>
    holds_ofTexts (hlabels t ht)
  have howners := Owner.holds_toJson
  simp [Metadata.toJson, metadata, opts, opt, HoldFields, hrest, hgeneration, hdeleted, howners]
  exact htexts

/-! ### Parts of pods -/

theorem EnvVar.holds_toJson (e : EnvVar) : envVariable.Holds e.toJson := by
  obtain ⟨name, source⟩ := e
  cases source <;> simp [EnvVar.toJson, envVariable, HoldFields, opt, req, podField, keyOf]

theorem Mount.holds_toJson (m : Mount) : mount.Holds m.toJson := by
  simp [Mount.toJson, mount, HoldFields, opt, opts, reqs, req]

theorem Volume.holds_toJson (v : Volume) : volume.Holds v.toJson := by
  obtain ⟨name, source⟩ := v
  cases source <;> simp [Volume.toJson, volume, HoldFields, opt, req, opts, reqs, platformSources,
    diskSources, networkSources]

theorem Hooks.holds_toJson (h : Hooks) :
    (record (opts handler ["postStart", "preStop"])).Holds h.toJson := by
  simp [Hooks.toJson, HoldFields, opt, opts, handler, execAction]

theorem Port.holds_toJson {p : Port} (h : p.number ≤ 2147483647) : port.Holds p.toJson := by
  simp [Port.toJson, port, HoldFields, opt, opts, req]
  omega

/-- The numbers of a check fit their fields. -/
def Check.Fits (c : Check) : Prop :=
  c.initialDelay ≤ 2147483647 ∧ ∀ path port, c.action = .get path port → port ≤ 2147483647

theorem Check.holds_toJson {c : Check} (h : c.Fits) : probe.Holds c.toJson := by
  obtain ⟨action, delay⟩ := c
  have hdelay : delay ≤ 2147483647 := h.1
  cases action with
  | run command =>
    simp [Check.toJson, probe, HoldFields, opt, opts, execAction]
    omega
  | get path port =>
    have hport : port ≤ 2147483647 := h.2 path port rfl
    simp [Check.toJson, probe, HoldFields, opt, opts, httpAction, req]
    omega

/-- What a container uses is in the platform's form, and its numbers fit. -/
structure Container.Formed (c : Container) : Prop where
  resources : Shape.resources.Holds c.resources
  ports : ∀ p ∈ c.ports, p.number ≤ 2147483647
  liveness : ∀ k ∈ c.liveness, k.Fits
  readiness : ∀ k ∈ c.readiness, k.Fits

theorem Container.holds_toJson {c : Container} (h : c.Formed) : container.Holds c.toJson := by
  have hhooks := Hooks.holds_toJson
  simp [opts, opt] at hhooks
  simp [Container.toJson, container, containerFields, opts, opt, req, HoldFields]
  exact ⟨fun k hk => Check.holds_toJson (h.liveness k hk),
    fun k hk => Check.holds_toJson (h.readiness k hk), fun _ e _ => e.holds_toJson,
    fun k _ => hhooks k, fun _ p hp => Port.holds_toJson (h.ports p hp), h.resources,
    fun _ m _ => m.holds_toJson⟩

namespace Workload

variable {c : Cluster}

theorem formed_configInit (h : c.spec.Formed) : (configInit c).Formed := by
  constructor <;> simp [configInit, h.policy.resources]

theorem formed_dataInit (h : c.spec.Formed) : (dataInit c).Formed := by
  constructor <;> simp [dataInit, h.database]

theorem formed_databaseContainer (h : c.spec.Formed) : (databaseContainer c).Formed := by
  constructor <;> simp [databaseContainer, runCheck, Check.Fits, h.database]

theorem formed_agentContainer (h : c.spec.Formed) : (agentContainer c).Formed := by
  constructor <;> simp [agentContainer, Cluster.peerPort, runCheck, Check.Fits, h.agent]

theorem formed_backupContainer (h : c.spec.Formed) : (backupContainer c).Formed := by
  constructor <;> simp [backupContainer, Check.Fits, h.policy.resources]

theorem formed_exporterContainer (h : c.spec.Formed) : (exporterContainer c).Formed := by
  constructor <;> simp [exporterContainer, exporterPort, Check.Fits, h.exporter]

theorem formed_logTail (h : c.spec.Formed) {name file : String} : (logTail c name file).Formed := by
  constructor <;> simp [logTail, h.policy.resources]

/-- The containers that follow logs. -/
def logTails (c : Cluster) : List Container :=
  (if c.spec.podPolicy.slowLogTail then [logTail c "slowlog" "mysql-slow.log"] else [])
  ++ (if c.spec.podPolicy.auditLogTail then [logTail c "auditlog" "mysql-audit.log"] else [])

theorem containers_eq (c : Cluster) : containers c =
    [databaseContainer c, agentContainer c, backupContainer c] ++
      ((if c.spec.exporter.enabled then [exporterContainer c] else []) ++ logTails c) := by
  unfold containers logTails
  simp only [List.append_assoc]

theorem eq_logTail_of_mem {k : Container} (h : k ∈ logTails c) :
    ∃ name file, k = logTail c name file := by
  rcases List.mem_append.mp h with h | h <;> split at h
  · exact ⟨_, _, List.mem_singleton.mp h⟩
  · cases h
  · exact ⟨_, _, List.mem_singleton.mp h⟩
  · cases h

theorem formed_of_mem_containers (h : c.spec.Formed) {k : Container} (hk : k ∈ containers c) :
    k.Formed := by
  rw [containers_eq, List.mem_append, List.mem_append] at hk
  rcases hk with hk | hk | hk
  · simp only [List.mem_cons, List.not_mem_nil, or_false] at hk
    obtain rfl | rfl | rfl := hk
    · exact formed_databaseContainer h
    · exact formed_agentContainer h
    · exact formed_backupContainer h
  · split at hk
    · obtain rfl := List.mem_singleton.mp hk
      exact formed_exporterContainer h
    · cases hk
  · obtain ⟨name, file, rfl⟩ := eq_logTail_of_mem hk
    exact formed_logTail h

theorem holds_podSpec (h : c.spec.Formed) : Shape.podSpec.Holds (podSpec c) := by
  have hconfig := Container.holds_toJson (formed_configInit h)
  have hdata := Container.holds_toJson (formed_dataInit h)
  have hcontainers : ∀ k ∈ containers c, container.Holds k.toJson := fun k hk =>
    Container.holds_toJson (formed_of_mem_containers h hk)
  simp [podSpec, Shape.podSpec, opts, opt, req, HoldFields, hconfig, hdata, Volume.holds_toJson]
  exact ⟨h.policy.affinity, hcontainers, fun _ => h.policy.tolerations⟩

/-! ### The workload -/

theorem ordered_selector : c.selector.Ordered := Table.sorted_ofPairs _

theorem ordered_labels : c.labels.Ordered :=
  Table.sorted_insert (Table.sorted_insert ordered_selector _ _) _ _

theorem ordered_podLabels : (podLabels c).Ordered :=
  Table.sorted_insert (Table.sorted_insert (Table.sorted_foldl_insert _ ordered_labels) _ _) _ _

theorem ordered_podAnnotations (h : c.spec.Formed) : (podAnnotations c).Ordered := by
  unfold podAnnotations
  split
  · exact Table.sorted_insert (Table.sorted_insert h.policy.annotations _ _) _ _
  · exact h.policy.annotations

theorem holds_podTemplate (h : c.spec.Formed) :
    (record [opt "metadata" metadata, opt "spec" Shape.podSpec]).Holds (podTemplate c) := by
  have hannotations := holds_ofTexts (ordered_podAnnotations h)
  have hlabels := holds_ofTexts (ordered_podLabels (c := c))
  simp [podTemplate, opts, opt, HoldFields, metadata, holds_podSpec h, hannotations, hlabels]

theorem holds_claimTemplate : Shape.claimTemplate.Holds (claimTemplate c) := by
  have hmetadata (labels : Labels) (hlabels : labels.Ordered) := Metadata.holds_toJson
    (m := { name := some dataVolume, labels := some labels, owners := owners c }) rfl rfl rfl
    (by simpa using hlabels)
  have hsize (size : String) : (table text).Holds (.ofPairs [("storage", .text size)]) :=
    holds_ofTexts (t := [("storage", size)]) (List.pairwise_singleton _ _)
  simp [claimTemplate, Shape.claimTemplate, opts, opt, req, HoldFields, hmetadata,
    ordered_selector, claimSpec, Shape.resources, hsize]

theorem holds_spec (h : c.spec.Formed) :
    ∀ v ∈ (desired c).body.member? "spec", workloadSpec.Holds v := by
  have hselector := holds_ofTexts (ordered_selector (c := c))
  have htemplate := holds_podTemplate h
  simp only [opt] at htemplate
  simp [desired, workloadSpec, opts, opt, req, HoldFields, labelSelector, hselector, htemplate,
    holds_claimTemplate]
  exact h.replicas

/-- A workload with what has become of it. -/
def withStatus (w : Workload) : Option Json → Workload
  | none => w
  | some status => { w with body := w.body.setMember "status" status }

theorem withStatus_toJson {status : Option Json} :
    (withStatus (desired c) status).toJson .workload =
      .ofMembers [("spec", (desired c).body.member? "spec"), ("status", status),
        ("apiVersion", some (.text Kind.workload.apiVersion)),
        ("kind", some (.text Kind.workload.name)),
        ("metadata", some (desired c).metadata.toJson)] := by
  cases status with
  | none => rfl
  | some v => rfl

/-- **The workload of a cluster**, with what has become of it, has the form of its kind. -/
theorem holds_withStatus {status : Option Json} (h : c.spec.Formed)
    (hstatus : ∀ v ∈ status, workloadStatus.Holds v) :
    Kind.workload.shape.Holds ((withStatus (desired c) status).toJson .workload) := by
  have hmetadata : metadata.Holds (desired c).metadata.toJson :=
    Metadata.holds_toJson rfl rfl rfl (by simpa [desired] using ordered_labels)
  rw [withStatus_toJson]
  simp [Kind.shape, Kind.bodyFields, opt, req, HoldFields, hmetadata]
  exact ⟨holds_spec h, hstatus⟩

theorem holds_desired (h : c.spec.Formed) :
    Kind.workload.shape.Holds ((desired c).toJson .workload) :=
  @holds_withStatus c none h (by simp)

end Workload

end RaftMysql
