import RaftMysql.Proofs.Workload.Form

/-!
# Which parts of pods give way to others

A part of a pod gives way to another when nothing of it is left after the other was laid over it.
Variables, checks and volumes do when they are of one sort (`EnvVar.givesWay`, `Check.givesWay`,
`Volume.givesWay_iff`). A container does as far as its resources do, when all its parts are there in
the other (`Container.givesWay_iff_of_covers`). Of all containers and volumes of a member this is said
by `Workload.givesWay_containers_iff` and `Workload.givesWay_volumes_iff`.
-/

namespace RaftMysql

open Json

/-! ### Sorts -/

/-- The sort of a source of a variable. -/
@[simp] def EnvSource.sort : EnvSource → Fin 3
  | value _ => 0
  | field _ => 1
  | secret .. => 2

/-- The sort of what a check does. -/
@[simp] def CheckAction.sort : CheckAction → Fin 2
  | run _ => 0
  | get .. => 1

/-- The sort of what a volume holds. -/
@[simp] def VolumeSource.sort : VolumeSource → Fin 4
  | scratch => 0
  | configMap _ => 1
  | hostPath _ => 2
  | secret _ => 3

/-! ### Parts of pods -/

theorem givesWay_texts {olds news : List String} :
    GivesWay (.list (olds.map .text)) (.list (news.map .text)) := by
  refine givesWay_list_of_forall fun _ _ y hy => ?_
  obtain ⟨s, -, rfl⟩ := List.mem_map.mp hy
  exact givesWay_text

theorem EnvVar.givesWay {e e' : EnvVar} (h : e.source.sort = e'.source.sort) :
    GivesWay e.toJson e'.toJson := by
  obtain ⟨name, source⟩ := e
  obtain ⟨name', source'⟩ := e'
  cases source <;> cases source' <;> cases h <;> simp [EnvVar.toJson, givesWay_ofPairs]

theorem Mount.givesWay {m m' : Mount} : GivesWay m.toJson m'.toJson := by
  simp [Mount.toJson, givesWay_ofPairs]

theorem Port.givesWay {p p' : Port} : GivesWay p.toJson p'.toJson := by
  simp [Port.toJson, givesWay_ofPairs]

theorem Check.givesWay {k k' : Check} (h : k.action.sort = k'.action.sort) :
    GivesWay k.toJson k'.toJson := by
  obtain ⟨action, delay⟩ := k
  obtain ⟨action', delay'⟩ := k'
  cases action <;> cases action' <;> cases h <;>
    simp [Check.toJson, givesWay_ofPairs, givesWay_texts]

theorem Hooks.givesWay {h h' : Hooks} : GivesWay h.toJson h'.toJson := by
  simp [Hooks.toJson, givesWay_ofPairs, givesWay_texts]

theorem givesWay_env {es es' : List EnvVar} (h : es.length = es'.length →
    es.map (·.source.sort) = es'.map (·.source.sort)) :
    GivesWay (.list (es.map EnvVar.toJson)) (.list (es'.map EnvVar.toJson)) := by
  refine givesWay_list.mpr fun hlen => ?_
  rw [List.length_map, List.length_map] at hlen
  rw [List.forall₂_map_left_iff, List.forall₂_map_right_iff]
  exact (forall₂_iff_map_eq.mpr (h hlen)).imp fun _ _ => EnvVar.givesWay

theorem Volume.givesWay_iff {v v' : Volume} :
    GivesWay v.toJson v'.toJson ↔ v.source.sort = v'.source.sort := by
  constructor
  · intro h
    have hkey : ∀ key, (v.toJson.member? key).isSome → (v'.toJson.member? key).isSome := fun key =>
      h.isSome_member? (Table.sorted_ofPairs _)
    obtain ⟨name, source⟩ := v
    obtain ⟨name', source'⟩ := v'
    cases source with
    | scratch =>
      have hkept := hkey "emptyDir"
      cases source' <;> first | rfl | simp [Volume.toJson] at hkept
    | configMap _ =>
      have hkept := hkey "configMap"
      cases source' <;> first | rfl | simp [Volume.toJson] at hkept
    | hostPath _ =>
      have hkept := hkey "hostPath"
      cases source' <;> first | rfl | simp [Volume.toJson] at hkept
    | secret _ =>
      have hkept := hkey "secret"
      cases source' <;> first | rfl | simp [Volume.toJson] at hkept
  · intro h
    obtain ⟨name, source⟩ := v
    obtain ⟨name', source'⟩ := v'
    have hscratch : GivesWay (.object []) (.object []) := rfl
    cases source <;> cases source' <;> cases h <;> simp [Volume.toJson, givesWay_ofPairs, hscratch]

/-- What is written of a list that is left out when it is empty. -/
def writtenItems (xs : List Json) : Option Json := if xs.isEmpty then none else some (.list xs)

@[simp] theorem writtenItems_ne_null {xs : List Json} : writtenItems xs ≠ some .null := by
  unfold writtenItems
  split <;> simp

theorem givesWayAt_writtenItems_iff {xs ys : List Json} :
    GivesWayAt (writtenItems xs) (writtenItems ys) ↔
      (xs ≠ [] → ys ≠ [] ∧ GivesWay (.list xs) (.list ys)) := by
  unfold writtenItems
  cases xs <;> cases ys <;> simp

theorem givesWayAt_writtenItems {α : Type} {f : α → Json} {as bs : List α}
    (hkept : as ≠ [] → bs ≠ []) (h : GivesWay (.list (as.map f)) (.list (bs.map f))) :
    GivesWayAt (writtenItems (as.map f)) (writtenItems (bs.map f)) := by
  refine givesWayAt_writtenItems_iff.mpr fun has => ⟨?_, h⟩
  simpa using hkept (by simpa using has)

theorem givesWayAt_map {α : Type} {f : α → Json} {a b : Option α}
    (h : ∀ x ∈ a, ∃ y ∈ b, GivesWay (f x) (f y)) : GivesWayAt (a.map f) (b.map f) := by
  intro v hv
  obtain ⟨x, hx, rfl⟩ := Option.map_eq_some_iff.mp hv
  obtain ⟨y, hy, hxy⟩ := h x hx
  exact ⟨f y, Option.map_eq_some_iff.mpr ⟨y, hy, rfl⟩, hxy⟩

namespace Container

variable {k k' : Container}

/-- The members that a container is written with. -/
def members (k : Container) : List (String × Option Json) :=
  [("name", some (.text k.name)), ("image", some (.text k.image)),
   ("imagePullPolicy", some (.text k.pullPolicy)), ("command", writtenItems (k.command.map .text)),
   ("env", writtenItems (k.env.map EnvVar.toJson)),
   ("ports", writtenItems (k.ports.map Port.toJson)), ("resources", some k.resources),
   ("livenessProbe", k.liveness.map Check.toJson),
   ("readinessProbe", k.readiness.map Check.toJson), ("lifecycle", k.hooks.map Hooks.toJson),
   ("volumeMounts", writtenItems (k.mounts.map Mount.toJson))]

theorem toJson_eq : k.toJson = .ofMembers k.members := rfl

/-- The parts of a container are there in the other, its variables from sources of the same sorts
and its checks by the same means. -/
structure Covers (k k' : Container) : Prop where
  command : k.command ≠ [] → k'.command ≠ []
  env : k.env ≠ [] → k'.env ≠ []
  sources : k.env.length = k'.env.length →
    k.env.map (·.source.sort) = k'.env.map (·.source.sort)
  ports : k.ports ≠ [] → k'.ports ≠ []
  liveness : ∀ a ∈ k.liveness, ∃ b ∈ k'.liveness, a.action.sort = b.action.sort
  readiness : ∀ a ∈ k.readiness, ∃ b ∈ k'.readiness, a.action.sort = b.action.sort
  hooks : ∀ a ∈ k.hooks, ∃ b, b ∈ k'.hooks
  mounts : k.mounts ≠ [] → k'.mounts ≠ []

/-- **A container whose parts are all there in another** gives way to it as far as its resources
do. -/
theorem givesWay_iff_of_covers (h : k.Covers k') (hresources : k'.resources ≠ .null) :
    GivesWay k.toJson k'.toJson ↔ GivesWay k.resources k'.resources := by
  have hnull : ∀ m ∈ k'.members, m.2 ≠ some .null := by
    simp [members, Check.toJson, Hooks.toJson, hresources]
  rw [toJson_eq, toJson_eq, givesWay_ofMembers (by simp [members]) (by simp [members]) hnull]
  have hcommand := givesWayAt_writtenItems h.command givesWay_texts
  have henv := givesWayAt_writtenItems h.env (givesWay_env h.sources)
  have hports := givesWayAt_writtenItems h.ports (f := Port.toJson)
    (givesWay_list_of_forall (by simp [Port.givesWay]))
  have hmounts := givesWayAt_writtenItems h.mounts (f := Mount.toJson)
    (givesWay_list_of_forall (by simp [Mount.givesWay]))
  have hliveness := givesWayAt_map (f := Check.toJson) fun a ha =>
    (h.liveness a ha).imp fun b hb => ⟨hb.1, Check.givesWay hb.2⟩
  have hreadiness := givesWayAt_map (f := Check.toJson) fun a ha =>
    (h.readiness a ha).imp fun b hb => ⟨hb.1, Check.givesWay hb.2⟩
  have hhooks := givesWayAt_map (f := Hooks.toJson) fun a ha =>
    (h.hooks a ha).imp fun b hb => ⟨hb, Hooks.givesWay⟩
  simp [members, hcommand, henv, hports, hmounts, hliveness, hreadiness, hhooks]

end Container

namespace Workload

variable {c₁ c₂ : Cluster}

theorem tokuEnv_sources (h : (tokuEnv c₁).length = (tokuEnv c₂).length) :
    (tokuEnv c₁).map (·.source.sort) = (tokuEnv c₂).map (·.source.sort) := by
  unfold tokuEnv at h ⊢
  split <;> split <;> simp_all [valueEnv]

theorem covers_configInit : (configInit c₁).Covers (configInit c₂) := by
  constructor
  case sources => simpa [configInit, fieldEnv, valueEnv, secretEnv] using tokuEnv_sources
  all_goals simp [configInit]

theorem covers_dataInit : (dataInit c₁).Covers (dataInit c₂) := by
  constructor
  case sources => simpa [dataInit, fieldEnv, valueEnv, secretEnv] using tokuEnv_sources
  all_goals simp [dataInit]

theorem covers_databaseContainer : (databaseContainer c₁).Covers (databaseContainer c₂) := by
  constructor
  case sources => simpa [databaseContainer, fieldEnv, valueEnv, secretEnv] using tokuEnv_sources
  all_goals simp [databaseContainer, runCheck, shell]

theorem covers_agentContainer : (agentContainer c₁).Covers (agentContainer c₂) := by
  constructor <;> simp [agentContainer, runCheck, fieldEnv, valueEnv]

theorem covers_backupContainer : (backupContainer c₁).Covers (backupContainer c₂) := by
  constructor <;> simp [backupContainer, secretEnv, valueEnv]

theorem covers_exporterContainer : (exporterContainer c₁).Covers (exporterContainer c₂) := by
  constructor <;> simp [exporterContainer, secretEnv]

theorem covers_logTail {name file name' file' : String} :
    (logTail c₁ name file).Covers (logTail c₂ name' file') := by
  constructor <;> simp [logTail]

/-! ### Containers -/

theorem not_givesWay_exporterContainer {name file : String} :
    ¬ GivesWay (exporterContainer c₁).toJson (logTail c₂ name file).toJson := by
  intro h
  have hkept : ((exporterContainer c₁).toJson.member? "env").isSome →
      ((logTail c₂ name file).toJson.member? "env").isSome :=
    h.isSome_member? (Table.sorted_ofPairs _)
  simp [Container.toJson, exporterContainer, logTail] at hkept

theorem not_givesWay_logTail {name file : String} :
    ¬ GivesWay (logTail c₁ name file).toJson (exporterContainer c₂).toJson := by
  intro h
  have hkept : ((logTail c₁ name file).toJson.member? "command").isSome →
      ((exporterContainer c₂).toJson.member? "command").isSome :=
    h.isSome_member? (Table.sorted_ofPairs _)
  simp [Container.toJson, exporterContainer, logTail] at hkept

theorem not_forall₂_exporterContainer {ks : List Container} :
    ¬ List.Forall₂ (fun k k' => GivesWay k.toJson k'.toJson) (exporterContainer c₁ :: ks)
      (logTails c₂) := by
  intro h
  rcases hlogs : logTails c₂ with _ | ⟨k, _⟩
  · rw [hlogs] at h
    cases h
  · obtain ⟨_, _, rfl⟩ := eq_logTail_of_mem (hlogs ▸ List.mem_cons_self : k ∈ logTails c₂)
    rw [hlogs] at h
    exact not_givesWay_exporterContainer (List.forall₂_cons.mp h).1

theorem not_forall₂_logTails {ks : List Container} :
    ¬ List.Forall₂ (fun k k' => GivesWay k.toJson k'.toJson) (logTails c₁)
      (exporterContainer c₂ :: ks) := by
  intro h
  rcases hlogs : logTails c₁ with _ | ⟨k, _⟩
  · rw [hlogs] at h
    cases h
  · obtain ⟨_, _, rfl⟩ := eq_logTail_of_mem (hlogs ▸ List.mem_cons_self : k ∈ logTails c₁)
    rw [hlogs] at h
    exact not_givesWay_logTail (List.forall₂_cons.mp h).1

/-- **The containers give way** as a whole when there are more or fewer of them. As many as before
must be the same ones, and their resources must give way. -/
theorem givesWay_containers_iff (h : c₂.spec.Formed)
    (hdatabase : GivesWay c₁.spec.database.resources c₂.spec.database.resources)
    (hhelpers : GivesWay c₁.spec.podPolicy.extraResources c₂.spec.podPolicy.extraResources) :
    GivesWay (.list ((containers c₁).map Container.toJson))
        (.list ((containers c₂).map Container.toJson)) ↔
      ((containers c₁).length = (containers c₂).length →
        c₁.spec.exporter.enabled = c₂.spec.exporter.enabled ∧
        GivesWay c₁.spec.agent.resources c₂.spec.agent.resources ∧
        (c₁.spec.exporter.enabled →
          GivesWay c₁.spec.exporter.resources c₂.spec.exporter.resources)) := by
  have hfirst : GivesWay (databaseContainer c₁).toJson (databaseContainer c₂).toJson :=
    (Container.givesWay_iff_of_covers covers_databaseContainer
      (Shape.ne_null_of_holds h.database)).mpr hdatabase
  have hsecond : GivesWay (agentContainer c₁).toJson (agentContainer c₂).toJson ↔
      GivesWay c₁.spec.agent.resources c₂.spec.agent.resources :=
    Container.givesWay_iff_of_covers covers_agentContainer (Shape.ne_null_of_holds h.agent)
  have hthird : GivesWay (backupContainer c₁).toJson (backupContainer c₂).toJson :=
    (Container.givesWay_iff_of_covers covers_backupContainer
      (Shape.ne_null_of_holds h.policy.resources)).mpr hhelpers
  have hexporter : GivesWay (exporterContainer c₁).toJson (exporterContainer c₂).toJson ↔
      GivesWay c₁.spec.exporter.resources c₂.spec.exporter.resources :=
    Container.givesWay_iff_of_covers covers_exporterContainer (Shape.ne_null_of_holds h.exporter)
  have hlogs : (logTails c₁).length = (logTails c₂).length →
      List.Forall₂ (fun k k' => GivesWay k.toJson k'.toJson) (logTails c₁) (logTails c₂) := by
    intro hlen
    refine List.forall₂_iff_zip.mpr ⟨hlen, fun {k k'} hk => ?_⟩
    obtain ⟨_, _, rfl⟩ := eq_logTail_of_mem (List.of_mem_zip hk).1
    obtain ⟨_, _, rfl⟩ := eq_logTail_of_mem (List.of_mem_zip hk).2
    exact (Container.givesWay_iff_of_covers covers_logTail
      (Shape.ne_null_of_holds h.policy.resources)).mpr hhelpers
  rw [givesWay_list, List.length_map, List.length_map]
  refine imp_congr_right fun hlen => ?_
  rw [List.forall₂_map_left_iff, List.forall₂_map_right_iff]
  rw [containers_eq, containers_eq] at hlen ⊢
  cases he₁ : c₁.spec.exporter.enabled <;> cases he₂ : c₂.spec.exporter.enabled <;>
    simp [he₁, he₂, hfirst, hsecond, hthird, hexporter] at hlen ⊢
  · exact fun _ => hlogs hlen
  -- Whichever of the two has the exporter, it meets a log tail in the other list, or its end.
  · exact fun _ => not_forall₂_logTails
  · exact fun _ => not_forall₂_exporterContainer
  · exact fun _ _ => hlogs hlen

/-! ### Volumes -/

/-- The sorts of the volumes of a member, by whether it has scratch data, a system file and
certificates. -/
def volumeSorts (data system tls : Bool) : List (Fin 4) :=
  (if data then [0] else []) ++ (if system then [2] else []) ++ [0, 0, 1, 0, 0, 0, 0, 2]
    ++ (if tls then [3] else [])

theorem map_sort_volumes (c : Cluster) : (volumes c).map (·.source.sort) =
    volumeSorts (!c.spec.persistence.enabled) c.spec.database.tokuDb c.spec.tlsSecret.isSome := by
  unfold volumes volumeSorts
  cases c.spec.persistence.enabled <;> cases c.spec.database.tokuDb <;>
    cases c.spec.tlsSecret <;> rfl

theorem volumeSorts_inj : ∀ {d s t d' s' t' : Bool}, volumeSorts d s t = volumeSorts d' s' t' →
    d = d' ∧ s = s' ∧ t = t' := by
  decide

/-- **The volumes give way** as a whole when there are more or fewer of them. As many as before must
be the same ones, as a source stays where it was. -/
theorem givesWay_volumes_iff :
    GivesWay (.list ((volumes c₁).map Volume.toJson)) (.list ((volumes c₂).map Volume.toJson)) ↔
      ((volumes c₁).length = (volumes c₂).length →
        c₁.spec.persistence.enabled = c₂.spec.persistence.enabled ∧
        c₁.spec.database.tokuDb = c₂.spec.database.tokuDb ∧
        c₁.spec.tlsSecret.isSome = c₂.spec.tlsSecret.isSome) := by
  rw [givesWay_list, List.length_map, List.length_map]
  refine imp_congr_right fun _ => ?_
  rw [List.forall₂_map_left_iff, List.forall₂_map_right_iff]
  simp only [Volume.givesWay_iff]
  rw [forall₂_iff_map_eq, map_sort_volumes, map_sort_volumes]
  constructor
  · intro h
    obtain ⟨hdata, hrest⟩ := volumeSorts_inj h
    exact ⟨Bool.not_inj hdata, hrest⟩
  · rintro ⟨hdata, hsystem, htls⟩
    rw [hdata, hsystem, htls]

end Workload

end RaftMysql
