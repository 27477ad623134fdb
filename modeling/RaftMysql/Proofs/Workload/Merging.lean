import RaftMysql.Proofs.Workload.Parts

/-!
# A changed cluster, laid over its workload

The workload of a changed cluster is laid over the one that is kept for it, with what the platform
wrote there. `Workload.DropsNothing` says of a change that nothing is taken out of a place that stays.
The template of the pods becomes that of the changed cluster just for such changes
(`Workload.overlay_desired`): what the earlier template says and the later one leaves out is still
there (`Workload.overlay_unlabelled`), like anything that the platform added by itself.
-/

namespace RaftMysql

open Json

/-! ### Objects -/

/-- Objects in the form of their kind are merged, and beyond the head the merged one is an
overlay. -/
theorem Manifest.overlay?_of_holds {kind : Kind} {live desired : Manifest}
    (h : kind.shape.Holds (live.toJson kind)) (h' : kind.shape.Holds (desired.toJson kind)) :
    ∃ merged changed, Manifest.overlay? kind live desired = some (merged, changed) ∧
      ∀ key ∉ Manifest.head, merged.body.member? key =
        ((live.toJson kind).overlay (desired.toJson kind)).member? key := by
  have hread := Shape.fit?_ofJson (Shape.holds_overlay h h')
  unfold Manifest.overlay? Manifest.ofDocument?
  simp only [hread]
  refine ⟨_, _, rfl, fun key hkey => ?_⟩
  simp only [Manifest.head, List.mem_cons, List.not_mem_nil, or_false, not_or] at hkey
  obtain ⟨hversion, hkind, hmetadata⟩ := hkey
  simp only [Manifest.head, List.foldl_cons, List.foldl_nil]
  rw [member?_eraseMember_of_ne (Ne.symm hmetadata), member?_eraseMember_of_ne (Ne.symm hkind),
    member?_eraseMember_of_ne (Ne.symm hversion)]

namespace Workload

variable {c₁ c₂ : Cluster}

/-! ### The template -/

/-- The later specification drops nothing that the earlier one put into a place that both have. -/
structure DropsNothing (old new : Cluster) : Prop where
  labels : ∀ key, ((podLabels old).get? key).isSome → ((podLabels new).get? key).isSome
  annotations : ∀ key, ((podAnnotations old).get? key).isSome →
    ((podAnnotations new).get? key).isSome
  scheduler : old.spec.podPolicy.scheduler.isSome → new.spec.podPolicy.scheduler.isSome
  priorityClass : old.spec.podPolicy.priorityClass.isSome → new.spec.podPolicy.priorityClass.isSome
  affinity : GivesWayAt old.spec.podPolicy.affinity new.spec.podPolicy.affinity
  tolerations : old.spec.podPolicy.tolerations ≠ [] → new.spec.podPolicy.tolerations ≠ [] ∧
    GivesWay (.list old.spec.podPolicy.tolerations) (.list new.spec.podPolicy.tolerations)
  database : GivesWay old.spec.database.resources new.spec.database.resources
  helpers : GivesWay old.spec.podPolicy.extraResources new.spec.podPolicy.extraResources
  /-- As many containers as before are the same ones. -/
  containers : (containers old).length = (containers new).length →
    old.spec.exporter.enabled = new.spec.exporter.enabled ∧
    GivesWay old.spec.agent.resources new.spec.agent.resources ∧
    (old.spec.exporter.enabled → GivesWay old.spec.exporter.resources new.spec.exporter.resources)
  /-- As many volumes as before are the same ones. -/
  volumes : (volumes old).length = (volumes new).length →
    old.spec.persistence.enabled = new.spec.persistence.enabled ∧
    old.spec.database.tokuDb = new.spec.database.tokuDb ∧
    old.spec.tlsSecret.isSome = new.spec.tlsSecret.isSome

theorem givesWayAt_texts {a b : Option String} :
    GivesWayAt (a.map .text) (b.map .text) ↔ (a.isSome → b.isSome) := by
  cases a <;> cases b <;> simp

theorem givesWay_initContainers_iff (h : c₂.spec.Formed) :
    GivesWay (.list [(configInit c₁).toJson, (dataInit c₁).toJson])
        (.list [(configInit c₂).toJson, (dataInit c₂).toJson]) ↔
      GivesWay c₁.spec.podPolicy.extraResources c₂.spec.podPolicy.extraResources ∧
        GivesWay c₁.spec.database.resources c₂.spec.database.resources := by
  have hconfig : GivesWay (configInit c₁).toJson (configInit c₂).toJson ↔
      GivesWay c₁.spec.podPolicy.extraResources c₂.spec.podPolicy.extraResources :=
    Container.givesWay_iff_of_covers covers_configInit (Shape.ne_null_of_holds h.policy.resources)
  have hdata : GivesWay (dataInit c₁).toJson (dataInit c₂).toJson ↔
      GivesWay c₁.spec.database.resources c₂.spec.database.resources :=
    Container.givesWay_iff_of_covers covers_dataInit (Shape.ne_null_of_holds h.database)
  rw [givesWay_list]
  simp [hconfig, hdata]

/-- **The template of a cluster gives way** to that of another if the latter drops nothing. -/
theorem givesWay_podTemplate_iff (h₁ : c₁.spec.Formed) (h₂ : c₂.spec.Formed) :
    GivesWay (podTemplate c₁) (podTemplate c₂) ↔ DropsNothing c₁ c₂ := by
  have haffinity : c₂.spec.podPolicy.affinity ≠ some .null := fun h =>
    Shape.ne_null_of_holds (h₂.policy.affinity _ h) rfl
  have htolerations : ∀ c : Cluster, (if c.spec.podPolicy.tolerations.isEmpty then none
      else some (.list c.spec.podPolicy.tolerations)) = writtenItems c.spec.podPolicy.tolerations :=
    fun _ => rfl
  unfold podTemplate podSpec
  simp only [htolerations]
  rw [givesWay_ofPairs (by simp) (by simp) (by simp)]
  simp only [List.forall₂_cons]
  rw [givesWay_ofPairs (by simp) (by simp) (by simp),
    givesWay_ofMembers (by simp) (by simp) (by simp [haffinity])]
  simp only [List.forall₂_cons, List.forall₂_nil_left_iff, givesWayAt_some, givesWayAt_texts,
    givesWayAt_writtenItems_iff, givesWay_initContainers_iff h₂, givesWay_volumes_iff,
    givesWay_ofTexts (ordered_podAnnotations h₁) (ordered_podAnnotations h₂),
    givesWay_ofTexts ordered_podLabels ordered_podLabels]
  constructor
  · rintro ⟨⟨hannotations, hlabels, -⟩, ⟨⟨hhelpers, hdatabase⟩, hcontainers, hvolumes, -, hscheduler,
      hpriority, haffinity, htolerations, -⟩, -⟩
    exact ⟨hlabels, hannotations, hscheduler, hpriority, haffinity, htolerations, hdatabase,
      hhelpers, (givesWay_containers_iff h₂ hdatabase hhelpers).mp hcontainers, hvolumes⟩
  · intro h
    exact ⟨⟨h.annotations, h.labels, trivial⟩, ⟨⟨h.helpers, h.database⟩,
      (givesWay_containers_iff h₂ h.database h.helpers).mpr h.containers, h.volumes, givesWay_text,
      h.scheduler, h.priorityClass, h.affinity, h.tolerations, trivial⟩, trivial⟩

theorem template_overlay {status : Option Json} :
    (((withStatus (desired c₁) status).toJson .workload).overlay
        ((desired c₂).toJson .workload)).at? ["spec", "template"] =
      some ((podTemplate c₁).overlay (podTemplate c₂)) := by
  have h : (desired c₂).toJson .workload = (withStatus (desired c₂) none).toJson .workload := rfl
  rw [h, withStatus_toJson, withStatus_toJson]
  simp [at?, desired, overlayAt]

theorem exists_overlay {status : Option Json} (h₁ : c₁.spec.Formed) (h₂ : c₂.spec.Formed)
    (hstatus : ∀ v ∈ status, Shape.workloadStatus.Holds v) :
    ∃ merged changed, Manifest.overlay? .workload (withStatus (desired c₁) status) (desired c₂) =
        some (merged, changed) ∧
      merged.body.at? ["spec", "template"] = some ((podTemplate c₁).overlay (podTemplate c₂)) := by
  obtain ⟨merged, changed, hmerged, hbody⟩ :=
    Manifest.overlay?_of_holds (holds_withStatus h₁ hstatus) (holds_desired h₂)
  refine ⟨merged, changed, hmerged, ?_⟩
  rw [at?, hbody "spec" (by decide)]
  exact template_overlay

/-- **The workload of a cluster with that of a changed one laid over it:** this succeeds, the template
of the pods is the new one laid over the old, and it is the new one just when the change drops
nothing in place. -/
theorem overlay_desired {d₁ d₂ : Document} {status : Option Json}
    (h₁ : Spec.ofDocument? d₁ = some c₁.spec) (h₂ : Spec.ofDocument? d₂ = some c₂.spec)
    (hstatus : ∀ v ∈ status, Shape.workloadStatus.Holds v) :
    ∃ merged changed, Manifest.overlay? .workload (withStatus (desired c₁) status) (desired c₂) =
        some (merged, changed) ∧
      merged.body.at? ["spec", "template"] = some ((podTemplate c₁).overlay (podTemplate c₂)) ∧
      (merged.body.at? ["spec", "template"] = some (podTemplate c₂) ↔ DropsNothing c₁ c₂) := by
  have hf₁ := Spec.formed_of_ofDocument? h₁
  have hf₂ := Spec.formed_of_ofDocument? h₂
  obtain ⟨merged, changed, hmerged, htemplate⟩ := exists_overlay hf₁ hf₂ hstatus
  refine ⟨merged, changed, hmerged, htemplate, ?_⟩
  rw [htemplate, Option.some.injEq]
  exact givesWay_podTemplate_iff hf₁ hf₂

/-! ### A label that comes and goes -/

/-- A cluster whose pods carry a label of its own. -/
def labelled : Cluster where
  metadata := { name := some "sample", space := some "default", uid := some "u-1" }
  spec := { podPolicy := { labels := [("team", "a")] } }

/-- The cluster without the label. -/
def unlabelled : Cluster := { labelled with spec := {} }

theorem ofDocument?_labelled : Spec.ofDocument?
    (.record [("podPolicy", .record [("labels", .record [("team", .text "a")])])]) =
      some labelled.spec :=
  rfl

theorem ofDocument?_unlabelled : Spec.ofDocument? (.record []) = some unlabelled.spec := rfl

theorem dropsNothing_labelled : DropsNothing unlabelled labelled := by
  have hlabels : ∀ key, ((podLabels unlabelled).get? key).isSome →
      ((podLabels labelled).get? key).isSome := by
    have hold : podLabels unlabelled = (unlabelled.labels.insert Cluster.roleLabel
      "candidate").insert Cluster.healthyLabel "no" := rfl
    have hnew : podLabels labelled = ((unlabelled.labels.insert "team" "a").insert
      Cluster.roleLabel "candidate").insert Cluster.healthyLabel "no" := rfl
    intro key
    rw [hold, hnew]
    simp only [Table.get?_insert]
    split_ifs <;> simp
  constructor
  case labels => exact hlabels
  case affinity => exact givesWayAt_none
  case tolerations => exact fun h => absurd rfl h
  case database => rfl
  case helpers => rfl
  case containers => exact fun _ => ⟨rfl, rfl, fun _ => rfl⟩
  case volumes => exact fun _ => ⟨rfl, rfl, rfl⟩
  all_goals simp [labelled, unlabelled, podAnnotations]

/-- A label that is added arrives. -/
theorem overlay_labelled : ∃ merged changed, Manifest.overlay? .workload
    (withStatus (desired unlabelled) (some (.ofPairs [("replicas", .int 3)]))) (desired labelled) =
      some (merged, changed) ∧
    merged.body.at? ["spec", "template"] = some (podTemplate labelled) := by
  have hstatus : ∀ v ∈ some (Json.ofPairs [("replicas", .int 3)]),
      Shape.workloadStatus.Holds v := by
    simp [Shape.workloadStatus, Shape.opts, Shape.opt, Shape.req, Shape.HoldFields]
  obtain ⟨merged, changed, hmerged, -, htemplate⟩ :=
    overlay_desired ofDocument?_unlabelled ofDocument?_labelled hstatus
  exact ⟨merged, changed, hmerged, htemplate.mpr dropsNothing_labelled⟩

/-- **A label that is taken back stays.** -/
theorem overlay_unlabelled : unlabelled = { labelled with spec := unlabelled.spec } ∧
    labelled.check = .ok () ∧ unlabelled.check = .ok () ∧ ∃ merged changed,
      Manifest.overlay? .workload (desired labelled) (desired unlabelled) =
        some (merged, changed) ∧
      merged.body.at? ["spec", "template"] ≠ some (podTemplate unlabelled) ∧
      (podLabels unlabelled).get? "team" = none ∧
      merged.body.at? ["spec", "template", "metadata", "labels", "team"] = some (.text "a") := by
  have hlabelled := Spec.formed_of_ofDocument? ofDocument?_labelled
  have hunlabelled := Spec.formed_of_ofDocument? ofDocument?_unlabelled
  obtain ⟨merged, changed, hmerged, htemplate⟩ :=
    @exists_overlay labelled unlabelled none hlabelled hunlabelled (by simp)
  have hteam : merged.body.at? ["spec", "template", "metadata", "labels", "team"] =
      some (.text "a") := by
    have hpath : merged.body.at? ["spec", "template", "metadata", "labels", "team"] =
        (merged.body.at? ["spec", "template"]).bind (·.at? ["metadata", "labels", "team"]) := by
      simp only [at?, Option.bind_assoc, Option.bind_some]
    rw [hpath, htemplate]
    rfl
  have hdiffers : (podTemplate labelled).overlay (podTemplate unlabelled) ≠
      podTemplate unlabelled := by
    intro heq
    have hlabel := congrArg (·.at? ["metadata", "labels", "team"]) heq
    cases hlabel
  refine ⟨rfl, rfl, rfl, merged, changed, hmerged, ?_, rfl, hteam⟩
  rw [htemplate]
  exact fun h => hdiffers (Option.some.inj h)

end Workload

end RaftMysql
