import RaftMysql.Proofs.Json.Members
import RaftMysql.Workload.Template

/-!
# Whether a workload selects its own pods

The labels of a new pod come in three layers: those of the cluster, those of its pod policy over them,
and over both the two that vouch for nothing yet. The selector asks for labels of the first layer, so
the policy has the last word on every label that the selector asks for
(`Workload.get?_podLabels`), and a workload selects its own pods just when the policy gives
none of these another value (`Workload.selects_desired`).
-/

namespace RaftMysql

/-! ### Layers of tables -/

namespace Table

variable {α : Type}

theorem get?_overwrite (t other : Table α) (key : String) :
    (t.overwrite other).get? key = ((ofPairs other).get? key).or (t.get? key) :=
  get?_foldl_insert other t key

end Table

namespace Json

theorem at?_append (v : Json) (path rest : List String) :
    v.at? (path ++ rest) = (v.at? path).bind (·.at? rest) := by
  induction path generalizing v with
  | nil => rfl
  | cons key path ih =>
    rw [List.cons_append, at?, at?, Option.bind_assoc]
    exact Option.bind_congr fun inner _ => ih inner

end Json

theorem Manifest.text?_of_ofTexts {m : Manifest} {path : List String} {t : Table String}
    (h : m.body.at? path = some (.ofTexts t)) (key : String) :
    m.text? (path ++ [key]) = t.get? key := by
  have hmember : (Json.ofTexts t).member? key = (t.get? key).map .text := Table.get?_map
  unfold text?
  rw [Json.at?_append, h, Option.bind_some, Json.at?, hmember]
  cases t.get? key <;> rfl

namespace Workload

variable {c : Cluster} {key value : String}

/-! ### What is selected, and what there is to select -/

/-- The value that the selector of a workload asks for under a key. -/
def selector? (w : Workload) (key : String) : Option String :=
  w.text? ["spec", "selector", "matchLabels", key]

/-- The label of the pods that are made from a workload. -/
def podLabel? (w : Workload) (key : String) : Option String :=
  w.text? ["spec", "template", "metadata", "labels", key]

/-- The pods that are made from the workload carry every label that its selector asks for. -/
def SelectsItsPods (w : Workload) : Prop :=
  ∀ key value, selector? w key = some value → podLabel? w key = some value

/-- The label that the pod policy of a cluster sets; of several values under one key the last. -/
def policyLabel? (c : Cluster) (key : String) : Option String :=
  (Table.ofPairs c.spec.podPolicy.labels).get? key

theorem selector?_desired : selector? (desired c) key = c.selector.get? key := by
  have hselector : (desired c).body.at? ["spec", "selector", "matchLabels"] =
      some (.ofTexts c.selector) := by
    simp [desired, Json.at?]
  exact Manifest.text?_of_ofTexts hselector key

theorem podLabel?_desired : podLabel? (desired c) key = (podLabels c).get? key := by
  have hlabels : (desired c).body.at? ["spec", "template", "metadata", "labels"] =
      some (.ofTexts (podLabels c)) := by
    simp [desired, podTemplate, Json.at?]
  exact Manifest.text?_of_ofTexts hlabels key

/-! ### The three layers -/

theorem ne_of_selector (h : c.selector.get? key = some value) :
    key ≠ "app.kubernetes.io/version" ∧ key ≠ "app.kubernetes.io/component" ∧
      key ≠ Cluster.roleLabel ∧ key ≠ Cluster.healthyLabel := by
  refine ⟨?_, ?_, ?_, ?_⟩ <;>
    · rintro rfl
      simp [Cluster.selector, Cluster.nameLabel, Cluster.roleLabel, Cluster.healthyLabel] at h

/-- **The policy has the last word** on the labels that the selector asks for. -/
theorem get?_podLabels (h : c.selector.get? key = some value) :
    (podLabels c).get? key = some ((policyLabel? c key).getD value) := by
  obtain ⟨hversion, hcomponent, hrole, hhealthy⟩ := ne_of_selector h
  have hcluster : c.labels.get? key = some value := by
    unfold Cluster.labels
    rw [Table.get?_insert, Table.get?_insert, if_neg hcomponent.symm, if_neg hversion.symm, h]
  unfold podLabels
  rw [Table.get?_insert, Table.get?_insert, if_neg hhealthy.symm, if_neg hrole.symm,
    Table.get?_overwrite, hcluster]
  exact Option.or_some

/-- **When a workload selects its own pods.** Under each key that its selector asks for, the pods carry
the label that the pod policy sets, and what the selector asks for where the policy sets none. So it
selects them just when the policy sets none of these labels to anything else. -/
theorem selects_desired (c : Cluster) :
    (∀ key value, selector? (desired c) key = some value →
      podLabel? (desired c) key = some ((policyLabel? c key).getD value)) ∧
    (SelectsItsPods (desired c) ↔ ∀ key value other, selector? (desired c) key = some value →
      policyLabel? c key = some other → other = value) := by
  have hlayers : ∀ key value, selector? (desired c) key = some value →
      podLabel? (desired c) key = some ((policyLabel? c key).getD value) := by
    intro key value h
    rw [podLabel?_desired]
    exact get?_podLabels (selector?_desired ▸ h)
  refine ⟨hlayers, fun h key value other hasked hset => ?_, fun h key value hasked => ?_⟩
  · have hcarried := h key value hasked
    rw [hlayers key value hasked, hset] at hcarried
    exact Option.some.inj hcarried
  · rw [hlayers key value hasked]
    match hset : policyLabel? c key with
    | none => rfl
    | some other => exact congrArg some (h key value other hasked hset)

/-- A policy that names what its pods run as the selector does, and adds a label of its own, leaves them
selected. -/
theorem selects_of_policy : SelectsItsPods (desired
    { metadata := { name := some "sample" }
      spec := { podPolicy := { labels := [("app.kubernetes.io/name", "mysql"), ("team", "dba")] } } }) := by
  refine (selects_desired _).2.mpr fun key value other hasked hset => ?_
  rw [selector?_desired] at hasked
  obtain ⟨rfl, rfl⟩ | ⟨rfl, rfl⟩ : key = "app.kubernetes.io/name" ∧ other = "mysql" ∨
      key = "team" ∧ other = "dba" := by
    simpa using Table.mem_of_mem_ofPairs (Table.mem_of_get? hset)
  · exact Option.some.inj hasked
  · cases hasked

/-! ### A policy that takes its pods away -/

/-- A cluster whose pod policy renames what its pods run. -/
def renamed : Cluster where
  metadata := { name := some "sample", space := some "db" }
  spec := { podPolicy := { labels := [("app.kubernetes.io/name", "percona")] } }

/-- A cluster may pass its check and yet have a workload that does not select its own pods. -/
theorem exists_unselected_pods : ∃ c : Cluster, c.check = .ok () ∧
    selector? (desired c) "app.kubernetes.io/name" = some "mysql" ∧
    podLabel? (desired c) "app.kubernetes.io/name" = some "percona" ∧
    ¬ SelectsItsPods (desired c) := by
  have hasked : selector? (desired renamed) "app.kubernetes.io/name" = some "mysql" :=
    selector?_desired
  have hcarried : podLabel? (desired renamed) "app.kubernetes.io/name" = some "percona" :=
    podLabel?_desired
  refine ⟨renamed, rfl, hasked, hcarried, fun h => ?_⟩
  have hsame := (h _ _ hasked).symm.trans hcarried
  exact absurd (Option.some.inj hsame) (by decide)

end Workload

end RaftMysql
