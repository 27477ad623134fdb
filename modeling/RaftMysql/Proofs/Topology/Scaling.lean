import RaftMysql.Proofs.Member.Holds
import RaftMysql.Proofs.Topology.Idempotence
import RaftMysql.Proofs.Topology.Resizing
import RaftMysql.Proofs.Workload.Exact

/-!
# Scaling

The number of members stands in the workload of a cluster at one place only
(`Workload.exists_written_desired`). So when a live workload, whatever else the platform has put into it,
has all that its cluster asks for, then to ask for another number changes that place and nothing else
(`Workload.overlay_desired_of_scaled`).
-/

namespace RaftMysql

open Json

/-! ### What is put beside the head of an object -/

theorem Table.erase_insert {α : Type} {t : Table α} {key key' : String} {value : α} (h : Ordered t)
    (hkey : key ≠ key') : (t.insert key value).erase key' = (t.erase key').insert key value := by
  have hinsert := sorted_insert h key value
  refine hinsert.erase.ext (sorted_insert h.erase key value) fun k => ?_
  by_cases hk : key' = k
  · subst hk
    rw [get?_erase_self hinsert, get?_insert, if_neg hkey, get?_erase_self h]
  · rw [get?_erase_of_ne hk, get?_insert, get?_insert, get?_erase_of_ne hk]

namespace Json

variable {key : String} {path : List String} {value : Json}

theorem setAt_object {t : Table Json} :
    (object t).setAt (key :: path) value =
      object (t.insert key (((Table.get? t key).getD (.object [])).setAt path value)) := rfl

theorem eraseMember_setAt {t : Table Json} {key' : String} (h : t.Ordered) (hkey : key ≠ key') :
    ((object t).setAt (key :: path) value).eraseMember key' =
      ((object t).eraseMember key').setAt (key :: path) value := by
  rw [setAt_object, eraseMember, eraseMember, setAt_object, Table.erase_insert h hkey,
    Table.get?_erase_of_ne (Ne.symm hkey)]

theorem foldl_eraseMember_setAt {t : Table Json} {keys : List String} (h : t.Ordered)
    (hkey : key ∉ keys) :
    keys.foldl eraseMember ((object t).setAt (key :: path) value) =
      (keys.foldl eraseMember (object t)).setAt (key :: path) value := by
  induction keys generalizing t with
  | nil => rfl
  | cons key' keys ih =>
    rw [List.mem_cons, not_or] at hkey
    rw [List.foldl_cons, List.foldl_cons, eraseMember_setAt h hkey.1]
    exact ih h.erase hkey.2

/-- The first of the listed members, with something put into it. -/
theorem setAt_ofMembers {v : Json} {rest : List (String × Option Json)}
    (hkey : key ∉ rest.map Prod.fst) :
    (ofMembers ((key, some v) :: rest)).setAt (key :: path) value =
      ofMembers ((key, some (v.setAt path value)) :: rest) := by
  have hmember : (ofMembers ((key, some v) :: rest)).member? key = some v := by
    rw [member?_ofMembers_cons, member?_ofMembers_eq_none hkey, if_pos rfl, Option.none_or]
  rw [setAt, hmember, Option.getD_some]
  refine congrArg object ((Table.sorted_insert (Table.sorted_ofPairs _) _ _).ext
    (Table.sorted_ofPairs _) fun k => ?_)
  rw [Table.get?_insert]
  change (if key = k then _ else (ofMembers ((key, some v) :: rest)).member? k) =
    (ofMembers ((key, some (v.setAt path value)) :: rest)).member? k
  rw [member?_ofMembers_cons, member?_ofMembers_cons]
  split <;> rename_i hk
  · rw [← hk, member?_ofMembers_eq_none hkey, Option.none_or]
  · rfl

end Json

namespace Manifest

variable {kind : Kind} {v value : Json} {key : String} {path : List String}

theorem reading_setAt (h : kind.shape.Holds v) (hkey : key ∉ head) :
    reading (v.setAt (key :: path) value) =
      { reading v with body := (reading v).body.setAt (key :: path) value } := by
  have hmetadata : (v.setAt (key :: path) value).member? "metadata" = v.member? "metadata" := by
    have hapart : Apart (key :: path) ["metadata"] := by
      refine ⟨fun hle => hkey ?_, fun hle => hkey ?_⟩
      all_goals
        obtain ⟨rfl, -⟩ := List.cons_prefix_cons.mp hle
        decide
    have hkept : (v.setAt (key :: path) value).at? ["metadata"] = v.at? ["metadata"] :=
      at?_setAt_of_apart hapart
    simpa [Json.at?] using hkept
  have horder := Shape.inOrder_of_holds h
  obtain ⟨t, rfl⟩ := Shape.exists_object_of_holds h
  unfold reading
  rw [hmetadata, foldl_eraseMember_setAt horder.1 hkey]

end Manifest

namespace Workload

variable {c₁ c₂ : Cluster} {live kept : Workload}

/-- Where a workload says how many members it should run. -/
def replicasPath : List String := ["spec", "replicas"]

/-- **The number of members** stands at one place only. -/
theorem exists_written_desired (c : Cluster) : ∃ others rest : List (String × Option Json),
    "spec" ∉ others.map Prod.fst ∧ "replicas" ∉ rest.map Prod.fst ∧
      ∀ n, (desired { c with spec := { c.spec with replicas := n } }).toJson .workload =
        ofMembers (("spec", some (ofMembers (("replicas", some (.int n)) :: rest))) :: others) := by
  let others : List (String × Option Json) :=
    [("apiVersion", some (.text Kind.workload.apiVersion)), ("kind", some (.text Kind.workload.name)),
     ("metadata", some (desired c).metadata.toJson)]
  let rest : List (String × Option Json) :=
    [("serviceName", some (.text c.workloadName)),
     ("selector", some (.ofPairs [("matchLabels", .ofTexts c.selector)])),
     ("updateStrategy", some (.ofPairs [("type", .text "OnDelete")])),
     ("template", some (podTemplate c)),
     ("volumeClaimTemplates",
       if c.spec.persistence.enabled then some (.list [claimTemplate c]) else none)]
  have hspec : "spec" ∉ others.map Prod.fst := by simp [others]
  have hreplicas : "replicas" ∉ rest.map Prod.fst := by simp [rest]
  exact ⟨others, rest, hspec, hreplicas, fun n => rfl⟩

theorem toJson_desired_of_scaled
    (h : c₂ = { c₁ with spec := { c₁.spec with replicas := c₂.spec.replicas } }) :
    (desired c₂).toJson .workload =
        ((desired c₁).toJson .workload).setAt replicasPath (.int c₂.spec.replicas) ∧
      ((desired c₁).toJson .workload).at? replicasPath = some (.int c₁.spec.replicas) := by
  obtain ⟨others, rest, hspec, hreplicas, hwritten⟩ := exists_written_desired c₁
  have hfirst := hwritten c₁.spec.replicas
  have hsecond := hwritten c₂.spec.replicas
  rw [← h] at hsecond
  change (desired c₁).toJson .workload = _ at hfirst
  rw [hfirst, hsecond, replicasPath, setAt_ofMembers hspec, setAt_ofMembers hreplicas]
  refine ⟨rfl, ?_⟩
  simp [Json.at?, member?_ofMembers_eq_none hspec, member?_ofMembers_eq_none hreplicas]

theorem replicas_of_inPlace {c : Cluster} {v : Json} (h : c.spec.Formed)
    (hplace : v.InPlace ((desired c).toJson .workload)) :
    v.at? replicasPath = some (.int c.spec.replicas) :=
  hplace.at? (Shape.inOrder_of_holds (holds_desired h)) (@toJson_desired_of_scaled c c rfl).2 trivial

/-- **A live workload that has all that its cluster asks for**, whatever else the platform put into it, is
changed in the number of its members and in nothing else when another number is asked for. The pod
template, the claim templates and the selector lie apart from that number, so they are what they were. -/
theorem overlay_desired_of_scaled {d₁ d₂ : Document} (h₁ : Spec.ofDocument? d₁ = some c₁.spec)
    (h₂ : Spec.ofDocument? d₂ = some c₂.spec)
    (hscaled : c₂ = { c₁ with spec := { c₁.spec with replicas := c₂.spec.replicas } })
    (hlive : Kind.workload.shape.Holds (live.toJson .workload))
    (hkept : Manifest.overlay? .workload live (desired c₁) = some (kept, false)) :
    (live.toJson .workload).overlay ((desired c₂).toJson .workload) =
        (live.toJson .workload).setAt replicasPath (.int c₂.spec.replicas) ∧
      (∀ path, Apart replicasPath path →
        ((live.toJson .workload).overlay ((desired c₂).toJson .workload)).at? path =
          (live.toJson .workload).at? path) ∧
      Manifest.overlay? .workload live (desired c₂) =
        some ({ kept with body := kept.body.setAt replicasPath (.int c₂.spec.replicas) },
          decide (c₁.spec.replicas ≠ c₂.spec.replicas)) := by
  obtain ⟨hwritten, hat⟩ := toJson_desired_of_scaled hscaled
  have hf₁ := Spec.formed_of_ofDocument? h₁
  have hf₂ := Spec.formed_of_ofDocument? h₂
  have hholds₁ := holds_desired hf₁
  have hholds₂ := holds_desired hf₂
  have horder := Shape.inOrder_of_holds hlive
  have horder₁ := Shape.inOrder_of_holds hholds₁
  rw [Manifest.overlay?_eq hlive hholds₁] at hkept
  obtain ⟨hread, hsame⟩ := Prod.mk.inj (Option.some.inj hkept)
  rw [Bool.not_eq_false'] at hsame
  -- As nothing changed, all that was asked for is in place.
  have hplace := inPlace_of_same_overlay (exact_desired hf₁) horder₁ hsame
  rw [overlay_of_inPlace horder hplace] at hread hsame
  have hoverlay : (live.toJson .workload).overlay ((desired c₂).toJson .workload) =
      (live.toJson .workload).setAt replicasPath (.int c₂.spec.replicas) := by
    rw [hwritten]
    exact overlay_setAt horder horder₁ hplace hat (by simp) trivial
  refine ⟨hoverlay, fun path hapart => ?_, ?_⟩
  · rw [hoverlay, at?_setAt_of_apart hapart]
  · have hunchanged : (live.toJson .workload).same
        ((live.toJson .workload).overlay ((desired c₂).toJson .workload)) =
          decide (c₁.spec.replicas = c₂.spec.replicas) := by
      by_cases heq : c₁.spec.replicas = c₂.spec.replicas
      · have hc : c₂ = c₁ := hscaled.trans (by rw [← heq])
        rw [hc, overlay_of_inPlace horder hplace, hsame, decide_eq_true rfl]
      · rw [decide_eq_false heq, ← Bool.not_eq_true]
        intro hsame₂
        -- The live workload would ask for both numbers.
        have hplace₂ := inPlace_of_same_overlay (exact_desired hf₂) (Shape.inOrder_of_holds hholds₂)
          hsame₂
        have hnumbers := (replicas_of_inPlace hf₁ hplace).symm.trans (replicas_of_inPlace hf₂ hplace₂)
        exact heq (Json.int.inj (Option.some.inj hnumbers))
    rw [Manifest.overlay?_eq hlive hholds₂, hunchanged, hoverlay, replicasPath,
      Manifest.reading_setAt hlive (by decide), hread, decide_not]

/-- The group of two is asked to be one of three. -/
def scaledCluster : Cluster := { Topology.groupCluster with spec := { replicas := 3 } }

/-- A workload with a version, a generation and a status keeps them when it is scaled. -/
theorem overlay_desired_scaledCluster : ∃ kept,
    Kind.workload.shape.Holds (Topology.keptWorkload.toJson .workload) ∧
    Manifest.overlay? .workload Topology.keptWorkload (desired Topology.groupCluster) =
      some (kept, false) ∧
    Manifest.overlay? .workload Topology.keptWorkload (desired scaledCluster) =
      some ({ kept with body := kept.body.setAt replicasPath (.int 3) }, true) := by
  obtain ⟨kept, hkept⟩ := Manifest.overlay?_of_inPlace Topology.holds_keptWorkload
    Topology.isReal_keptWorkload Topology.inPlace_keptWorkload
  have hread : Spec.ofDocument? (.record [("replicas", .int 3)]) = some scaledCluster.spec := rfl
  obtain ⟨-, -, hscaled⟩ := overlay_desired_of_scaled Topology.ofDocument?_groupCluster hread rfl
    Topology.holds_keptWorkload hkept
  exact ⟨kept, Topology.holds_keptWorkload, hkept, hscaled⟩

end Workload

end RaftMysql
