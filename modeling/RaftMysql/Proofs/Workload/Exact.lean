import RaftMysql.Proofs.Json.Placing
import RaftMysql.Proofs.Workload.Form

/-!
# Workloads without doubles

No part of the workload of a cluster is a double (`Workload.exact_desired`): what the operator writes by
itself are texts, flags and whole numbers, and what it takes over from a specification has a plain form,
in which no double has a place (`Shape.exact_of_isPlain`).
-/

namespace RaftMysql

open Json

namespace Shape

mutual

/-- **What has a plain form** is exact. -/
theorem exact_of_isPlain : ∀ {s : Shape} {v : Json}, s.isPlain → s.Holds v → v.Exact
  | anything, _, hs, _ | time, _, hs, _ => by cases hs
  | list items, _, hs, h => by
    rw [Holds] at h
    obtain ⟨xs, rfl, h⟩ := h
    exact .list fun x hx => exact_of_isPlain (s := items) hs (h x hx)
  | table values, _, hs, h => by
    rw [Holds] at h
    obtain ⟨t, rfl, -, h⟩ := h
    exact .object fun p hp => exact_of_isPlain (s := values) hs (h p hp)
  | record fields, _, hs, h => by
    rw [isPlain, Bool.and_eq_true] at hs
    rw [Holds] at h
    obtain ⟨t, rfl, hord, hknown, h⟩ := h
    exact .object fun p hp =>
      exact_of_arePlain hs.2 h (hknown p hp) (Table.get?_eq_some_of_mem hord hp)
  | text, v, _, h | exactly _, v, _, h | flag, v, _, h | int32, v, _, h | int64, v, _, h
  | bytes, v, _, h | intOrText, v, _, h => by
    rw [holds_scalar rfl] at h
    cases v with
    | null => exact .null
    | flag | int | text => exact .scalar trivial (by simp)
    | double | list | object =>
      simp [Document.ofJson, fit?, accepted, Document.text?, Document.flag?, Document.int32?,
        Document.int64?, Document.intBetween?] at h

theorem exact_of_arePlain : ∀ {fields : List Field} {given : String → Option Json},
    arePlain fields → HoldFields fields given → ∀ {name : String} {v : Json},
      name ∈ fields.map Prod.fst → given name = some v → v.Exact
  | [], _, _, _, _, _, hname, _ => by cases hname
  | (name, always, shape) :: fields, given, hs, h, key, v, hname, hv => by
    rw [arePlain, Bool.and_eq_true] at hs
    rw [HoldFields] at h
    rcases List.mem_cons.mp hname with rfl | hname
    · exact exact_of_isPlain hs.1 (h.1.2 v hv)
    · exact exact_of_arePlain hs.2 h.2 hname hv

end

end Shape

/-! ### Parts of pods -/

theorem EnvVar.exact_toJson (e : EnvVar) : e.toJson.Exact := by
  obtain ⟨name, source⟩ := e
  cases source <;> simp [toJson]

theorem Mount.exact_toJson (m : Mount) : m.toJson.Exact := by simp [toJson]

theorem Port.exact_toJson (p : Port) : p.toJson.Exact := by simp [toJson]

theorem Check.exact_toJson (c : Check) : c.toJson.Exact := by
  obtain ⟨action, delay⟩ := c
  cases action <;> simp [toJson]

theorem Hooks.exact_toJson (h : Hooks) : h.toJson.Exact := by simp [toJson]

theorem Volume.exact_toJson (v : Volume) : v.toJson.Exact := by
  obtain ⟨name, source⟩ := v
  cases source <;> simp [toJson]

theorem Container.exact_toJson {c : Container} (h : c.resources.Exact) : c.toJson.Exact := by
  have hitems : ∀ xs : List Json, (∀ x ∈ xs, x.Exact) →
      ∀ v ∈ (if xs.isEmpty then none else some (Json.list xs)), v.Exact := by
    intro xs hxs v hv
    split at hv <;> cases hv
    exact .list hxs
  simp [toJson, h, EnvVar.exact_toJson, Mount.exact_toJson, Port.exact_toJson, Check.exact_toJson,
    Hooks.exact_toJson]

/-! ### The workload -/

theorem Owner.exact_toJson (o : Owner) : o.toJson.Exact := by
  obtain ⟨version, kind, name, uid, controller, block⟩ := o
  cases controller <;> cases block <;> simp [toJson]

theorem Metadata.exact_toJson {m : Metadata} (hrest : m.rest = []) : m.toJson.Exact := by
  simp [toJson, hrest, Owner.exact_toJson]

namespace Workload

variable {c : Cluster}

theorem exact_resources_of_mem_containers (h : c.spec.Formed) {k : Container}
    (hk : k ∈ containers c) : k.resources.Exact :=
  Shape.exact_of_isPlain (by decide) (formed_of_mem_containers h hk).resources

theorem exact_podSpec (h : c.spec.Formed) : (podSpec c).Exact := by
  have hconfig := Shape.exact_of_isPlain (by decide) (formed_configInit h).resources
  have hdata := Shape.exact_of_isPlain (by decide) (formed_dataInit h).resources
  have hcontainers : ∀ k ∈ containers c, k.toJson.Exact := fun k hk =>
    Container.exact_toJson (exact_resources_of_mem_containers h hk)
  have haffinity : ∀ v ∈ c.spec.podPolicy.affinity, v.Exact := fun v hv =>
    Shape.exact_of_isPlain (by decide) (h.policy.affinity v hv)
  have htolerations : ∀ v ∈ c.spec.podPolicy.tolerations, v.Exact := fun v hv =>
    Shape.exact_of_isPlain (by decide) (h.policy.tolerations v hv)
  simp [podSpec, Container.exact_toJson hconfig, Container.exact_toJson hdata,
    Volume.exact_toJson]
  exact ⟨hcontainers, haffinity, fun _ => htolerations⟩

theorem exact_claimTemplate : (claimTemplate c).Exact := by
  simp [claimTemplate, Metadata.exact_toJson]

/-- **The workload of a cluster** has no doubles. -/
theorem exact_desired (h : c.spec.Formed) : ((desired c).toJson .workload).Exact := by
  have hmetadata : (desired c).metadata.toJson.Exact := Metadata.exact_toJson rfl
  have hspec : ∀ v ∈ (desired c).body.member? "spec", v.Exact := by
    simp [desired, podTemplate, exact_podSpec h, exact_claimTemplate]
  have hjson := @withStatus_toJson c none
  rw [withStatus] at hjson
  rw [hjson]
  simp [hmetadata]
  exact hspec

end Workload

end RaftMysql
