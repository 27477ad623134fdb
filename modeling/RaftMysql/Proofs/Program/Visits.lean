import RaftMysql.Object.Pod
import RaftMysql.Proofs.Program.Trace

/-!
# Pods in a trace

`visits` are the pods that a trace asks about or removes, `removals` those that it removes, and
`latestCopy?` is the copy of a pod that came back last.
-/

namespace RaftMysql

/-! ### Visits of pods -/

/-- The pod that a request removes. -/
def Request.removed? : Request → Option String
  | .delete .pod name _ => some name
  | _ => none

/-- The pod that a request asks about or removes. -/
def Request.visited? : Request → Option String
  | .get .pod name => some name
  | .delete .pod name _ => some name
  | _ => none

theorem Request.visited?_of_removed? {q : Request} {name : String} (h : q.removed? = some name) :
    q.visited? = some name := by
  unfold Request.removed? at h
  split at h
  · exact h
  · cases h

/-- The pods that are removed, in order. -/
def removals (t : Trace) : List String := t.filterMap fun e => e.request.removed?

/-- The pods that are asked about or removed, in order. -/
def visits (t : Trace) : List String := t.filterMap fun e => e.request.visited?

@[simp] theorem removals_nil : removals [] = [] := rfl

@[simp] theorem visits_nil : visits [] = [] := rfl

@[simp] theorem removals_append (t₁ t₂ : Trace) : removals (t₁ ++ t₂) = removals t₁ ++ removals t₂ :=
  List.filterMap_append

@[simp] theorem visits_append (t₁ t₂ : Trace) : visits (t₁ ++ t₂) = visits t₁ ++ visits t₂ :=
  List.filterMap_append

theorem mem_visits {t : Trace} {name : String} :
    name ∈ visits t ↔ ∃ e ∈ t, e.request.visited? = some name := List.mem_filterMap

theorem mem_removals {t : Trace} {name : String} :
    name ∈ removals t ↔ ∃ e ∈ t, e.request.removed? = some name := List.mem_filterMap

theorem mem_removals_of_event {e : Event} {name : String} (h : e.request.removed? = some name)
    (before after : Trace) : name ∈ removals (before ++ e :: after) :=
  mem_removals.mpr ⟨e, by simp, h⟩

theorem mem_visits_of_mem_removals {t : Trace} {name : String} (h : name ∈ removals t) :
    name ∈ visits t := by
  obtain ⟨e, he, hname⟩ := mem_removals.mp h
  exact mem_visits.mpr ⟨e, he, Request.visited?_of_removed? hname⟩

theorem removals_eq_nil_of_visits {t : Trace} (h : visits t = []) : removals t = [] := by
  refine List.eq_nil_iff_forall_not_mem.mpr fun name hname => ?_
  have hvisited := mem_visits_of_mem_removals hname
  rw [h] at hvisited
  cases hvisited

theorem removals_eq_nil {t : Trace} (h : ∀ e ∈ t, e.request.removed? = none) : removals t = [] :=
  List.filterMap_eq_nil_iff.mpr h

theorem visits_eq_nil {t : Trace} (h : ∀ e ∈ t, e.request.visited? = none) : visits t = [] :=
  List.filterMap_eq_nil_iff.mpr h

theorem exists_append_of_removal {t₁ t₂ before after : Trace} {e : Event} {name : String}
    (hnil : removals t₁ = []) (ht : t₁ ++ t₂ = before ++ e :: after)
    (he : e.request.removed? = some name) : ∃ b, before = t₁ ++ b ∧ t₂ = b ++ e :: after := by
  refine (append_eq_split ht).resolve_left ?_
  rintro ⟨b, rfl, -⟩
  have hmem := mem_removals_of_event he before b
  rw [hnil] at hmem
  cases hmem

theorem exists_append_of_removal_left {t₁ t₂ before after : Trace} {e : Event} {name : String}
    (hnil : removals t₂ = []) (ht : t₁ ++ t₂ = before ++ e :: after)
    (he : e.request.removed? = some name) : ∃ a, t₁ = before ++ e :: a ∧ after = a ++ t₂ := by
  refine (append_eq_split ht).resolve_right ?_
  rintro ⟨b, -, rfl⟩
  have hmem := mem_removals_of_event he b after
  rw [hnil] at hmem
  cases hmem

/-- Something read off the event at a place of the trace splits it there. -/
theorem exists_split {β : Type} {f : Event → Option β} {t : Trace} {n : Nat} {b : β}
    (h : (t.drop n).head?.bind f = some b) :
    ∃ e, t = t.take n ++ e :: t.drop (n + 1) ∧ f e = some b := by
  obtain ⟨e, hhead, he⟩ := Option.bind_eq_some_iff.mp h
  obtain ⟨after, hafter⟩ := List.head?_eq_some_iff.mp hhead
  have hdrop : t.drop (n + 1) = after := by rw [← List.tail_drop, hafter, List.tail_cons]
  exact ⟨e, by rw [hdrop, ← hafter, List.take_append_drop], he⟩

theorem exists_split_of_removal {t : Trace} {n : Nat} {name : String}
    (h : (t.drop n).head?.bind (fun e => e.request.removed?) = some name) :
    ∃ e after, t = t.take n ++ e :: after ∧ e.request.removed? = some name := by
  obtain ⟨e, ht, he⟩ := exists_split h
  exact ⟨e, _, ht, he⟩

/-- The request stores and removes nothing but pods. -/
def Request.OnlyPods : Request → Prop
  | .create kind _ | .replace kind _ | .replaceStatus kind _ | .delete kind .. => kind = .pod
  | _ => True

/-! ### Copies of pods -/

/-- The copy of a pod that came back with an event, if one did. -/
def Event.copy? (name : String) : Event → Option Pod
  | ⟨.list .pod _, answer⟩ =>
    match (answer : Except Error (List Pod)) with
    | .ok pods => pods.find? fun pod => pod.name == name
    | .error _ => none
  | ⟨.get .pod name', answer⟩ =>
    match (answer : Except Error (Option Pod)) with
    | .ok (some pod) => if name' = name then some pod else none
    | _ => none
  | _ => none

/-- The copy of a pod that came back last. -/
def latestCopy? (name : String) (t : Trace) : Option Pod :=
  (t.filterMap (Event.copy? name)).getLast?

theorem exists_latestCopy (name : String) {t : Trace} {e : Event} {pod : Pod} (he : e ∈ t)
    (hcopy : e.copy? name = some pod) : ∃ copy, latestCopy? name t = some copy := by
  unfold latestCopy?
  rcases hlast : (t.filterMap (Event.copy? name)).getLast? with _ | copy
  · have hmem := List.mem_filterMap.mpr ⟨e, he, hcopy⟩
    rw [List.getLast?_eq_none_iff.mp hlast] at hmem
    cases hmem
  · exact ⟨copy, rfl⟩

/-! ### Single requests -/

namespace Store

theorem run_get {kind : Kind} {name : String} {t : Trace}
    {r : Except Error (Option kind.Object)} :
    (get kind name).Run t r ↔ t = [⟨.get kind name, r⟩] := Program.run_request

theorem run_list {kind : Kind} {selector : Labels} {t : Trace}
    {r : Except Error (List kind.Object)} :
    (list kind selector).Run t r ↔ t = [⟨.list kind selector, r⟩] := Program.run_request

theorem run_ensureDeleted {kind : Kind} {name : String} {propagation : Propagation} {t : Trace}
    {r : Except Error Unit} (h : (ensureDeleted kind name propagation).Run t r) :
    ∃ answer, t = [⟨.delete kind name propagation, answer⟩] := by
  obtain ⟨t₁, t₂, answer, rfl, h₁, h₂⟩ := Program.run_bind.mp h
  obtain rfl := Program.run_request.mp h₁
  refine ⟨answer, ?_⟩
  match answer with
  | .ok () =>
    obtain ⟨rfl, -⟩ := Program.run_pure.mp h₂
    rfl
  | .error e =>
    obtain ⟨rfl, -⟩ := Program.run_pure.mp h₂
    rfl

theorem asks_ensureDeleted {kind : Kind} {name : String} {propagation : Propagation}
    {P : Request → Prop} (h : P (.delete kind name propagation)) :
    (ensureDeleted kind name propagation).Asks P := by
  refine Program.asks_bind (Program.asks_request h) fun answer => ?_
  match answer with
  | .ok () => exact Program.asks_pure _
  | .error e => exact Program.asks_pure _

end Store

end RaftMysql
