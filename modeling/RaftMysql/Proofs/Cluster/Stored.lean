import Mathlib.Data.List.Induction
import RaftMysql.Health.Pass
import RaftMysql.Proofs.Json.Written

/-!
# Statuses in storage

A written record gives each field once (`Document.fields?_object`), and a field that is left out when
it has its default, or when there is nothing to say, is read as what it was (`Document.field_given_unless`,
`Document.field_given_option`). So a status is read as it was written, part by part
(`Status.ofDocument?_toJson`), if its times are, and a pass that comes to the status in storage stores
nothing (`Status.unchanged_by_storage`). Answers about a member may be listed in any order, more than once
or not at all (`NodeConditions.get_ofEntries`).
-/

namespace RaftMysql

/-! ### Records that were written -/

namespace Document

/-- What a written record gives for its fields. -/
def given (members : List (String × Option Json)) (name : String) : Option Document :=
  ((Json.ofMembers members).member? name).map ofJson

theorem lookup_ofMembers (t : Table Json) (name : String) :
    (ofMembers t).lookup name = (t.get? name).map ofJson := by
  induction t with
  | nil => rfl
  | cons p rest ih =>
    obtain ⟨k, v⟩ := p
    rw [ofMembers, List.lookup_cons, Table.get?]
    by_cases hk : k = name
    · subst hk
      simp
    · have hk' : (name == k) = false := by simpa using Ne.symm hk
      rw [hk', if_neg hk]
      exact ih

theorem fields?_object (names : List String) {t : Table Json} (h : t.Ordered) :
    fields? names (ofJson (.object t)) = some fun name => (t.get? name).map ofJson := by
  rw [ofJson, fields?, if_pos]
  · exact congrArg some (funext fun name => lookup_ofMembers _ name)
  · refine List.all_eq_true.mpr fun name _ => ?_
    rw [Shape.filter_ofMembers h]
    cases Table.get? _ name <;> simp

theorem fields?_ofMembers (names : List String) (members : List (String × Option Json)) :
    fields? names (ofJson (.ofMembers members)) = some (given members) :=
  fields?_object names (Table.sorted_ofPairs _)

section

variable {α : Type} {members : List (String × Option Json)} {name : String} {read : Reader α} {a : α}
  {v : Json}

theorem given_of_getElem? {v : Option Json} {i : ℕ} (hi : members[i]? = some (name, v))
    (hnodup : (members.map Prod.fst).Nodup) : given members name = v.map ofJson := by
  rw [given, Json.member?_ofMembers_of_mem hnodup (List.mem_of_getElem? hi)]

theorem required_given (i : ℕ) (hi : members[i]? = some (name, some v))
    (hnodup : (members.map Prod.fst).Nodup) (hread : read (ofJson v) = some a) :
    required (given members) name read = some a := by
  rw [required, given_of_getElem? hi hnodup]
  exact hread

theorem field_given (i : ℕ) {default : α} (hi : members[i]? = some (name, some v))
    (hnodup : (members.map Prod.fst).Nodup) (hread : read (ofJson v) = some a) :
    field (given members) name read default = some a := by
  rw [field, given_of_getElem? hi hnodup]
  exact hread

/-- A field that is left out when it has its default. -/
theorem field_given_unless (i : ℕ) {p : Prop} [Decidable p] {default : α}
    (hi : members[i]? = some (name, if p then none else some v)) (hnodup : (members.map Prod.fst).Nodup)
    (hdefault : p → default = a) (hread : read (ofJson v) = some a) :
    field (given members) name read default = some a := by
  rw [field, given_of_getElem? hi hnodup]
  by_cases hp : p
  · rw [if_pos hp, Option.map_none, hdefault hp]
  · rw [if_neg hp]
    exact hread

/-- A field that is left out when there is nothing to say. -/
theorem field_given_option (i : ℕ) {o : Option α} {toJson : α → Json}
    (hi : members[i]? = some (name, o.map toJson)) (hnodup : (members.map Prod.fst).Nodup)
    (hnull : ∀ b, toJson b ≠ .null) (hread : ∀ b ∈ o, read (ofJson (toJson b)) = some b) :
    field (given members) name (optional? read) none = some o := by
  rw [field, given_of_getElem? hi hnodup]
  cases o with
  | none => rfl
  | some b =>
    have hb := hread b rfl
    rw [Option.map_some, Option.map_some]
    cases hv : toJson b with
    | null => exact absurd hv (hnull b)
    | _ =>
      rw [hv] at hb
      exact congrArg (Option.map some) hb

end

theorem list?_ofJson {α : Type} {read : Reader α} {toJson : α → Json} {xs : List α}
    (h : ∀ x ∈ xs, read (ofJson (toJson x)) = some x) :
    list? read (ofJson (.list (xs.map toJson))) = some xs := by
  rw [ofJson, list?, ofItems_eq_map, List.map_map, List.mapM_map]
  have hall := mapM_eq_some_map (g := id) h
  rwa [List.map_id] at hall

end Document

open Document

namespace Consensus

/-- **A view of the group** is read as it was written, without what is empty. -/
theorem ofDocument?_toJson (c : Consensus) : ofDocument? (.ofJson c.toJson) = some c := by
  refine Option.bind_eq_some_iff.mpr ⟨_, fields?_ofMembers _ _, ?_⟩
  refine Option.bind_eq_some_iff.mpr ⟨c.role, field_given_unless 0 rfl (by simp) Eq.symm rfl, ?_⟩
  refine Option.bind_eq_some_iff.mpr ⟨c.leader, field_given_unless 1 rfl (by simp) Eq.symm rfl, ?_⟩
  refine Option.bind_eq_some_iff.mpr ⟨c.peers,
    field_given_unless 2 rfl (by simp) Eq.symm (list?_ofJson fun _ _ => rfl), ?_⟩
  rfl

end Consensus

theorem Verdict.ofDocument?_name (v : Verdict) : ofDocument? (.text v.name) = some v := by
  cases v <;> rfl

theorem State.ofDocument?_name (st : State) : ofDocument? (.text st.name) = some st := by
  cases st <;> rfl

theorem Aspect.ofDocument?_name (a : Aspect) : ofDocument? (.text a.name) = some a := by
  cases a <;> rfl

theorem Document.time?_write {t : Time} (h : Time.read? t.write = some t) :
    time? (.text t.write) = some t := by
  rw [time?, text?, Option.bind_some, h]

namespace Condition

/-- **A condition** is read as it was written. -/
theorem ofDocument?_toJson {c : Condition} (h : Time.read? c.since.write = some c.since) :
    ofDocument? (.ofJson c.toJson) = some c := by
  refine Option.bind_eq_some_iff.mpr ⟨_, fields?_ofMembers _ _, ?_⟩
  refine Option.bind_eq_some_iff.mpr ⟨c.state,
    required_given 0 rfl (by simp) (State.ofDocument?_name _), ?_⟩
  refine Option.bind_eq_some_iff.mpr ⟨c.verdict,
    required_given 1 rfl (by simp) (Verdict.ofDocument?_name _), ?_⟩
  refine Option.bind_eq_some_iff.mpr ⟨c.since, required_given 2 rfl (by simp) (time?_write h), ?_⟩
  refine Option.bind_eq_some_iff.mpr ⟨c.reason,
    field_given_option 3 rfl (by simp) (by simp) fun _ _ => rfl, ?_⟩
  refine Option.bind_eq_some_iff.mpr ⟨c.message,
    field_given_option 4 rfl (by simp) (by simp) fun _ _ => rfl, ?_⟩
  rfl

end Condition

/-! ### Answers that are listed -/

namespace Time

variable {a b c : Time}

theorem notAfter_iff :
    a.notAfter b = true ↔ a.seconds < b.seconds ∨ a.seconds = b.seconds ∧ a.nanos ≤ b.nanos := by
  simp [notAfter]

theorem notAfter_refl (a : Time) : a.notAfter a = true := notAfter_iff.mpr (.inr ⟨rfl, le_rfl⟩)

theorem notAfter_trans (hab : a.notAfter b = true) (hbc : b.notAfter c = true) : a.notAfter c = true := by
  rw [notAfter_iff] at *
  omega

theorem earlier_notAfter (a b : Time) :
    (a.earlier b).notAfter a = true ∧ (a.earlier b).notAfter b = true := by
  unfold earlier
  split <;> rename_i h
  · exact ⟨h, notAfter_refl b⟩
  · refine ⟨notAfter_refl a, ?_⟩
    rw [notAfter_iff] at *
    omega

theorem earlier_eq_or (a b : Time) : a.earlier b = a ∨ a.earlier b = b := by
  unfold earlier
  split
  · exact .inr rfl
  · exact .inl rfl

theorem foldl_earlier (t : Time) (ts : List Time) :
    ts.foldl earlier t ∈ t :: ts ∧ ∀ u ∈ t :: ts, (ts.foldl earlier t).notAfter u = true := by
  induction ts generalizing t with
  | nil => exact ⟨by simp, by simpa using notAfter_refl t⟩
  | cons u ts ih =>
    obtain ⟨hmem, hall⟩ := ih (t.earlier u)
    rw [List.forall_mem_cons] at hall
    obtain ⟨hfirst, hrest⟩ := hall
    obtain ⟨ht, hu⟩ := earlier_notAfter t u
    refine ⟨?_, List.forall_mem_cons.mpr ⟨notAfter_trans hfirst ht,
      List.forall_mem_cons.mpr ⟨notAfter_trans hfirst hu, hrest⟩⟩⟩
    rcases List.mem_cons.mp hmem with heq | hmem
    · rw [List.foldl_cons, heq]
      rcases earlier_eq_or t u with h | h <;> simp [h]
    · exact List.mem_cons_of_mem _ (List.mem_cons_of_mem _ hmem)

end Time

namespace NodeConditions

variable {entries : List (Aspect × Slot)}

/-- The last entry of a question, or else that nothing has been known since a time. -/
def lastOf (entries : List (Aspect × Slot)) (oldest : Time) (a : Aspect) : Slot :=
  ((entries.filter fun e => e.1 = a).getLast?.map Prod.snd).getD ⟨.unknown, oldest⟩

theorem get_foldl_put (entries : List (Aspect × Slot)) (c : NodeConditions) (a : Aspect) :
    (entries.foldl (fun c e => c.put e.1 e.2) c).get a =
      ((entries.filter fun e => e.1 = a).getLast?.map Prod.snd).getD (c.get a) := by
  induction entries using List.reverseRecOn with
  | nil => rfl
  | append_singleton entries e ih =>
    rw [List.foldl_append, List.foldl_cons, List.foldl_nil, get_put, List.filter_append]
    by_cases he : e.1 = a
    · simp [he]
    · simp [he, ih]

/-- **Entries in any order** give each question its last one, and to a question without any that nothing
has been known since the oldest time. -/
theorem get_ofEntries (h : entries ≠ []) (now : Time) :
    ∃ oldest ∈ entries.map (·.2.since), (∀ t ∈ entries.map (·.2.since), oldest.notAfter t = true) ∧
      ∀ a, (ofEntries entries now).get a = lastOf entries oldest a := by
  obtain ⟨e, rest, rfl⟩ := List.exists_cons_of_ne_nil h
  obtain ⟨hmem, hall⟩ := Time.foldl_earlier e.2.since (rest.map (·.2.since))
  refine ⟨_, hmem, hall, fun a => ?_⟩
  refine (get_foldl_put (e :: rest) _ a).trans ?_
  cases a <;> rfl

theorem entryOfDocument?_toJson {c : NodeConditions} {a : Aspect}
    (h : Time.read? (c.get a).since.write = some (c.get a).since) :
    entryOfDocument? (.ofJson (c.entryToJson a)) = some (a, c.get a) := by
  unfold entryToJson
  rw [Json.ofPairs_eq_ofMembers]
  refine Option.bind_eq_some_iff.mpr ⟨_, fields?_ofMembers _ _, ?_⟩
  refine Option.bind_eq_some_iff.mpr ⟨a, required_given 0 rfl (by simp) (Aspect.ofDocument?_name _), ?_⟩
  refine Option.bind_eq_some_iff.mpr ⟨(c.get a).verdict,
    required_given 1 rfl (by simp) (Verdict.ofDocument?_name _), ?_⟩
  refine Option.bind_eq_some_iff.mpr ⟨(c.get a).since, required_given 2 rfl (by simp) (time?_write h), ?_⟩
  rfl

/-- **The four answers** are read as they were written, each to its question. -/
theorem ofDocument?_toJson {c : NodeConditions} (now : Time)
    (h : ∀ a, Time.read? (c.get a).since.write = some (c.get a).since) :
    ofDocument? now (.ofJson c.toJson) = some c := by
  have hentries : list? entryOfDocument? (.ofJson c.toJson) =
      some (Aspect.all.map fun a => (a, c.get a)) := by
    rw [toJson, ofJson, list?, ofItems_eq_map, List.map_map, List.mapM_map]
    exact mapM_eq_some_map fun a _ => entryOfDocument?_toJson (h a)
  rw [ofDocument?, hentries]
  rfl

end NodeConditions

namespace Node

/-- **An entry** is read as it was written. -/
theorem ofDocument?_toJson {n : Node} (now : Time)
    (h : ∀ a, Time.read? (n.conditions.get a).since.write = some (n.conditions.get a).since) :
    ofDocument? now (.ofJson n.toJson) = some n := by
  refine Option.bind_eq_some_iff.mpr ⟨_, fields?_ofMembers _ _, ?_⟩
  refine Option.bind_eq_some_iff.mpr ⟨n.name, required_given 0 rfl (by simp) rfl, ?_⟩
  refine Option.bind_eq_some_iff.mpr ⟨n.message,
    field_given_option 1 rfl (by simp) (by simp) fun _ _ => rfl, ?_⟩
  refine Option.bind_eq_some_iff.mpr ⟨n.consensus,
    field_given 2 rfl (by simp) n.consensus.ofDocument?_toJson, ?_⟩
  refine Option.bind_eq_some_iff.mpr ⟨n.conditions,
    field_given 3 rfl (by simp) (NodeConditions.ofDocument?_toJson now h), ?_⟩
  rfl

end Node

namespace Status

variable {s : Status}

/-- The times that a status holds. -/
def times (s : Status) : List Time :=
  s.conditions.map Condition.since ++
    s.nodes.flatMap fun n => Aspect.all.map fun a => (n.conditions.get a).since

/-- **A status** is read as it was written. -/
theorem ofDocument?_toJson (now : Time) (hready : -2147483648 ≤ s.readyNodes ∧ s.readyNodes ≤ 2147483647)
    (htimes : ∀ t ∈ s.times, Time.read? t.write = some t) :
    ofDocument? now (.ofJson s.toJson) = some s := by
  obtain ⟨hconditions, hnodes⟩ := List.forall_mem_append.mp htimes
  refine Option.bind_eq_some_iff.mpr ⟨_, fields?_ofMembers _ _, ?_⟩
  refine Option.bind_eq_some_iff.mpr ⟨s.readyNodes, field_given 0 rfl (by simp) (if_pos hready), ?_⟩
  refine Option.bind_eq_some_iff.mpr ⟨s.state,
    field_given_option 1 rfl (by simp) (by simp) fun st _ => st.ofDocument?_name, ?_⟩
  refine Option.bind_eq_some_iff.mpr ⟨s.conditions,
    field_given 2 rfl (by simp) (list?_ofJson fun c hc => c.ofDocument?_toJson ?_), ?_⟩
  · exact hconditions _ (List.mem_map_of_mem hc)
  refine Option.bind_eq_some_iff.mpr ⟨s.nodes,
    field_given 3 rfl (by simp) (list?_ofJson fun n hn => n.ofDocument?_toJson now fun a => ?_), ?_⟩
  · refine hnodes _ (List.mem_flatMap.mpr ⟨n, hn, List.mem_map_of_mem ?_⟩)
    cases a <;> decide
  rfl

end Status

/-! ### The text of a status -/

open Json (plain_text plain_list plain_ofMembers)

theorem Consensus.plain_toJson (c : Consensus) (depth : ℕ) : c.toJson.Plain (depth + 2) := by
  have hpeers : (Json.list (c.peers.map .text)).Plain (depth + 1) :=
    plain_list (List.forall_mem_map.mpr fun peer _ => plain_text depth peer)
  refine plain_ofMembers ?_
  simp only [List.forall_mem_cons]
  refine ⟨?_, ?_, ?_, by simp⟩
  · split <;> simp [plain_text]
  · split <;> simp [plain_text]
  · split <;> simp [hpeers]

theorem NodeConditions.plain_toJson (c : NodeConditions) (depth : ℕ) : c.toJson.Plain (depth + 2) := by
  refine plain_list (List.forall_mem_map.mpr fun a _ => ?_)
  rw [entryToJson, Json.ofPairs_eq_ofMembers]
  exact plain_ofMembers (by simp [plain_text])

theorem Condition.plain_toJson (c : Condition) (depth : ℕ) : c.toJson.Plain (depth + 1) :=
  plain_ofMembers (by simp [plain_text])

theorem Node.plain_toJson (n : Node) (depth : ℕ) : n.toJson.Plain (depth + 3) :=
  plain_ofMembers (by simp [plain_text, n.consensus.plain_toJson, n.conditions.plain_toJson])

theorem Status.plain_toJson {s : Status} (hready : -2147483648 ≤ s.readyNodes ∧ s.readyNodes ≤ 2147483647)
    (depth : ℕ) : s.toJson.Plain (depth + 5) := by
  have hnumber : (Json.int s.readyNodes).Plain (depth + 4) := by
    rw [Json.Plain]
    omega
  have hconditions : (Json.list (s.conditions.map Condition.toJson)).Plain (depth + 4) :=
    plain_list (List.forall_mem_map.mpr fun c _ => c.plain_toJson _)
  have hnodes : (Json.list (s.nodes.map Node.toJson)).Plain (depth + 4) :=
    plain_list (List.forall_mem_map.mpr fun n _ => n.plain_toJson _)
  exact plain_ofMembers (by simp [plain_text, hnumber, hconditions, hnodes])

/-! ### Statuses in storage -/

/-- A pass has nothing to store just when it comes to the status that the cluster has. -/
theorem Health.write_eq_pure_iff {c : Cluster} {status : Status} :
    write c status = pure () ↔ c.status = some status := by
  unfold write Procedure.of
  constructor
  · intro h
    by_contra hother
    rw [if_neg hother] at h
    cases h
  · intro hsame
    rw [if_pos hsame]
    rfl

theorem Document.optional?_eq {α : Type} {read : Reader α} {d : Document} {a : α}
    (hnull : read .null = none) (h : read d = some a) : optional? read d = some (some a) := by
  cases d with
  | null => exact absurd (hnull.symm.trans h) (by simp)
  | _ => exact congrArg (Option.map some) h

/-- A cluster has the status that its object holds. -/
theorem Cluster.status_ofDocument? {now : Time} {members : List (String × Document)} {c : Cluster}
    {d : Document} {s : Status} (hc : ofDocument? now (.record members) = some c)
    (hd : members.lookup "status" = some d) (hs : Status.ofDocument? now d = some s) :
    c.status = some s := by
  obtain ⟨given, hgiven, hc⟩ := Option.bind_eq_some_iff.mp hc
  have hlookup : given "status" = some d := by
    change fields? ["metadata", "spec", "status"] (.record members) = some given at hgiven
    rw [fields?] at hgiven
    split at hgiven
    · obtain rfl := Option.some.inj hgiven
      exact hd
    · cases hgiven
  obtain ⟨metadata, -, hc⟩ := Option.bind_eq_some_iff.mp hc
  obtain ⟨spec, -, hc⟩ := Option.bind_eq_some_iff.mp hc
  obtain ⟨status, hstatus, hc⟩ := Option.bind_eq_some_iff.mp hc
  obtain rfl := Option.some.inj hc
  rw [field, hlookup] at hstatus
  exact Option.some.inj (hstatus.symm.trans (optional?_eq rfl hs))

/-- **Storage changes no status.** A status of which every time is read as it was written is itself read
as it was written, from its value and from its text; so a pass over a cluster that has it in storage has
nothing to store just when it comes to the same. Answers about a member that are listed in any order are
written again as four, one for each question: the last of those listed, and for a question without any
that nothing has been known since the oldest time listed. -/
theorem Status.unchanged_by_storage :
    (∀ (now : Time) (s : Status), -2147483648 ≤ s.readyNodes ∧ s.readyNodes ≤ 2147483647 →
      (∀ t ∈ s.times, Time.read? t.write = some t) →
      ofDocument? now (.ofJson s.toJson) = some s ∧
      (Document.read? s.toJson.write).bind (ofDocument? now) = some s ∧
      ∀ (members : List (String × Document)) (c : Cluster),
        members.lookup "status" = Document.read? s.toJson.write →
        Cluster.ofDocument? now (.record members) = some c →
        c.status = some s ∧ ∀ next, Health.write c next = pure () ↔ next = s) ∧
    ∀ (now : Time) (entries : List (Aspect × Slot)), entries ≠ [] →
      (∀ d, Document.list? NodeConditions.entryOfDocument? d = some entries →
        NodeConditions.ofDocument? now d = some (.ofEntries entries now)) ∧
      ∃ oldest ∈ entries.map (·.2.since),
        (∀ t ∈ entries.map (·.2.since), oldest.notAfter t = true) ∧
        (NodeConditions.ofEntries entries now).toJson =
          .list ([(.lagged, "Lagged"), (.leader, "Leader"), (.readOnly, "ReadOnly"),
            (.replicating, "Replicating")].map fun q =>
              let last := NodeConditions.lastOf entries oldest q.1
              .ofPairs [("type", .text q.2), ("status", .text last.verdict.name),
                ("lastTransitionTime", .text last.since.write)]) := by
  constructor
  · intro now s hready htimes
    have hread := ofDocument?_toJson now hready htimes
    have htext : Document.read? s.toJson.write = some (.ofJson s.toJson) :=
      Document.read?_write (plain_toJson hready 122)
    refine ⟨hread, by rw [htext]; exact hread, fun members c hmember hc => ?_⟩
    have hstatus := Cluster.status_ofDocument? hc (hmember.trans htext) hread
    refine ⟨hstatus, fun next => ?_⟩
    rw [Health.write_eq_pure_iff, hstatus, Option.some.injEq, eq_comm]
  · intro now entries hentries
    obtain ⟨oldest, hmem, holdest, hget⟩ := NodeConditions.get_ofEntries hentries now
    refine ⟨fun d hd => by rw [NodeConditions.ofDocument?, hd]; rfl, oldest, hmem, holdest, ?_⟩
    simp only [← hget]
    rfl

/-- A status with a member that knows no leader, and a condition that has no reason. -/
def storedStatus : Status where
  readyNodes := 1
  state := some .ready
  conditions := [{ state := .ready, since := ⟨60, 0⟩, message := some "ready" }]
  nodes := [⟨"m-0", none, ⟨"CANDIDATE", "", ["m-0:8801"]⟩, .unknown ⟨5, 0⟩⟩]

/-- The object of a cluster with this status. -/
def storedMembers : List (String × Document) :=
  [("metadata", .record []), ("spec", .record []), ("status", .ofJson storedStatus.toJson)]

/-- Answers in no order, of which one is given twice and two are missing. -/
def listedAnswers : List (Aspect × Slot) :=
  [(.readOnly, ⟨.yes, ⟨2, 0⟩⟩), (.lagged, ⟨.no, ⟨3, 0⟩⟩), (.readOnly, ⟨.no, ⟨1, 0⟩⟩)]

/-- The list of these answers as it stands in storage. -/
def listedDocument : Document :=
  .list (listedAnswers.map fun e => .record [("type", .text e.1.name), ("status", .text e.2.verdict.name),
    ("lastTransitionTime", .text e.2.since.write)])

theorem Status.unchanged_by_storage_storedStatus :
    (Document.read? storedStatus.toJson.write).bind (ofDocument? ⟨90, 0⟩) = some storedStatus ∧
      (∃ c, Cluster.ofDocument? ⟨90, 0⟩ (.record storedMembers) = some c ∧ c.status = some storedStatus) ∧
      (∃ oldest ∈ listedAnswers.map (·.2.since), ∀ t ∈ listedAnswers.map (·.2.since),
        oldest.notAfter t = true) ∧
      NodeConditions.ofDocument? ⟨90, 0⟩ listedDocument =
        some ⟨⟨.no, ⟨3, 0⟩⟩, ⟨.unknown, ⟨1, 0⟩⟩, ⟨.no, ⟨1, 0⟩⟩, ⟨.unknown, ⟨1, 0⟩⟩⟩ := by
  obtain ⟨-, htext, hstored⟩ := unchanged_by_storage.1 ⟨90, 0⟩ storedStatus ⟨by decide, by decide⟩
    (by decide +kernel)
  obtain ⟨hlisted, oldest, hmem, holdest, -⟩ := unchanged_by_storage.2 ⟨90, 0⟩ listedAnswers (by decide)
  obtain ⟨c, hc⟩ : ∃ c, Cluster.ofDocument? ⟨90, 0⟩ (.record storedMembers) = some c :=
    Option.isSome_iff_exists.mp (by decide +kernel)
  have hread : Document.read? storedStatus.toJson.write = some (.ofJson storedStatus.toJson) :=
    Document.read?_write (plain_toJson ⟨by decide, by decide⟩ 122)
  exact ⟨htext, ⟨c, hc, (hstored storedMembers c hread.symm hc).1⟩, ⟨oldest, hmem, holdest⟩,
    hlisted listedDocument (by decide +kernel)⟩

end RaftMysql
