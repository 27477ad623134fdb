import RaftMysql.Topology.Rollout
import RaftMysql.Proofs.Program.Visits

/-!
# The replacement of one member

What the trace of `Topology.replaceMember` looks like. A replacement asks for little
(`Topology.ReplaceRequest`). It removes its pod just when the pod is due (`Topology.isDue`), and when
it ends well its last visit found the new pod: the trace is `Topology.Confirmed` for the member
(`Topology.run_replaceMember`).
-/

namespace RaftMysql

namespace Topology

variable {c : Cluster} {settings : Settings} {pod : Pod} {revision : String} {t : Trace}

/-! ### What a wait for a replacement accepts -/

/-- A copy of a pod that is accepted as the replacement of a listed one. It is another incarnation,
unless the listed one was at the revision already: such a pod is not taken down, even when it is
going. -/
structure Replaces (revision : String) (listed copy : Pod) : Prop where
  isHealthy : copy.isHealthy = true
  not_failed : copy.hasFailed = false
  isAt : copy.isAt revision = true
  uid_ne : listed.isAt revision = false → listed.metadata.uid.isSome = true →
    copy.metadata.uid ≠ listed.metadata.uid

theorem isReplaced_eq_true {podName : String} {replacedUid : Option String}
    {current : Option Pod} :
    isReplaced podName revision replacedUid current = .ok true ↔
      ∃ copy, current = some copy ∧ ¬ (replacedUid.isSome ∧ copy.metadata.uid = replacedUid) ∧
        copy.hasFailed = false ∧ copy.isHealthy = true ∧ copy.isAt revision = true := by
  unfold isReplaced
  match current with
  | none => simp
  | some copy =>
    dsimp only
    split
    · simp_all
    · split
      · simp_all
      · split
        · simp_all
        · split <;> simp_all

/-- The last visit of a member found a pod that replaces it. -/
def Confirmed (revision : String) (listed : Pod) (t : Trace) : Prop :=
  ∃ before copy after, t = before ++ ⟨.get .pod listed.name, .ok (some copy)⟩ :: after ∧
    listed.name ∉ visits after ∧ Replaces revision listed copy

theorem Confirmed.append_left (h : Confirmed revision pod t) (t₀ : Trace) :
    Confirmed revision pod (t₀ ++ t) := by
  obtain ⟨before, copy, after, rfl, hafter, hcopy⟩ := h
  exact ⟨t₀ ++ before, copy, after, (List.append_assoc ..).symm, hafter, hcopy⟩

theorem Confirmed.append_right (h : Confirmed revision pod t) {t' : Trace}
    (ht' : pod.name ∉ visits t') : Confirmed revision pod (t ++ t') := by
  obtain ⟨before, copy, after, rfl, hafter, hcopy⟩ := h
  refine ⟨before, copy, after ++ t', by simp, ?_, hcopy⟩
  rw [visits_append, List.mem_append]
  rintro (h | h)
  · exact hafter h
  · exact ht' h

/-! ### What may be asked for -/

/-- What a wait for a pod may ask for. -/
inductive WaitRequest (podName : String) : Request → Prop
  | clock : WaitRequest podName .clock
  | sleep (d : Duration) : WaitRequest podName (.sleep d)
  | get : WaitRequest podName (.get .pod podName)

/-- What the replacement of a member may ask for. -/
inductive ReplaceRequest (podName : String) : Request → Prop
  | wait {q : Request} (h : WaitRequest podName q) : ReplaceRequest podName q
  | delete : ReplaceRequest podName (.delete .pod podName .byKind)
  | record (occurrence : Occurrence) : ReplaceRequest podName (.record occurrence)

theorem WaitRequest.removed? {podName : String} {q : Request} (h : WaitRequest podName q) :
    q.removed? = none := by
  cases h <;> rfl

theorem ReplaceRequest.eq_of_visited? {podName name : String} {q : Request}
    (h : ReplaceRequest podName q) (hname : q.visited? = some name) : name = podName := by
  cases h with
  | wait h =>
    cases h with
    | clock => cases hname
    | sleep d => cases hname
    | get => exact (Option.some.inj hname).symm
  | delete => exact (Option.some.inj hname).symm
  | record occurrence => cases hname

theorem asks_takeDown {P : Request → Prop} (hdelete : P (.delete .pod pod.name .byKind))
    (hrecord : ∀ occurrence, P (.record occurrence)) : (takeDown c pod revision).Asks P := by
  unfold takeDown
  split
  · exact Procedure.asks_pure _
  · split
    · exact Procedure.asks_pure _
    · refine Procedure.asks_bind (Store.asks_ensureDeleted hdelete) fun _ => ?_
      exact Procedure.asks_bind (Procedure.asks_step (Program.asks_request (hrecord _)))
        fun _ => Procedure.asks_pure _

/-- The wait for a replacement. -/
def awaitReplacement (settings : Settings) (podName revision : String)
    (replacedUid : Option String) : Procedure Unit :=
  poll ("pod " ++ podName ++ " to be updated") settings.rollout.podWait do
    let current : Option Pod ← Store.get .pod podName
    isReplaced podName revision replacedUid current

theorem asks_awaitReplacement {podName : String} {replacedUid : Option String} :
    (awaitReplacement settings podName revision replacedUid).Asks (WaitRequest podName) := by
  refine Procedure.asks_poll .clock .sleep ?_
  refine Procedure.asks_bind (Program.asks_request .get) fun current => ?_
  match isReplaced podName revision replacedUid current with
  | .ok b => exact Procedure.asks_pure b
  | .error e => exact Procedure.asks_throw e

theorem replaceMember_eq (hin : isExempt c pod.name = false) :
    replaceMember c settings pod revision =
      takeDown c pod revision >>= awaitReplacement settings pod.name revision := by
  unfold replaceMember
  rw [if_neg (by simp [hin])]
  rfl

theorem asks_replaceMember :
    (replaceMember c settings pod revision).Asks (ReplaceRequest pod.name) := by
  rcases hin : isExempt c pod.name with _ | _
  · rw [replaceMember_eq hin]
    exact Procedure.asks_bind (asks_takeDown .delete .record) fun _ =>
      asks_awaitReplacement.mono fun _ => ReplaceRequest.wait
  · unfold replaceMember
    rw [if_pos hin]
    exact Procedure.asks_pure _

/-! ### Replacing a member -/

/-- A pod is due when it is neither at the revision nor going already. -/
def isDue (revision : String) (pod : Pod) : Bool :=
  !pod.isAt revision && !pod.metadata.isTerminating

/-- Taking a pod down removes it when it is due, and nothing else. The uid that the replacement must
not have is that of the pod, unless it stays. -/
theorem run_takeDown {r : Except Error (Option String)} (h : (takeDown c pod revision).Run t r) :
    removals t = (if isDue revision pod then [pod.name] else []) ∧
      ∀ uid, r = .ok uid → uid = if pod.isAt revision then none else pod.metadata.uid := by
  unfold takeDown at h
  unfold isDue
  split at h <;> rename_i hat
  · obtain ⟨rfl, rfl⟩ := Procedure.run_pure.mp h
    simp_all
  · split at h <;> rename_i hgoing
    · obtain ⟨rfl, rfl⟩ := Procedure.run_pure.mp h
      simp_all
    · rcases Procedure.run_bind.mp h with ⟨e, h₁, rfl⟩ | ⟨t₁, t₂, _, rfl, h₁, h₂⟩
      · obtain ⟨answer, rfl⟩ := Store.run_ensureDeleted h₁
        simp_all [removals, Request.removed?]
      · obtain ⟨answer, rfl⟩ := Store.run_ensureDeleted h₁
        obtain ⟨t₃, t₄, _, rfl, h₃, h₄⟩ := Procedure.run_step_bind.mp h₂
        obtain rfl := Program.run_request.mp h₃
        obtain ⟨rfl, rfl⟩ := Procedure.run_pure.mp h₄
        simp_all [removals, Request.removed?]

theorem confirmed_of_awaitReplacement
    (h : (awaitReplacement settings pod.name revision
      (if pod.isAt revision then none else pod.metadata.uid)).Run t (.ok ())) :
    Confirmed revision pod t := by
  obtain ⟨t₁, t₂, rfl, h₂⟩ := Procedure.run_poll_ok h
  obtain ⟨t₃, t₄, current, rfl, h₃, h₄⟩ := Procedure.run_bind_ok.mp h₂
  obtain rfl := Store.run_get.mp h₃
  obtain ⟨rfl, hr⟩ := Procedure.run_lift.mp h₄
  obtain ⟨copy, rfl, huid, hfailed, hhealthy, hat⟩ := isReplaced_eq_true.mp hr.symm
  refine ⟨t₁, copy, [], by simp, by simp, hhealthy, hfailed, hat, ?_⟩
  intro hold hsome heq
  rw [if_neg (by simp [hold])] at huid
  exact huid ⟨hsome, heq⟩

/-- **The replacement of a member** visits no other pod, removes the member just when it is due, and
when it ends well its last visit found a pod that replaces the member. -/
theorem run_replaceMember {r : Except Error Unit} (hin : isExempt c pod.name = false)
    (h : (replaceMember c settings pod revision).Run t r) :
    (∀ name ∈ visits t, name = pod.name) ∧
      removals t = (if isDue revision pod then [pod.name] else []) ∧
      (r = .ok () → Confirmed revision pod t) := by
  have hvisits : ∀ name ∈ visits t, name = pod.name := by
    intro name hname
    obtain ⟨e, he, hvisited⟩ := mem_visits.mp hname
    exact (h.asks asks_replaceMember e he).eq_of_visited? hvisited
  refine ⟨hvisits, ?_⟩
  rw [replaceMember_eq hin] at h
  rcases Procedure.run_bind.mp h with ⟨e, h₁, rfl⟩ | ⟨t₁, t₂, uid, rfl, h₁, h₂⟩
  · exact ⟨(run_takeDown h₁).1, by simp⟩
  · obtain ⟨hremovals, huid⟩ := run_takeDown h₁
    obtain rfl := huid uid rfl
    have hnil := removals_eq_nil fun e he => (h₂.asks asks_awaitReplacement e he).removed?
    refine ⟨by rw [removals_append, hremovals, hnil, List.append_nil], ?_⟩
    rintro rfl
    exact (confirmed_of_awaitReplacement h₂).append_left t₁

end Topology

end RaftMysql
