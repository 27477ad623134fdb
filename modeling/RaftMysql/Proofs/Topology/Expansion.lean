import RaftMysql.Proofs.Program.Record
import RaftMysql.Proofs.Topology.Rolling
import RaftMysql.Topology.Sync

/-!
# The ways of a pass over a workload

`Topology.Settles` lists the ways in which a pass over a workload can go, and `Topology.Expands` those
of an expansion, each with the whole trace up to its larger parts. The parts of a pass other than an
expansion are steady: they neither make nor remove a workload and write no claim. Most of them change
nothing but pods at all (`Request.OnlyPods`).

`Workload.record` is what the platform keeps of a workload, as far as growth of storage is concerned,
and `claimWrites` are the claims that it stored.
-/

namespace RaftMysql

/-! ### Workloads and claims in a trace -/

/-- The request neither makes nor removes a workload. -/
def Request.LeavesWorkload : Request → Prop
  | .create .workload _ | .delete .workload .. => False
  | _ => True

/-- The request writes no claim. -/
def Request.LeavesClaims : Request → Prop
  | .replace .claim _ => False
  | _ => True

/-- The request has no part in an expansion of storage. -/
def Request.IsSteady (q : Request) : Prop := q.LeavesWorkload ∧ q.LeavesClaims

theorem Request.OnlyPods.isSteady {q : Request} (h : q.OnlyPods) : q.IsSteady := by
  match q, h with
  | .create _ _, rfl | .replace _ _, rfl | .replaceStatus _ _, rfl | .delete .., rfl =>
    exact ⟨trivial, trivial⟩
  | .serves _, _ | .get .., _ | .list .., _ | .agent .., _ | .connect _, _ | .query .., _
  | .execute .., _ | .now, _ | .clock, _ | .sleep _, _ | .startHandoff _, _ | .stopHandoff _, _
  | .inHandoff _, _ | .record _, _ | .publish _, _ => exact ⟨trivial, trivial⟩

/-- The claim that the platform stored with an event, if it did. -/
def Event.claimWrite? : Event → Option Claim
  | ⟨.replace .claim claim, answer⟩ =>
    match (answer : Except Error Claim) with
    | .ok _ => some claim
    | .error _ => none
  | _ => none

/-- The claims that the platform stored, in order. -/
def claimWrites (t : Trace) : List Claim := t.filterMap Event.claimWrite?

@[simp] theorem claimWrites_append (t₁ t₂ : Trace) :
    claimWrites (t₁ ++ t₂) = claimWrites t₁ ++ claimWrites t₂ := List.filterMap_append

theorem Event.claimWrite?_eq_none {e : Event} (h : e.request.LeavesClaims) :
    e.claimWrite? = none := by
  unfold claimWrite?
  split
  · exact absurd h id
  · rfl

theorem claimWrites_eq_nil {t : Trace} (h : ∀ e ∈ t, e.request.LeavesClaims) :
    claimWrites t = [] :=
  List.filterMap_eq_nil_iff.mpr fun e he => Event.claimWrite?_eq_none (h e he)

/-- The object is gone after a removal with this answer. -/
def isGone : Except Error Unit → Bool
  | .ok () => true
  | .error e => e.isNotFound

/-- The workload that an event removed without its pods, if it did. -/
def Event.orphaning? : Event → Option String
  | ⟨.delete .workload name .orphan, answer⟩ =>
    if isGone (answer : Except Error Unit) then some name else none
  | _ => none

/-- The workloads that were removed without their pods, in order. -/
def orphanings (t : Trace) : List String := t.filterMap Event.orphaning?

theorem exists_of_mem_orphanings {name : String} {t : Trace} (h : name ∈ orphanings t) :
    ∃ answer, ⟨.delete .workload name .orphan, answer⟩ ∈ t ∧ isGone answer = true := by
  obtain ⟨e, he, hname⟩ := List.mem_filterMap.mp h
  unfold Event.orphaning? at hname
  split at hname
  · split at hname
    · rename_i hgone
      obtain rfl := Option.some.inj hname
      exact ⟨_, he, hgone⟩
    · cases hname
  · cases hname

namespace Workload

/-- What the platform keeps of the workload of a name: whether there is one, and the size that it
asks for new claims. Replacing a workload does not change its claim templates. -/
def record (name : String) : Record (Option (Option String)) where
  after
    | held, ⟨.create .workload workload, answer⟩ =>
      match (answer : Except Error Workload) with
      | .ok _ => if workload.name = name then some (requestedStorage? workload) else held
      | .error _ => held
    | held, ⟨.delete .workload other _, answer⟩ =>
      if isGone (answer : Except Error Unit) ∧ other = name then none else held
    | held, _ => held
  agrees
    | held, ⟨.get .workload other, answer⟩ =>
      match (answer : Except Error (Option Workload)) with
      | .ok workload => other != name || workload.map requestedStorage? == held
      | .error _ => true
    | _, _ => true

variable {name : String} {held : Option (Option String)}

theorem record_after {e : Event} (h : e.request.LeavesWorkload) :
    (record name).after held e = held := by
  unfold record
  dsimp only
  split
  · exact absurd h id
  · exact absurd h id
  · rfl

theorem record_afterAll {t : Trace} (h : ∀ e ∈ t, e.request.LeavesWorkload) :
    (record name).afterAll held t = held :=
  Record.afterAll_eq_of_forall fun e he => record_after (h e he)

end Workload

/-! ### Parts of a pass that change only pods -/

namespace Topology

variable {c : Cluster} {settings : Settings} {t : Trace}

theorem WaitRequest.onlyPods {podName : String} {q : Request} (h : WaitRequest podName q) :
    q.OnlyPods := by
  cases h <;> trivial

theorem ReplaceRequest.onlyPods {podName : String} {q : Request} (h : ReplaceRequest podName q) :
    q.OnlyPods := by
  cases h with
  | wait h => exact h.onlyPods
  | delete => rfl
  | record => trivial

theorem TransferRequest.onlyPods {leader follower : String} {q : Request}
    (h : TransferRequest c leader follower q) : q.OnlyPods := by
  cases h <;> trivial

theorem RollRequest.onlyPods {members : List Pod} {q : Request} (h : RollRequest c members q) :
    q.OnlyPods := by
  cases h with
  | replace hpod h => exact h.onlyPods
  | transfer hleader h => exact h.onlyPods

theorem onlyPods_rollout {workload : Workload} :
    (rollout c settings workload).Asks Request.OnlyPods :=
  asks_rollout trivial trivial fun _ _ h => h.onlyPods

theorem onlyPods_rolloutIfPending {workload : Workload} :
    (rolloutIfPending c settings workload).Asks Request.OnlyPods := by
  unfold rolloutIfPending
  split
  · exact onlyPods_rollout
  · exact Procedure.asks_pure _

/-- What bringing the group in line may ask for. -/
inductive AlignRequest (c : Cluster) : Request → Prop
  | list : AlignRequest c (.list .pod c.selector)
  | secret : AlignRequest c (.get .secret c.secretName)
  | agent (host password : String) (call : AgentCall) : AlignRequest c (.agent host password call)

theorem AlignRequest.onlyPods {q : Request} (h : AlignRequest c q) : q.OnlyPods := by
  cases h <;> trivial

theorem asks_askAll {host password : String} {call : String → AgentCall} {peers : List String} :
    (askAll host password call peers).Asks (AlignRequest c) := by
  induction peers with
  | nil => exact Procedure.asks_pure _
  | cons peer peers ih =>
    exact Procedure.asks_bind (Program.asks_request (.agent host password _)) fun _ => ih

theorem asks_align : (align c).Asks (AlignRequest c) := by
  refine Program.asks_bind ?_ fun _ => Program.asks_pure _
  refine Procedure.asks_bind (Program.asks_request .list) fun pods => ?_
  split
  · exact Procedure.asks_pure _
  · refine Procedure.asks_bind (Cluster.asks_credentials? .secret) fun credentials => ?_
    match credentials with
    | none => exact Procedure.asks_pure _
    | some credentials =>
      have hagent : ∀ {host password : String} {call : AgentCall},
          (Member.ask host password call).Asks (AlignRequest c) :=
        Program.asks_request (.agent _ _ _)
      refine Procedure.asks_bind hagent fun _ => ?_
      refine Procedure.asks_bind hagent fun view => ?_
      exact Procedure.asks_bind asks_askAll fun _ => asks_askAll

theorem onlyPods_align : (align c).Asks Request.OnlyPods := asks_align.mono fun _ h => h.onlyPods

theorem onlyPods_keep {live : Workload} : (keep c settings live).Asks Request.OnlyPods :=
  Procedure.asks_bind onlyPods_rolloutIfPending fun _ =>
    Procedure.asks_bind (Procedure.asks_step onlyPods_align) fun _ => Procedure.asks_pure _

theorem asks_waitObserved {P : Request → Prop} (hclock : P .clock) (hsleep : ∀ d, P (.sleep d))
    (hget : P (.get .workload c.workloadName)) : (waitObserved c settings).Asks P := by
  have hlook : (Store.get .workload c.workloadName).Asks P := Program.asks_request hget
  refine Procedure.asks_bind (Procedure.asks_poll hclock hsleep ?_) fun _ => ?_
  · exact Procedure.asks_bind hlook fun _ => Procedure.asks_pure _
  · refine Procedure.asks_bind hlook fun workload => ?_
    match workload with
    | none => exact Procedure.asks_throw _
    | some workload => exact Procedure.asks_pure _

theorem onlyPods_waitObserved : (waitObserved c settings).Asks Request.OnlyPods :=
  asks_waitObserved trivial (fun _ => trivial) trivial

/-! ### Steady parts of a pass -/

theorem steady_keep {live : Workload} : (keep c settings live).Asks Request.IsSteady :=
  onlyPods_keep.mono fun _ h => h.isSteady

theorem asks_removeClaims {P : Request → Prop} {claims : List Claim} {removed : Nat}
    (hdelete : ∀ name, P (.delete .claim name .byKind)) : (removeClaims removed claims).Asks P := by
  induction claims generalizing removed with
  | nil => exact Procedure.asks_pure _
  | cons claim claims ih =>
    refine Procedure.asks_bind
      (Procedure.asks_step (Program.asks_request (hdelete _))) fun answer => ?_
    match answer with
    | .ok () => exact ih
    | .error e =>
      dsimp only
      split
      · exact ih
      · exact Procedure.asks_throw _

theorem asks_giveBack {P : Request → Prop} (hlist : P (.list .claim c.selector))
    (hdelete : ∀ name, P (.delete .claim name .byKind)) : (giveBack c).Asks P :=
  Procedure.asks_bind (Program.asks_request hlist) fun _ => asks_removeClaims hdelete

/-- What follows when the platform has taken a change. -/
def proceed (c : Cluster) (settings : Settings) : Procedure Outcome := do
  rolloutIfPending c settings (← waitObserved c settings)
  let _ ← giveBack c
  Procedure.step (align c)
  return .updated

theorem asks_proceed {P : Request → Prop} (hpods : ∀ q : Request, q.OnlyPods → P q)
    (hdelete : ∀ name, P (.delete .claim name .byKind)) : (proceed c settings).Asks P := by
  refine Procedure.asks_bind (onlyPods_waitObserved.mono hpods) fun workload => ?_
  refine Procedure.asks_bind (onlyPods_rolloutIfPending.mono hpods) fun _ => ?_
  refine Procedure.asks_bind (asks_giveBack (hpods _ trivial) hdelete) fun _ => ?_
  exact Procedure.asks_bind (Procedure.asks_step (onlyPods_align.mono hpods)) fun _ =>
    Procedure.asks_pure _

theorem steady_proceed : (proceed c settings).Asks Request.IsSteady :=
  asks_proceed (fun _ h => h.isSteady) fun _ => ⟨trivial, trivial⟩

theorem eq_unchanged_of_keep {live : Workload} {outcome : Outcome}
    (h : (keep c settings live).Run t (.ok outcome)) : outcome = .unchanged := by
  obtain ⟨_, _, _, rfl, -, h₂⟩ := Procedure.run_bind_ok.mp h
  obtain ⟨_, _, _, rfl, -, h₄⟩ := Procedure.run_bind_ok.mp h₂
  exact Except.ok.inj (Procedure.run_pure.mp h₄).2

theorem eq_updated_of_proceed {outcome : Outcome}
    (h : (proceed c settings).Run t (.ok outcome)) : outcome = .updated := by
  obtain ⟨_, _, _, rfl, -, h₂⟩ := Procedure.run_bind_ok.mp h
  obtain ⟨_, _, _, rfl, -, h₄⟩ := Procedure.run_bind_ok.mp h₂
  obtain ⟨_, _, _, rfl, -, h₆⟩ := Procedure.run_bind_ok.mp h₄
  obtain ⟨_, _, _, rfl, -, h₈⟩ := Procedure.run_bind_ok.mp h₆
  exact Except.ok.inj (Procedure.run_pure.mp h₈).2

end Topology

/-! ### Resizing claims -/

namespace Topology

variable {c : Cluster} {wait : Wait} {size : String} {t : Trace} {r : Except Error Unit}

/-- The claims that an expansion has to resize. -/
def growing (claims : List Claim) : List Claim := claims.filter fun p => !p.metadata.isTerminating

/-- What the wait for a resize may ask for. -/
inductive ResizeWaitRequest : Request → Prop
  | clock : ResizeWaitRequest .clock
  | sleep (d : Duration) : ResizeWaitRequest (.sleep d)
  | get (name : String) : ResizeWaitRequest (.get .claim name)

theorem ResizeWaitRequest.onlyPods {q : Request} (h : ResizeWaitRequest q) : q.OnlyPods := by
  cases h <;> trivial

theorem asks_awaitResize {claim : Claim} :
    (poll ("resize of pvc " ++ claim.name) wait (do
      let current : Option Claim ← Store.get .claim claim.name
      return match current with
        | some current => current.isSettled size
        | none => true) : Procedure Unit).Asks ResizeWaitRequest := by
  refine Procedure.asks_poll .clock .sleep ?_
  exact Procedure.asks_bind (Program.asks_request (.get _)) fun _ => Procedure.asks_pure _

/-- The claims are written in this order, all of them if this ends well, and no workload is made or
removed on the way. -/
structure Resizes (written : List Claim) (t : Trace) (r : Except Error Unit) : Prop where
  leaves : ∀ e ∈ t, e.request.LeavesWorkload
  writes_prefix : claimWrites t <+: written
  writes_eq : r = .ok () → claimWrites t = written

theorem Resizes.failed {written : List Claim} {e : Error} (h : Resizes written t (.error e))
    (more : List Claim) : Resizes (written ++ more) t (.error e) :=
  ⟨h.leaves, h.writes_prefix.trans (List.prefix_append ..), fun he => by cases he⟩

theorem Resizes.append {written more : List Claim} {t' : Trace} (h : Resizes written t (.ok ()))
    (h' : Resizes more t' r) : Resizes (written ++ more) (t ++ t') r := by
  refine ⟨?_, ?_, fun hr => ?_⟩
  · intro e he
    exact (List.mem_append.mp he).elim (h.leaves e) (h'.leaves e)
  · rw [claimWrites_append, h.writes_eq rfl]
    exact (List.prefix_append_right_inj _).mpr h'.writes_prefix
  · rw [claimWrites_append, h.writes_eq rfl, h'.writes_eq hr]

theorem run_resizeClaim {claim : Claim} (h : (resizeClaim c wait size claim).Run t r) :
    Resizes [claim.resized size c.owner?] t r := by
  rcases Procedure.run_bind.mp h with ⟨e, h₁, rfl⟩ | ⟨t₁, t₂, stored, rfl, h₁, h₂⟩
  · obtain rfl := Program.run_request.mp h₁
    exact ⟨by simp [Request.LeavesWorkload], List.nil_prefix, fun he => by cases he⟩
  · obtain rfl := Program.run_request.mp h₁
    have hsteady := h₂.asks (asks_awaitResize.mono fun _ h => h.onlyPods.isSteady)
    have hwrites : claimWrites t₂ = [] := claimWrites_eq_nil fun e he => (hsteady e he).2
    have heq : claimWrites ([⟨.replace .claim (claim.resized size c.owner?), .ok stored⟩] ++ t₂) =
        [claim.resized size c.owner?] := by
      rw [claimWrites_append, hwrites]
      rfl
    refine ⟨?_, heq ▸ List.prefix_refl _, fun _ => heq⟩
    intro e he
    rcases List.mem_cons.mp he with rfl | he
    · trivial
    · exact (hsteady e he).1

/-- **Claims are resized in their order**, except those on their way out. -/
theorem run_resizeClaims {claims : List Claim} (h : (resizeClaims c wait size claims).Run t r) :
    Resizes ((growing claims).map (·.resized size c.owner?)) t r := by
  induction claims generalizing t with
  | nil =>
    obtain ⟨rfl, -⟩ := Procedure.run_pure.mp h
    exact ⟨by simp, List.nil_prefix, fun _ => rfl⟩
  | cons claim claims ih =>
    unfold resizeClaims at h
    dsimp only at h
    split at h <;> rename_i hgoing
    · have hcons : growing (claim :: claims) = [claim] ++ growing claims :=
        List.filter_cons_of_pos hgoing
      rw [hcons, List.map_append]
      rcases Procedure.run_bind.mp h with ⟨e, h₁, rfl⟩ | ⟨t₁, t₂, _, rfl, h₁, h₂⟩
      · exact (run_resizeClaim h₁).failed _
      · exact (run_resizeClaim h₁).append (ih h₂)
    · have hcons : growing (claim :: claims) = growing claims :=
        List.filter_cons_of_neg hgoing
      rw [hcons]
      exact ih h

/-! ### The ways of an expansion -/

/-- The ways in which an expansion can go, by its trace and outcome. -/
inductive Expands (c : Cluster) (wait : Wait) (desired : Workload) :
    Trace → Except Error Unit → Prop
  | sizeless {reason : String} (h : desired.requestedStorage? = none) :
    Expands c wait desired [] (.error (.internal reason))
  | standing {size : String} {e : Error} (hsize : desired.requestedStorage? = some size)
    (h : e.isNotFound = false) :
    Expands c wait desired [⟨.delete .workload c.workloadName .orphan, .error e⟩] (.error e)
  | unlisted {size : String} {answer : Except Error Unit} {e : Error}
    (hsize : desired.requestedStorage? = some size) (h : isGone answer = true) :
    Expands c wait desired [⟨.delete .workload c.workloadName .orphan, answer⟩,
      ⟨.list .claim c.selector, .error e⟩] (.error e)
  | unresized {answer : Except Error Unit} {claims : List Claim} {size : String} {t : Trace}
    {e : Error} (hsize : desired.requestedStorage? = some size) (h : isGone answer = true)
    (hrun : (resizeClaims c wait size claims).Run t (.error e)) :
    Expands c wait desired (⟨.delete .workload c.workloadName .orphan, answer⟩ ::
      ⟨.list .claim c.selector, .ok claims⟩ :: t) (.error e)
  | remade {answer : Except Error Unit} {claims : List Claim} {size : String} {t : Trace}
    {made : Except Error Workload} (hsize : desired.requestedStorage? = some size)
    (h : isGone answer = true) (hrun : (resizeClaims c wait size claims).Run t (.ok ())) :
    Expands c wait desired (⟨.delete .workload c.workloadName .orphan, answer⟩ ::
      ⟨.list .claim c.selector, .ok claims⟩ :: (t ++ [⟨.create .workload desired.fresh, made⟩]))
      (made.map fun _ => ())

theorem answer_of_ensureDeleted {kind : Kind} {name : String} {propagation : Propagation}
    (h : (Store.ensureDeleted kind name propagation).Run t r) :
    ∃ answer, t = [⟨.delete kind name propagation, answer⟩] ∧
      ((isGone answer = true ∧ r = .ok ()) ∨
        ∃ e, answer = .error e ∧ e.isNotFound = false ∧ r = .error e) := by
  obtain ⟨t₁, t₂, answer, rfl, h₁, h₂⟩ := Program.run_bind.mp h
  obtain rfl := Program.run_request.mp h₁
  refine ⟨answer, ?_⟩
  match answer with
  | .ok () =>
    obtain ⟨rfl, rfl⟩ := Program.run_pure.mp h₂
    exact ⟨rfl, .inl ⟨rfl, rfl⟩⟩
  | .error e =>
    obtain ⟨rfl, hr⟩ := Program.run_pure.mp h₂
    refine ⟨rfl, ?_⟩
    by_cases hgone : e.isNotFound = true
    · rw [if_pos hgone] at hr
      exact .inl ⟨hgone, hr⟩
    · rw [if_neg hgone] at hr
      exact .inr ⟨e, rfl, by simpa using hgone, hr⟩

theorem run_expand {desired : Workload} (h : (expand c wait desired).Run t r) :
    Expands c wait desired t r := by
  unfold expand at h
  split at h <;> rename_i hsize
  · obtain ⟨rfl, rfl⟩ := Procedure.run_throw.mp h
    exact .sizeless hsize
  rcases Procedure.run_bind.mp h with ⟨e, h₁, rfl⟩ | ⟨t₁, t₂, _, rfl, h₁, h₂⟩
  · obtain ⟨answer, rfl, ⟨-, he⟩ | ⟨e', rfl, hfound, he⟩⟩ := answer_of_ensureDeleted h₁
    · cases he
    · obtain rfl := Except.error.inj he
      exact .standing hsize hfound
  obtain ⟨answer, rfl, ⟨hgone, -⟩ | ⟨e', -, -, he⟩⟩ := answer_of_ensureDeleted h₁
  swap
  · cases he
  rcases Procedure.run_bind.mp h₂ with ⟨e, h₃, rfl⟩ | ⟨t₃, t₄, claims, rfl, h₃, h₄⟩
  · obtain rfl := Store.run_list.mp h₃
    exact .unlisted hsize hgone
  obtain rfl := Store.run_list.mp h₃
  rcases Procedure.run_bind.mp h₄ with ⟨e, h₅, rfl⟩ | ⟨t₅, t₆, _, rfl, h₅, h₆⟩
  · exact .unresized hsize hgone h₅
  rcases Procedure.run_bind.mp h₆ with ⟨e, h₇, rfl⟩ | ⟨t₇, t₈, stored, rfl, h₇, h₈⟩
  · obtain rfl := Program.run_request.mp h₇
    exact .remade hsize hgone h₅
  · obtain rfl := Program.run_request.mp h₇
    obtain ⟨rfl, rfl⟩ := Procedure.run_pure.mp h₈
    exact .remade hsize hgone h₅

end Topology

/-! ### The ways of a pass -/

namespace Topology

variable {c : Cluster} {settings : Settings} {t : Trace} {r : Except Error Outcome}

/-- What follows a change that is refused for growth: an expansion, which is counted. -/
def grow (c : Cluster) (settings : Settings) (desired : Workload) : Procedure Outcome := do
  expand c settings.storage.resizeWait desired
  Procedure.step (note (.storageGrown c.key))
  return .expanded

/-- What growth of storage may ask for. -/
inductive GrowRequest (c : Cluster) : Request → Prop
  | wait {q : Request} (h : ResizeWaitRequest q) : GrowRequest c q
  | delete : GrowRequest c (.delete .workload c.workloadName .orphan)
  | list : GrowRequest c (.list .claim c.selector)
  | resize (claim : Claim) : GrowRequest c (.replace .claim claim)
  | create (workload : Workload) : GrowRequest c (.create .workload workload)
  | record (occurrence : Occurrence) : GrowRequest c (.record occurrence)

theorem asks_resizeClaims {P : Request → Prop} {wait : Wait} {size : String} {claims : List Claim}
    (hwait : ∀ q, ResizeWaitRequest q → P q)
    (hwrite : ∀ claim ∈ growing claims, P (.replace .claim (claim.resized size c.owner?))) :
    (resizeClaims c wait size claims).Asks P := by
  induction claims with
  | nil => exact Procedure.asks_pure _
  | cons claim claims ih =>
    unfold resizeClaims
    dsimp only
    split <;> rename_i hgoing
    · have hcons : growing (claim :: claims) = claim :: growing claims :=
        List.filter_cons_of_pos hgoing
      rw [hcons, List.forall_mem_cons] at hwrite
      refine Procedure.asks_bind ?_ fun _ => ih hwrite.2
      exact Procedure.asks_bind (Program.asks_request hwrite.1) fun _ => asks_awaitResize.mono hwait
    · have hcons : growing (claim :: claims) = growing claims :=
        List.filter_cons_of_neg hgoing
      exact ih (hcons ▸ hwrite)

theorem asks_grow {desired : Workload} : (grow c settings desired).Asks (GrowRequest c) := by
  refine Procedure.asks_bind ?_ fun _ => Procedure.asks_bind
    (Procedure.asks_step (Program.asks_request (.record _))) fun _ => Procedure.asks_pure _
  unfold expand
  split
  · exact Procedure.asks_throw _
  · refine Procedure.asks_bind (Store.asks_ensureDeleted .delete) fun _ => ?_
    refine Procedure.asks_bind (Program.asks_request .list) fun claims => ?_
    refine Procedure.asks_bind (asks_resizeClaims (fun _ => .wait) fun _ _ => .resize _) fun _ => ?_
    exact Procedure.asks_bind (Program.asks_request (.create _)) fun _ => Procedure.asks_pure _

theorem eq_expanded_of_grow {desired : Workload} {outcome : Outcome}
    (h : (grow c settings desired).Run t (.ok outcome)) : outcome = .expanded := by
  obtain ⟨_, _, _, rfl, -, h₂⟩ := Procedure.run_bind_ok.mp h
  obtain ⟨_, _, _, rfl, -, h₄⟩ := Procedure.run_bind_ok.mp h₂
  exact Except.ok.inj (Procedure.run_pure.mp h₄).2

/-- The ways in which a pass over a workload can go, by its trace and outcome. -/
inductive Settles (c : Cluster) (settings : Settings) : Trace → Except Error Outcome → Prop
  | going (h : c.isTerminating = true) : Settles c settings [] (.error .ownerDeleted)
  | unread {e : Error} : Settles c settings [⟨.get .workload c.workloadName, .error e⟩] (.error e)
  | absent {made : Except Error Workload} :
    Settles c settings [⟨.get .workload c.workloadName, .ok none⟩,
      ⟨.create .workload (Workload.desired c), made⟩] (made.map fun _ => .created)
  | malformed {live : Workload}
    (h : Manifest.overlay? .workload live (Workload.desired c) = none) :
    Settles c settings [⟨.get .workload c.workloadName, .ok (some live)⟩] (.error .malformed)
  | kept {live merged : Workload} {t : Trace} {r : Except Error Outcome}
    (h : Manifest.overlay? .workload live (Workload.desired c) = some (merged, false))
    (hrun : (keep c settings live).Run t r) :
    Settles c settings (⟨.get .workload c.workloadName, .ok (some live)⟩ :: t) r
  | changed {live merged stored : Workload} {t : Trace} {r : Except Error Outcome}
    (h : Manifest.overlay? .workload live (Workload.desired c) = some (merged, true))
    (hrun : (proceed c settings).Run t r) :
    Settles c settings (⟨.get .workload c.workloadName, .ok (some live)⟩ ::
      ⟨.replace .workload merged, .ok stored⟩ :: t) r
  | refused {live merged : Workload} {e : Error}
    (h : Manifest.overlay? .workload live (Workload.desired c) = some (merged, true))
    (hno : (e.isInvalid && grows live (Workload.desired c)) = false) :
    Settles c settings [⟨.get .workload c.workloadName, .ok (some live)⟩,
      ⟨.replace .workload merged, .error e⟩] (.error e)
  | grown {live merged : Workload} {e : Error} {t : Trace} {r : Except Error Outcome}
    (h : Manifest.overlay? .workload live (Workload.desired c) = some (merged, true))
    (hinvalid : e.isInvalid = true) (hgrows : grows live (Workload.desired c) = true)
    (hrun : (grow c settings (Workload.desired c)).Run t r) :
    Settles c settings (⟨.get .workload c.workloadName, .ok (some live)⟩ ::
      ⟨.replace .workload merged, .error e⟩ :: t) r

theorem run_change {live merged : Workload}
    (h : Manifest.overlay? .workload live (Workload.desired c) = some (merged, true))
    (hrun : (change c settings live (Workload.desired c) merged).Run t r) :
    Settles c settings (⟨.get .workload c.workloadName, .ok (some live)⟩ :: t) r := by
  obtain ⟨t₁, t₂, answer, rfl, h₁, h₂⟩ := Procedure.run_step_bind.mp hrun
  obtain rfl := Program.run_request.mp h₁
  match answer with
  | .ok stored => exact .changed h h₂
  | .error e =>
    change (afterRefusal c settings e live (Workload.desired c)).Run t₂ r at h₂
    unfold afterRefusal at h₂
    split at h₂ <;> rename_i hgrowth
    · obtain ⟨hinvalid, hgrows⟩ := Bool.and_eq_true_iff.mp hgrowth
      exact .grown h hinvalid hgrows h₂
    · obtain ⟨rfl, rfl⟩ := Procedure.run_throw.mp h₂
      exact .refused h (by simpa using hgrowth)

/-- **The ways of a pass** are all there are. -/
theorem run_settle (h : (settle c settings).Run t r) : Settles c settings t r := by
  unfold settle at h
  split at h <;> rename_i hgoing
  · obtain ⟨rfl, rfl⟩ := Procedure.run_throw.mp h
    exact .going hgoing
  rcases Procedure.run_bind.mp h with ⟨e, h₁, rfl⟩ | ⟨t₁, t₂, live, rfl, h₁, h₂⟩
  · obtain rfl := Store.run_get.mp h₁
    exact .unread
  obtain rfl := Store.run_get.mp h₁
  match live with
  | none =>
    rcases Procedure.run_bind.mp h₂ with ⟨e, h₃, rfl⟩ | ⟨t₃, t₄, stored, rfl, h₃, h₄⟩
    · obtain rfl := Program.run_request.mp h₃
      exact .absent
    · obtain rfl := Program.run_request.mp h₃
      obtain ⟨rfl, rfl⟩ := Procedure.run_pure.mp h₄
      exact .absent
  | some live =>
    change (bringInLine c settings live (Workload.desired c)).Run t₂ r at h₂
    unfold bringInLine at h₂
    split at h₂
    · rename_i hnone
      obtain ⟨rfl, rfl⟩ := Procedure.run_throw.mp h₂
      exact .malformed hnone
    · rename_i merged changed hsome
      split at h₂
      · rename_i hchanged
        subst hchanged
        exact run_change hsome h₂
      · rename_i hchanged
        obtain rfl := Bool.not_eq_true _ ▸ hchanged
        exact .kept hsome h₂

theorem run_sync (h : (sync c settings).Run t r) :
    ∃ r', Settles c settings t r' ∧ (r = r' ∨ r' = .error .ownerDeleted ∧ r = .ok .skipped) := by
  obtain ⟨t₁, t₂, r', rfl, h₁, h₂⟩ := Program.run_bind.mp h
  refine ⟨r', ?_⟩
  split at h₂
  · obtain ⟨rfl, rfl⟩ := Program.run_pure.mp h₂
    exact ⟨by simpa using run_settle h₁, .inr ⟨rfl, rfl⟩⟩
  · obtain ⟨rfl, rfl⟩ := Program.run_pure.mp h₂
    exact ⟨by simpa using run_settle h₁, .inl rfl⟩

end Topology

end RaftMysql
