import RaftMysql.Proofs.Topology.Expansion

/-!
# The workload that a rolling update goes by

A pass has at most one rolling update, `Topology.Rolls`, and nothing else in it touches a pod
(`Topology.rolls_of_sync`). `Topology.GoesBy` says what was read of the workload before that update and
which copy it goes by. A pass that changes nothing goes by the copy that it began with, whatever the
platform made of the latest generation. A pass that changes the workload waits for a copy that is
observed, and goes by the one that it reads after that (`Topology.sync_goesBy`).
-/

namespace RaftMysql

/-! ### Workloads in a trace -/

/-- The workload that came back with an event, if one did. -/
def Event.workload? : Event → Option Workload
  | ⟨.get .workload _, answer⟩ =>
    match (answer : Except Error (Option Workload)) with
    | .ok workload => workload
    | .error _ => none
  | _ => none

/-- The workload that came back last. -/
def latestWorkload? (t : Trace) : Option Workload := (t.filterMap Event.workload?).getLast?

/-- The request has no part in a rolling update: it looks at no pod, removes none and does not look for
backups. -/
def Request.LeavesMembers : Request → Prop
  | .get .pod _ | .delete .pod .. | .list .backup _ => False
  | _ => True

/-- The request does not look at the workload either. -/
def Request.IsBeside : Request → Prop
  | .get .workload _ => False
  | q => q.LeavesMembers

namespace Request

variable {q : Request}

theorem IsBeside.leavesMembers (h : q.IsBeside) : q.LeavesMembers := by
  unfold IsBeside at h
  split at h
  · exact absurd h id
  · exact h

theorem LeavesMembers.visited? (h : q.LeavesMembers) : q.visited? = none := by
  unfold Request.visited?
  split
  · exact absurd h id
  · exact absurd h id
  · rfl

end Request

theorem Event.workload?_eq_none {e : Event} (h : ∀ name, e.request ≠ .get .workload name) :
    e.workload? = none := by
  unfold Event.workload?
  split
  · exact absurd rfl (h _)
  · rfl

theorem latestWorkload?_append {t t' : Trace}
    (h : ∀ e ∈ t', ∀ name, e.request ≠ .get .workload name) :
    latestWorkload? (t ++ t') = latestWorkload? t := by
  have hnil : t'.filterMap Event.workload? = [] :=
    List.filterMap_eq_nil_iff.mpr fun e he => Event.workload?_eq_none (h e he)
  unfold latestWorkload?
  rw [List.filterMap_append, hnil, List.append_nil]

namespace Workload

/-- The second copy is no older than the first as far as the latest change goes: the workload was not
changed in between, and the platform has not forgotten what it acted upon. -/
structure Stays (earlier later : Workload) : Prop where
  generation_eq : later.metadata.generation = earlier.metadata.generation
  observed_le : ∀ n, observedGeneration? earlier = some n →
    ∃ m, observedGeneration? later = some m ∧ n ≤ m

theorem isObserved_iff {w : Workload} : isObserved w = true ↔
    ∃ observed generation, observedGeneration? w = some observed ∧
      w.metadata.generation = some generation ∧ generation ≤ observed := by
  unfold isObserved
  rcases observedGeneration? w with _ | observed <;>
    rcases w.metadata.generation with _ | generation <;> simp

theorem Stays.isObserved {earlier later : Workload} (h : Stays earlier later)
    (hobserved : isObserved earlier = true) : isObserved later = true := by
  obtain ⟨n, generation, hn, hgeneration, hle⟩ := isObserved_iff.mp hobserved
  obtain ⟨m, hm, hnm⟩ := h.observed_le n hn
  exact isObserved_iff.mpr ⟨m, generation, hm, h.generation_eq.trans hgeneration, hle.trans hnm⟩

end Workload

namespace Topology

variable {c : Cluster} {settings : Settings} {t : Trace} {r : Except Error Outcome}

/-- A look at the workload that found this copy. -/
def found (c : Cluster) (workload : Workload) : Event :=
  ⟨.get .workload c.workloadName, .ok (some workload)⟩

/-- What a pass reads before it rolls, and the copy of the workload that it rolls by. -/
inductive GoesBy (c : Cluster) : Trace → Workload → Prop
  | kept {live merged : Workload}
    (h : Manifest.overlay? .workload live (Workload.desired c) = some (merged, false)) :
    GoesBy c [found c live] live
  | changed {live merged stored observed workload : Workload} {waits : Trace}
    (h : Manifest.overlay? .workload live (Workload.desired c) = some (merged, true))
    (hwaits : ∀ e ∈ waits, ∀ copy, e.workload? = some copy → copy.isObserved = false)
    (hobserved : observed.isObserved = true) :
    GoesBy c (found c live :: ⟨.replace .workload merged, .ok stored⟩ ::
      (waits ++ [found c observed, found c workload])) workload

/-! ### The wait for an observed copy -/

/-- The wait ends with the first copy that is observed, and then another one is read. -/
theorem run_waitObserved {workload : Workload}
    (h : (waitObserved c settings).Run t (.ok workload)) :
    ∃ waits observed, t = waits ++ [found c observed, found c workload] ∧
      (∀ e ∈ waits, ∀ copy, e.workload? = some copy → copy.isObserved = false) ∧
      observed.isObserved = true := by
  obtain ⟨t₁, t₂, _, rfl, h₁, h₂⟩ := Procedure.run_bind_ok.mp h
  obtain ⟨t₃, t₄, live, rfl, h₃, h₄⟩ := Procedure.run_bind_ok.mp h₂
  obtain rfl := Store.run_get.mp h₃
  match live with
  | none =>
    obtain ⟨-, hr⟩ := Procedure.run_throw.mp h₄
    cases hr
  | some live =>
    obtain ⟨rfl, hr⟩ := Procedure.run_pure.mp h₄
    obtain rfl := Except.ok.inj hr
    obtain ⟨waits, t₅, rfl, hwaits, hlast⟩ := Procedure.run_poll_ok_first
      (P := fun e => ∀ copy, e.workload? = some copy → copy.isObserved = false)
      (fun _ copy hcopy => by cases hcopy) (fun _ _ copy hcopy => by cases hcopy)
      (fun t hlook => by
        obtain ⟨t₆, t₇, current, rfl, h₆, h₇⟩ := Procedure.run_bind_ok.mp hlook
        obtain rfl := Store.run_get.mp h₆
        obtain ⟨rfl, hr⟩ := Procedure.run_pure.mp h₇
        refine List.forall_mem_singleton.mpr fun copy hcopy => ?_
        obtain rfl : current = some copy := hcopy
        exact (Except.ok.inj hr).symm) h₁
    obtain ⟨t₆, t₇, current, rfl, h₆, h₇⟩ := Procedure.run_bind_ok.mp hlast
    obtain rfl := Store.run_get.mp h₆
    obtain ⟨rfl, hr⟩ := Procedure.run_pure.mp h₇
    match current with
    | none => cases Except.ok.inj hr
    | some observed =>
      exact ⟨waits, observed, by simp [found], hwaits, (Except.ok.inj hr).symm⟩

/-! ### The rolling update of a pass -/

/-- A pass with a rolling update: it goes by a copy of the workload some of whose members are not up to
date, and what comes after it has no part in it. If it fails, so does the pass. -/
structure Rolls (c : Cluster) (settings : Settings) (reads update rest : Trace)
    (workload : Workload) (outcome : Except Error Unit) (r : Except Error Outcome) : Prop where
  leaves : ∀ e ∈ reads, e.request.LeavesMembers
  goesBy : GoesBy c reads workload
  isPending : workload.updatePending = true
  run : (rollout c settings workload).Run update outcome
  isBeside : ∀ e ∈ rest, e.request.IsBeside
  fails : ∀ e, outcome = .error e → rest = [] ∧ (r = .error e ∨ e = .ownerDeleted ∧ r = .ok .skipped)

/-- What comes after a rolling update, or instead of one when every member is up to date, has no part in
it. -/
theorem run_rolloutIfPending_bind {f : Unit → Procedure Outcome} {workload : Workload}
    (h : (rolloutIfPending c settings workload >>= f).Run t r)
    (hf : (f ()).Asks Request.IsBeside) :
    (∀ e ∈ t, e.request.IsBeside) ∨
      workload.updatePending = true ∧ ∃ update rest outcome, t = update ++ rest ∧
        (rollout c settings workload).Run update outcome ∧ (∀ e ∈ rest, e.request.IsBeside) ∧
        ∀ e, outcome = .error e → rest = [] ∧ r = .error e := by
  unfold rolloutIfPending at h
  by_cases hpending : workload.updatePending = true
  · rw [if_pos hpending] at h
    refine .inr ⟨hpending, ?_⟩
    rcases Procedure.run_bind.mp h with ⟨e, h₁, rfl⟩ | ⟨t₁, t₂, _, rfl, h₁, h₂⟩
    · exact ⟨t, [], .error e, by simp, h₁, by simp, fun e' he => ⟨rfl, by cases he; rfl⟩⟩
    · exact ⟨t₁, t₂, .ok (), rfl, h₁, h₂.asks hf, fun e he => by cases he⟩
  · rw [if_neg hpending, pure_bind] at h
    exact .inl (h.asks hf)

theorem isBeside_align : (align c).Asks Request.IsBeside := by
  refine asks_align.mono fun q h => ?_
  cases h <;> trivial

/-- The rolling update of a pass that goes a certain way, if it has one. -/
theorem rolls_of_settles {r' : Except Error Outcome} (h : Settles c settings t r')
    (hr : r = r' ∨ r' = .error .ownerDeleted ∧ r = .ok .skipped) :
    (∀ e ∈ t, e.request.LeavesMembers) ∨
      ∃ reads update rest workload outcome, t = reads ++ (update ++ rest) ∧
        Rolls c settings reads update rest workload outcome r := by
  have hfails : ∀ e, r' = .error e → r = .error e ∨ e = .ownerDeleted ∧ r = .ok .skipped := by
    rintro e rfl
    rcases hr with rfl | ⟨he, rfl⟩
    · exact .inl rfl
    · exact .inr ⟨Except.error.inj he, rfl⟩
  cases h with
  | going | unread | absent | malformed | refused =>
    exact .inl (by simp [Request.LeavesMembers])
  | @kept live merged t r' h hrun =>
    have hread : (found c live).request.LeavesMembers := trivial
    have halign : (do Procedure.step (align c); return Outcome.unchanged : Procedure Outcome).Asks
        Request.IsBeside :=
      Procedure.asks_bind (Procedure.asks_step isBeside_align) fun _ => Procedure.asks_pure _
    rcases run_rolloutIfPending_bind hrun halign with
      hbeside | ⟨hpending, update, rest, outcome, rfl, hupdate, hrest, herror⟩
    · exact .inl (List.forall_mem_cons.mpr ⟨hread, fun e he => (hbeside e he).leavesMembers⟩)
    · exact .inr ⟨[found c live], update, rest, live, outcome, rfl,
        List.forall_mem_singleton.mpr hread, .kept h, hpending, hupdate, hrest,
        fun e he => ⟨(herror e he).1, hfails e (herror e he).2⟩⟩
  | @changed live merged stored t r' h hrun =>
    have hwait : (waitObserved c settings).Asks Request.LeavesMembers :=
      asks_waitObserved trivial (fun _ => trivial) trivial
    have hafter : (do
        let _ ← giveBack c
        Procedure.step (align c)
        return Outcome.updated : Procedure Outcome).Asks Request.IsBeside :=
      Procedure.asks_bind (asks_giveBack trivial fun _ => trivial) fun _ =>
        Procedure.asks_bind (Procedure.asks_step isBeside_align) fun _ => Procedure.asks_pure _
    have hcons : ∀ {t : Trace}, (∀ e ∈ t, e.request.LeavesMembers) →
        ∀ e ∈ found c live :: ⟨.replace .workload merged, .ok stored⟩ :: t,
          e.request.LeavesMembers := fun ht =>
      List.forall_mem_cons.mpr ⟨trivial, List.forall_mem_cons.mpr ⟨trivial, ht⟩⟩
    rcases Procedure.run_bind.mp hrun with ⟨e, h₁, rfl⟩ | ⟨t₁, t₂, workload, rfl, h₁, h₂⟩
    · exact .inl (hcons (h₁.asks hwait))
    have hreads := hcons (h₁.asks hwait)
    rcases run_rolloutIfPending_bind h₂ hafter with
      hbeside | ⟨hpending, update, rest, outcome, rfl, hupdate, hrest, herror⟩
    · refine .inl (hcons (List.forall_mem_append.mpr ⟨h₁.asks hwait, ?_⟩))
      exact fun e he => (hbeside e he).leavesMembers
    · obtain ⟨waits, observed, rfl, hwaits, hobserved⟩ := run_waitObserved h₁
      exact .inr ⟨_, update, rest, workload, outcome, rfl, hreads, .changed h hwaits hobserved,
        hpending, hupdate, hrest, fun e he => ⟨(herror e he).1, hfails e (herror e he).2⟩⟩
  | grown h hinvalid hgrows hrun =>
    have hgrow : ∀ q, GrowRequest c q → q.LeavesMembers := by
      intro q hq
      cases hq with
      | wait hq => cases hq <;> trivial
      | delete | list | resize | create | record => trivial
    exact .inl (List.forall_mem_cons.mpr ⟨trivial, List.forall_mem_cons.mpr
      ⟨trivial, hrun.asks (asks_grow.mono hgrow)⟩⟩)

/-- **The rolling update of a pass**: there is at most one, and nothing else in the pass touches a
pod. -/
theorem rolls_of_sync (h : (sync c settings).Run t r) :
    (∀ e ∈ t, e.request.LeavesMembers) ∨
      ∃ reads update rest workload outcome, t = reads ++ (update ++ rest) ∧
        Rolls c settings reads update rest workload outcome r := by
  obtain ⟨r', hsettles, hr⟩ := run_sync h
  exact rolls_of_settles hsettles hr

theorem removals_of_leavesMembers (h : ∀ e ∈ t, e.request.LeavesMembers) : removals t = [] :=
  removals_eq_nil_of_visits (visits_eq_nil fun e he => (h e he).visited?)

theorem Rolls.removals_eq {reads update rest : Trace} {workload : Workload}
    {outcome : Except Error Unit} (h : Rolls c settings reads update rest workload outcome r) :
    removals (reads ++ (update ++ rest)) = removals update := by
  have hrest : removals rest = [] :=
    removals_of_leavesMembers fun e he => (h.isBeside e he).leavesMembers
  rw [removals_append, removals_append, removals_of_leavesMembers h.leaves, hrest, List.nil_append,
    List.append_nil]

/-! ### The copy that an update goes by -/

theorem ne_get_workload_of_rollout {workload : Workload} {update : Trace}
    {outcome : Except Error Unit} (h : (rollout c settings workload).Run update outcome) :
    ∀ e ∈ update, ∀ name, e.request ≠ .get .workload name := by
  have hasks : (rollout c settings workload).Asks fun q => ∀ name, q ≠ .get .workload name := by
    refine asks_rollout (by simp) (by simp) ?_
    rintro pods q hq name rfl
    cases hq with
    | replace hpod h =>
      cases h with
      | wait h => cases h
    | transfer hleader h => cases h
  exact h.asks hasks

theorem GoesBy.latest {reads : Trace} {workload : Workload} (h : GoesBy c reads workload) :
    latestWorkload? reads = some workload := by
  cases h with
  | kept => rfl
  | @changed live merged stored observed workload waits =>
    rw [← List.cons_append, ← List.cons_append, List.append_cons]
    unfold latestWorkload?
    rw [List.filterMap_append]
    exact List.getLast?_concat ..

/-- The copy that an update goes by is the latest one all the while. -/
theorem Rolls.latest {reads update rest : Trace} {workload : Workload}
    {outcome : Except Error Unit} (h : Rolls c settings reads update rest workload outcome r)
    {update' : Trace} (hupdate : update' <+: update) :
    latestWorkload? (reads ++ update') = some workload := by
  rw [latestWorkload?_append, h.goesBy.latest]
  exact fun e he => ne_get_workload_of_rollout h.run e (hupdate.mem he)

theorem ready_of_rollout {workload : Workload} {update : Trace} {outcome : Except Error Unit}
    (h : (rollout c settings workload).Run update outcome) (hupdate : removals update ≠ []) :
    c.replicas ≤ workload.readyReplicas ∧ ∃ revision, workload.updateRevision? = some revision := by
  cases enters_of_run h with
  | deferred | unlooked | refused | unlisted => exact absurd rfl hupdate
  | rolls hready hrevision => exact ⟨hready, _, hrevision⟩

/-- A copy that an update goes by may be one that the platform has not acted upon: the one that a pass
began with, or one that was changed since the pass had seen an observed one. -/
theorem GoesBy.observed_or {reads : Trace} {workload : Workload} (h : GoesBy c reads workload) :
    workload.isObserved = true ∨ reads = [found c workload] ∨
      ∃ earlier observed, reads = earlier ++ [found c observed, found c workload] ∧
        observed.isObserved = true ∧ ¬ observed.Stays workload := by
  cases h with
  | kept => exact .inr (.inl rfl)
  | @changed live merged stored observed workload waits h hwaits hobserved =>
    by_cases hstays : observed.Stays workload
    · exact .inl (hstays.isObserved hobserved)
    · exact .inr (.inr ⟨found c live :: ⟨.replace .workload merged, .ok stored⟩ :: waits, observed,
        by simp, hobserved, hstays⟩)

/-- **What the removals of a pass go by**: the latest copy of the workload that it has read, which has
members that are not up to date, enough ready ones and a revision to move them to. The copy is
observed, unless the pass changed nothing and it is the only one read, or unless the workload was
changed between the two looks that ended the wait for an observed one. -/
theorem sync_goesBy (h : (sync c settings).Run t r) :
    removals t = [] ∨
      ∃ reads update rest workload revision outcome, t = reads ++ (update ++ rest) ∧
        GoesBy c reads workload ∧ (rollout c settings workload).Run update outcome ∧
        removals t = removals update ∧ latestWorkload? (reads ++ update) = some workload ∧
        workload.updatePending = true ∧ c.replicas ≤ workload.readyReplicas ∧
        workload.updateRevision? = some revision ∧
        (workload.isObserved = true ∨ reads = [found c workload] ∨
          ∃ earlier observed, reads = earlier ++ [found c observed, found c workload] ∧
            observed.isObserved = true ∧ ¬ observed.Stays workload) := by
  rcases rolls_of_sync h with hleaves | ⟨reads, update, rest, workload, outcome, rfl, hrolls⟩
  · exact .inl (removals_of_leavesMembers hleaves)
  have hremovals := hrolls.removals_eq
  by_cases hupdate : removals update = []
  · exact .inl (hremovals.trans hupdate)
  · obtain ⟨hready, revision, hrevision⟩ := ready_of_rollout hrolls.run hupdate
    exact .inr ⟨reads, update, rest, workload, revision, outcome, rfl, hrolls.goesBy, hrolls.run,
      hremovals, hrolls.latest (List.prefix_refl _), hrolls.isPending, hready, hrevision,
      hrolls.goesBy.observed_or⟩

/-! ### A group whose workload lags behind -/

/-- The workload of the group of two: some change of it, and what the platform says of the change that
it has acted upon. -/
def laggingWorkload (generation observed : Int) : Workload where
  metadata := { (Workload.desired groupCluster).metadata with generation := some generation }
  body := (Workload.desired groupCluster).body.setMember "status" (.object
    [("observedGeneration", .int observed), ("readyReplicas", .int 2), ("updateRevision", .text "b")])

/-- What answers for the group of two while its workload is shown like this, one copy after the
other. -/
def shownAnswer : (q : Request) → List Workload × List String → q.Answer × (List Workload × List String)
  | .get .workload _, (copies, removed) => (.ok copies.head?, (copies.tail, removed))
  | .replace .workload workload, s => (.ok workload, s)
  | .list .claim _, s => (.ok [], s)
  | q, (copies, removed) =>
    let (answer, removed) := groupAnswer groupPods groupCopy q removed
    (answer, (copies, removed))

/-- The trace of a pass over the group of two. -/
def shownTrace (copies : List Workload) : Trace :=
  (sync groupCluster {}).outcome.traceOf shownAnswer (copies, [])

/-- A workload that has to be changed: it should run another member. -/
def outgrownWorkload : Workload :=
  Workload.desired { groupCluster with spec := { groupCluster.spec with replicas := 3 } }

/-- The copies of a workload that is changed by a pass: the platform acts upon the change while the
pass waits. -/
def changedCopies : List Workload :=
  [outgrownWorkload, laggingWorkload 2 1, laggingWorkload 2 2, laggingWorkload 2 2]

theorem outcome_of_changedCopies :
    (Program.run shownAnswer (sync groupCluster {}).outcome (changedCopies, [])).1 = .ok .updated ∧
      removals (shownTrace changedCopies) = ["sample-mysql-1", "sample-mysql-0"] := by
  decide +kernel

theorem run_changedCopies : (sync groupCluster {}).Run (shownTrace changedCopies) (.ok .updated) :=
  Program.run_traceOf_of_eq shownAnswer outcome_of_changedCopies.1

/-- A pass that changes the workload moves both members by a copy that it read after the change. -/
theorem changed_goesBy :
    ∃ reads update rest workload, shownTrace changedCopies = reads ++ (update ++ rest) ∧
      GoesBy groupCluster reads workload ∧ removals update = ["sample-mysql-1", "sample-mysql-0"] := by
  have hremovals := outcome_of_changedCopies.2
  rcases sync_goesBy run_changedCopies with
    hnil | ⟨reads, update, rest, workload, revision, outcome, ht, hgoes, -, heq, -⟩
  · rw [hnil] at hremovals
    cases hremovals
  · exact ⟨reads, update, rest, workload, ht, hgoes, heq ▸ hremovals⟩

/-- The pass that finds the workload as it should be, but not acted upon: how it ends, which pod it
removes, and what it has read of the workload by then. -/
theorem outcome_of_laggingWorkload :
    (Program.run shownAnswer (sync groupCluster {}).outcome ([laggingWorkload 2 1], [])).1 =
        .ok .unchanged ∧
      ((shownTrace [laggingWorkload 2 1]).drop 7).head?.bind (fun e => e.request.removed?) =
        some "sample-mysql-1" ∧
      (((shownTrace [laggingWorkload 2 1]).take 7).filterMap Event.workload?).map
        (fun w => w.isObserved) = [false] := by
  decide +kernel

/-- A pass that changes nothing goes by a workload that the platform has not acted upon: a pod is
removed although the only copy that was read is not observed. -/
theorem exists_removal_unobserved :
    ∃ before e after workload,
      (sync groupCluster {}).Run (before ++ e :: after) (.ok .unchanged) ∧
        e.request.removed? = some "sample-mysql-1" ∧ before.filterMap Event.workload? = [workload] ∧
        workload.isObserved = false := by
  obtain ⟨hrun, hremoved, hread⟩ := outcome_of_laggingWorkload
  obtain ⟨e, after, ht, he⟩ := exists_split_of_removal hremoved
  obtain ⟨workload, hworkload, hobserved⟩ := List.map_eq_singleton_iff.mp hread
  refine ⟨_, e, after, workload, ?_, he, hworkload, hobserved⟩
  rw [← ht]
  exact Program.run_traceOf_of_eq shownAnswer hrun

end Topology

end RaftMysql
