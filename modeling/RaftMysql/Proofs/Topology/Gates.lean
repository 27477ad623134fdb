import RaftMysql.Proofs.Topology.Basis

/-!
# The gates of a rolling update

Before a pass removes a pod it has to find enough members ready, no backup running and every member
vouched for: `Topology.Passed` says that a trace has done so. `Topology.Gated` is what this means for a
pass as a whole, and `Topology.sync_gated` that every pass is so, whatever is answered. A gate that
fails ends the update, with an error that tells which one it was.
-/

namespace RaftMysql

namespace Topology

variable {c : Cluster} {settings : Settings} {revision : String} {members pods : List Pod}
  {t : Trace}

/-! ### Waiting for a member to be vouched for -/

/-- A copy of a pod came back that is vouched for. -/
def Vouched (name : String) (t : Trace) : Prop :=
  ∃ copy : Pod, (⟨.get .pod name, .ok (some copy)⟩ : Event) ∈ t ∧ copy.isHealthy = true

/-- The event is no look that found the pod vouched for. -/
def Unvouched (name : String) (e : Event) : Prop :=
  ∀ copy : Pod, e = ⟨.get .pod name, .ok (some copy)⟩ → copy.isHealthy = false

theorem Vouched.mono {name : String} {t t' : Trace} (h : Vouched name t) (ht : t ⊆ t') :
    Vouched name t' := by
  obtain ⟨copy, hmem, hcopy⟩ := h
  exact ⟨copy, ht hmem, hcopy⟩

/-- How a look at a pod that is waited for ends. -/
theorem run_healthyLook {name : String} {x : Except Error Bool}
    (h : (do
      let pod : Option Pod ← Store.get .pod name
      return match pod with
        | some pod => pod.isHealthy
        | none => false : Procedure Bool).Run t x) :
    ∃ answer : Except Error (Option Pod), t = [⟨.get .pod name, answer⟩] ∧
      x = answer.map fun pod => pod.any Pod.isHealthy := by
  rcases Procedure.run_bind.mp h with ⟨e, h₁, rfl⟩ | ⟨t₁, t₂, pod, rfl, h₁, h₂⟩
  · exact ⟨.error e, Store.run_get.mp h₁, rfl⟩
  · obtain rfl := Store.run_get.mp h₁
    obtain ⟨rfl, rfl⟩ := Procedure.run_pure.mp h₂
    refine ⟨.ok pod, rfl, ?_⟩
    cases pod <;> rfl

/-- **How the wait for a member ends**: the member is vouched for, or it never was and the error names
it, unless a look failed or there was none. -/
theorem run_waitHealthy {name : String} {r : Except Error Unit}
    (h : (waitHealthy settings name).Run t r) :
    (r = .ok () ∧ Vouched name t) ∨
      (∀ e ∈ t, Unvouched name e) ∧ ∃ e, r = .error e ∧
        (e = .memberUnhealthy name ∨ (∃ e', ⟨.get .pod name, .error e'⟩ ∈ t) ∨ visits t = []) := by
  obtain ⟨t₁, t₂, outcome, rfl, h₁, h₂⟩ := Program.run_bind.mp h
  have hwait := Procedure.run_poll (P := Unvouched name) (fun _ copy he => by cases he)
    (fun _ _ copy he => by cases he)
    (fun t hlook => by
      obtain ⟨answer, rfl, hx⟩ := run_healthyLook hlook
      refine List.forall_mem_singleton.mpr fun copy he => ?_
      obtain rfl : answer = .ok (some copy) := by simpa using he
      exact (Except.ok.inj hx).symm) h₁
  rcases hwait with ⟨rfl, start, rfl⟩ | ⟨rfl, hnone⟩ | ⟨t₃, t₄, x, rfl, hnone, hlast, hx, rfl⟩
  · obtain ⟨rfl, rfl⟩ := Program.run_pure.mp h₂
    exact .inr ⟨List.forall_mem_singleton.mpr nofun, _, rfl, .inr (.inr rfl)⟩
  · obtain ⟨rfl, rfl⟩ := Program.run_pure.mp h₂
    exact .inr ⟨by simpa using hnone, _, rfl, .inl rfl⟩
  · obtain ⟨answer, rfl, rfl⟩ := run_healthyLook hlast
    match answer with
    | .error e =>
      have hfailed : (⟨.get .pod name, .error e⟩ : Event) ∈
          t₃ ++ [⟨.get .pod name, .error e⟩] ++ t₂ := by simp
      have hr : ∃ e', r = .error e' ∧ t₂ = [] := by
        split at h₂
        · obtain ⟨rfl, rfl⟩ := Program.run_pure.mp h₂
          exact ⟨_, rfl, rfl⟩
        · obtain ⟨rfl, rfl⟩ := Program.run_pure.mp h₂
          exact ⟨_, rfl, rfl⟩
      obtain ⟨e', rfl, rfl⟩ := hr
      refine .inr ⟨?_, e', rfl, .inr (.inl ⟨e, hfailed⟩)⟩
      rw [List.append_nil]
      exact List.forall_mem_append.mpr ⟨hnone, List.forall_mem_singleton.mpr nofun⟩
    | .ok none => exact absurd rfl hx
    | .ok (some copy) =>
      obtain ⟨rfl, rfl⟩ := Program.run_pure.mp h₂
      refine .inl ⟨rfl, copy, by simp, ?_⟩
      exact Bool.of_not_eq_false fun hcopy => hx (congrArg Except.ok hcopy)

/-! ### Waiting for all members -/

/-- The members are waited for one after the other. -/
def Waits (settings : Settings) : List Pod → Trace → Except Error Unit → Prop :=
  InTurn fun pod => (waitHealthy settings pod.name).Run

theorem Waits.vouched {waits : Trace} (h : Waits settings members waits (.ok ())) :
    ∀ m ∈ members, Vouched m.name waits := by
  intro m hm
  obtain ⟨done, rest, rfl⟩ := List.append_of_mem hm
  obtain ⟨before, own, after, rfl, -, hown, -⟩ := h.part
  rcases run_waitHealthy hown with ⟨-, hvouched⟩ | ⟨-, e, he, -⟩
  · exact hvouched.mono fun e he => by simp [he]
  · cases he

theorem Waits.visits {waits : Trace} {r : Except Error Unit} (h : Waits settings members waits r)
    {name : String} (hname : name ∈ visits waits) : ∃ m ∈ members, m.name = name := by
  refine visits_inTurn h (fun {pod t r} hwait name hname => ?_) hname
  obtain ⟨e, he, hvisited⟩ := mem_visits.mp hname
  exact (ReplaceRequest.wait (hwait.asks asks_waitHealthy e he)).eq_of_visited? hvisited

theorem Waits.removals {waits : Trace} {r : Except Error Unit} (h : Waits settings members waits r) :
    removals waits = [] := removals_of_waits (run_forEach.mpr h)

/-- The members have their turn when each of them was vouched for. -/
theorem run_rollMembers {r : Except Error Unit}
    (h : (rollMembers settings c revision members).Run t r) :
    (∃ e, r = .error e ∧ Waits settings members t (.error e)) ∨
      ∃ waits rolling, t = waits ++ rolling ∧ Waits settings members waits (.ok ()) ∧
        (replaceMembers c settings revision members).Run rolling r := by
  rcases Procedure.run_bind.mp h with ⟨e, h₁, rfl⟩ | ⟨waits, rolling, _, rfl, h₁, h₂⟩
  · exact .inl ⟨e, rfl, run_forEach.mp h₁⟩
  · exact .inr ⟨waits, rolling, rfl, run_forEach.mp h₁, h₂⟩

/-- Every look at a pod came back, and never with a copy that is vouched for. -/
def StaysUnhealthy (name : String) (t : Trace) : Prop :=
  ∀ answer : Except Error (Option Pod), (⟨.get .pod name, answer⟩ : Event) ∈ t →
    ∃ copy, answer = .ok copy ∧ copy.any Pod.isHealthy = false

theorem StaysUnhealthy.not_vouched {name : String} (h : StaysUnhealthy name t) :
    ¬ Vouched name t := by
  rintro ⟨copy, hmem, hcopy⟩
  obtain ⟨copy', heq, hnot⟩ := h _ hmem
  obtain rfl := Except.ok.inj heq
  rw [Option.any_some, hcopy] at hnot
  cases hnot

/-- The first member that stays unhealthy is the last that is looked at. -/
structure Blamed (members : List Pod) (name : String) (t : Trace) : Prop where
  removals_eq : removals t = []
  first : ∃ earlier pod later, members = earlier ++ pod :: later ∧ pod.name = name ∧
    (∀ m ∈ earlier, Vouched m.name t) ∧ ∀ other ∈ visits t, ∃ m ∈ earlier ++ [pod], m.name = other

theorem blamed_of_waits {name : String} {e : Error} (h : Waits settings members t (.error e))
    (hvisited : name ∈ visits t) (hstays : StaysUnhealthy name t) :
    e = .memberUnhealthy name ∧ Blamed members name t := by
  obtain ⟨earlier, pod, later, before, own, rfl, rfl, hearlier, hlast⟩ := h.last
  have hvouched : ∀ m ∈ earlier, Vouched m.name (before ++ own) := fun m hm =>
    (Waits.vouched hearlier m hm).mono (List.subset_append_left ..)
  have hpod : Waits settings [pod] own (.error e) := inTurn_singleton.mpr hlast
  have hown : name ∈ visits own := by
    rw [visits_append, List.mem_append] at hvisited
    refine hvisited.resolve_left fun hbefore => ?_
    obtain ⟨m, hm, rfl⟩ := Waits.visits hearlier hbefore
    exact absurd (hvouched m hm) hstays.not_vouched
  obtain rfl : pod.name = name := by
    obtain ⟨m, hm, hname⟩ := hpod.visits hown
    rwa [List.mem_singleton.mp hm] at hname
  have herror : e = .memberUnhealthy pod.name := by
    rcases run_waitHealthy hlast with ⟨hr, -⟩ | ⟨-, e', he, hcause⟩
    · cases hr
    obtain rfl := Except.error.inj he
    refine hcause.resolve_right ?_
    rintro (⟨e', hmem⟩ | hnone)
    · obtain ⟨copy, heq, -⟩ := hstays _ (List.mem_append_right _ hmem)
      cases heq
    · exact absurd (hnone ▸ hown) List.not_mem_nil
  refine ⟨herror, h.removals, earlier, pod, later, rfl, rfl, hvouched, ?_⟩
  intro other hother
  rw [visits_append, List.mem_append] at hother
  rcases hother with hbefore | hown
  · obtain ⟨m, hm, rfl⟩ := Waits.visits hearlier hbefore
    exact ⟨m, List.mem_append_left _ hm, rfl⟩
  · obtain ⟨m, hm, rfl⟩ := hpod.visits hown
    exact ⟨m, List.mem_append_right _ hm, rfl⟩

/-- **A member that stays unhealthy** ends the update before any turn, and the error names it. -/
theorem blamed_of_rollMembers {name : String} {r : Except Error Unit}
    (h : (rollMembers settings c revision members).Run t r) (hvisited : name ∈ visits t)
    (hstays : StaysUnhealthy name t) :
    r = .error (.memberUnhealthy name) ∧ Blamed members name t := by
  rcases run_rollMembers h with ⟨e, rfl, hwaits⟩ | ⟨waits, rolling, rfl, hwaits, hrolling⟩
  · obtain ⟨rfl, hblamed⟩ := blamed_of_waits hwaits hvisited hstays
    exact ⟨rfl, hblamed⟩
  · obtain ⟨e, he, hname⟩ := mem_visits.mp hvisited
    obtain ⟨m, hm, rfl⟩ := (h.asks asks_rollMembers e he).visited? hname
    have hvouched := (hwaits.vouched m hm).mono (List.subset_append_left waits rolling)
    exact absurd hvouched hstays.not_vouched

/-! ### The gates -/

theorem isExempt_eq_false_iff {name : String} :
    isExempt c name = false ↔ ∀ n, ordinal? name = some n → n < c.replicas := by
  unfold isExempt
  rcases ordinal? name with _ | n <;> simp

/-- The gates that a trace has passed. The copy of the workload read last has enough ready members and a
revision to move them to. No backup was found running, and then every pod listed that is not on its
way out, by its ordinal, was vouched for after the listing. -/
structure Passed (c : Cluster) (t : Trace) : Prop where
  workload : ∃ workload revision, latestWorkload? t = some workload ∧
    c.replicas ≤ workload.readyReplicas ∧ workload.updateRevision? = some revision
  members : ∃ (backups : List Backup) (pods : List Pod) (before after : Trace),
    t = before ++ ⟨.list .backup [], .ok backups⟩ :: ⟨.list .pod c.selector, .ok pods⟩ :: after ∧
      (∀ b ∈ backups, b.isRunningFor c.name = false) ∧
      ∀ pod ∈ pods, (∀ n, ordinal? pod.name = some n → n < c.replicas) → Vouched pod.name after

theorem Passed.append {t' : Trace} (h : Passed c t)
    (ht' : ∀ e ∈ t', ∀ name, e.request ≠ .get .workload name) : Passed c (t ++ t') := by
  obtain ⟨workload, revision, hlatest, hready, hrevision⟩ := h.workload
  obtain ⟨backups, pods, before, after, rfl, hidle, hvouched⟩ := h.members
  refine ⟨⟨workload, revision, ?_, hready, hrevision⟩, backups, pods, before, after ++ t', by simp,
    hidle, fun pod hpod hin => (hvouched pod hpod hin).mono (List.subset_append_left ..)⟩
  rw [latestWorkload?_append ht', hlatest]

/-- What the gates mean for a pass, by its trace and outcome. -/
structure Gated (c : Cluster) (t : Trace) (r : Except Error Outcome) : Prop where
  /-- A pod is removed only when the gates have been passed. -/
  passed : ∀ {before after : Trace} {e : Event} {name : String}, t = before ++ e :: after →
    e.request.removed? = some name → Passed c before
  /-- A pass in which they are not passed removes no pod. -/
  barred : ¬ Passed c t → removals t = []
  /-- A running backup ends the pass. -/
  refused : ∀ {backups : List Backup} {b : Backup}, ⟨.list .backup [], .ok backups⟩ ∈ t →
    b ∈ backups → b.isRunningFor c.name = true → removals t = [] ∧ r = .error (.backupRunning c.name)
  /-- So does a member that stays unhealthy, the first one in the order of the ordinals. -/
  blamed : ∀ {before after : Trace} {backups : List Backup} {pods : List Pod} {name : String},
    t = before ++ ⟨.list .backup [], .ok backups⟩ :: ⟨.list .pod c.selector, .ok pods⟩ :: after →
      name ∈ visits after → StaysUnhealthy name after →
        removals t = [] ∧ r = .error (.memberUnhealthy name) ∧ Blamed (membersOf c pods) name after
  /-- A pod beyond the desired count is left alone. -/
  exempt : ∀ {name : String} {n : Int}, ordinal? name = some n → c.replicas ≤ n → name ∉ visits t

/-! ### Passing the gates -/

theorem isExempt_of_visit {workload : Workload} {update : Trace} {outcome : Except Error Unit}
    (h : (rollout c settings workload).Run update outcome) {name : String}
    (hname : name ∈ visits update) : isExempt c name = false := by
  have hasks : (rollout c settings workload).Asks fun q =>
      ∀ name, q.visited? = some name → isExempt c name = false := by
    refine asks_rollout (fun _ => nofun) (fun _ => nofun) fun pods q hq name hname => ?_
    obtain ⟨m, hm, rfl⟩ := hq.visited? hname
    exact (mem_membersOf.mp hm).2
  obtain ⟨e, he, hvisited⟩ := mem_visits.mp hname
  exact h.asks hasks e he name hvisited

/-- By the time that an update removes a pod, it has passed the gates for the members. -/
theorem vouched_of_removal {workload : Workload} {update before after : Trace}
    {outcome : Except Error Unit} (h : (rollout c settings workload).Run update outcome) {e : Event}
    {name : String} (ht : update = before ++ e :: after) (hname : e.request.removed? = some name) :
    ∃ (backups : List Backup) (pods : List Pod) (rest : Trace),
      before = ⟨.list .backup [], .ok backups⟩ :: ⟨.list .pod c.selector, .ok pods⟩ :: rest ∧
        backups.any (·.isRunningFor c.name) = false ∧
        ∀ pod ∈ membersOf c pods, Vouched pod.name rest := by
  subst ht
  have hremoved := mem_removals_of_event hname before after
  generalize ht : before ++ e :: after = update at h hremoved
  cases enters_of_run h with
  | deferred | unlooked | refused | unlisted => cases hremoved
  | @rolls revision backups pods rest outcome hready hrevision hidle hrun =>
    rcases run_rollMembers hrun with ⟨e', rfl, hwaits⟩ | ⟨waits, rolling, rfl, hwaits, -⟩
    · have hnil : removals (⟨.list .backup [], .ok backups⟩ ::
          ⟨.list .pod c.selector, .ok pods⟩ :: rest) = [] := hwaits.removals
      rw [hnil] at hremoved
      cases hremoved
    · have hnil : removals (⟨.list .backup [], .ok backups⟩ ::
          ⟨.list .pod c.selector, .ok pods⟩ :: waits) = [] := hwaits.removals
      have hsplit : ⟨.list .backup [], .ok backups⟩ :: ⟨.list .pod c.selector, .ok pods⟩ :: waits ++
          rolling = before ++ e :: after := ht.symm
      obtain ⟨b, rfl, -⟩ := exists_append_of_removal hnil hsplit hname
      exact ⟨backups, pods, waits ++ b, rfl, hidle, fun pod hpod =>
        (hwaits.vouched pod hpod).mono (List.subset_append_left ..)⟩

theorem RollRequest.ne_backups {q : Request} (h : RollRequest c members q) :
    q ≠ .list .backup [] := by
  rintro rfl
  cases h with
  | replace hpod h =>
    cases h with
    | wait h => cases h
  | transfer hleader h => cases h

/-- A rolling update that does anything looks for backups, first and only once. -/
theorem exists_backups_of_rollout {workload : Workload} {update : Trace}
    {outcome : Except Error Unit} (h : (rollout c settings workload).Run update outcome) :
    update = [] ∨ ∃ answer opened, update = ⟨.list .backup [], answer⟩ :: opened ∧
      ∀ e ∈ opened, e.request ≠ .list .backup [] := by
  cases enters_of_run h with
  | deferred => exact .inl rfl
  | unlooked | refused => exact .inr ⟨_, [], rfl, by simp⟩
  | unlisted => exact .inr ⟨_, _, rfl, List.forall_mem_singleton.mpr nofun⟩
  | rolls hready hrevision hidle hrun =>
    have hrest := hrun.asks (asks_rollMembers.mono fun _ h => h.ne_backups)
    exact .inr ⟨_, _, rfl, List.forall_mem_cons.mpr ⟨nofun, hrest⟩⟩

/-- An update that was told of backups goes on if none of them is running. -/
theorem opened_of_backups {workload : Workload} {backups : List Backup} {opened : Trace}
    {outcome : Except Error Unit}
    (h : (rollout c settings workload).Run (⟨.list .backup [], .ok backups⟩ :: opened) outcome) :
    if backups.any (·.isRunningFor c.name) then opened = [] ∧ outcome = .error (.backupRunning c.name)
    else (∃ e, opened = [⟨.list .pod c.selector, .error e⟩] ∧ outcome = .error e) ∨
      ∃ (pods : List Pod) (rest : Trace) (revision : String),
        opened = ⟨.list .pod c.selector, .ok pods⟩ :: rest ∧
          (rollMembers settings c revision (membersOf c pods)).Run rest outcome := by
  cases enters_of_run h with
  | refused hrunning =>
    rw [if_pos hrunning]
    exact ⟨rfl, rfl⟩
  | @unlisted _ e hidle =>
    rw [if_neg (by simp [hidle])]
    exact .inl ⟨e, rfl, rfl⟩
  | @rolls revision _ pods rest _ hready hrevision hidle hrun =>
    rw [if_neg (by simp [hidle])]
    exact .inr ⟨pods, rest, revision, rfl, hrun⟩

/-- Backups are looked for once in a pass, at the beginning of its rolling update. -/
theorem Rolls.eq_of_backups {reads update rest : Trace} {workload : Workload}
    {outcome : Except Error Unit} {r : Except Error Outcome}
    (h : Rolls c settings reads update rest workload outcome r) {before after : Trace}
    {backups : List Backup}
    (ht : reads ++ (update ++ rest) = before ++ ⟨.list .backup [], .ok backups⟩ :: after) :
    reads = before ∧ ∃ opened, update = ⟨.list .backup [], .ok backups⟩ :: opened ∧
      after = opened ++ rest := by
  have hreads : (⟨.list .backup [], .ok backups⟩ : Event) ∉ reads := fun hmem => h.leaves _ hmem
  have hrest : (⟨.list .backup [], .ok backups⟩ : Event) ∉ rest := fun hmem => h.isBeside _ hmem
  have hmem : (⟨.list .backup [], .ok backups⟩ : Event) ∈ reads ++ (update ++ rest) := by
    rw [ht]
    simp
  rcases exists_backups_of_rollout h.run with rfl | ⟨answer, opened, rfl, hopened⟩
  · rw [List.nil_append, List.mem_append] at hmem
    exact absurd hmem (by simp [hreads, hrest])
  · have hafter : (⟨.list .backup [], .ok backups⟩ : Event) ∉ opened ++ rest := fun hmem =>
      (List.mem_append.mp hmem).elim (fun hmem => hopened _ hmem rfl) hrest
    obtain ⟨rfl, heq, rfl⟩ := (List.append_cons_inj_of_notMem hreads hafter).mp ht
    exact ⟨rfl, opened, by rw [heq], rfl⟩

/-! ### The gates of a pass -/

variable {reads update rest : Trace} {workload : Workload} {outcome : Except Error Unit}
  {r : Except Error Outcome}

theorem gated_of_leavesMembers (h : ∀ e ∈ t, e.request.LeavesMembers) : Gated c t r := by
  have hvisits : visits t = [] := visits_eq_nil fun e he => (h e he).visited?
  have hremovals : removals t = [] := removals_of_leavesMembers h
  have hbackups : ∀ backups : List Backup, (⟨.list .backup [], .ok backups⟩ : Event) ∉ t :=
    fun backups hmem => h _ hmem
  refine ⟨?_, fun _ => hremovals, fun hmem => absurd hmem (hbackups _), ?_, ?_⟩
  · rintro before after e name rfl hname
    have hmem := mem_removals_of_event hname before after
    rw [hremovals] at hmem
    cases hmem
  · rintro before after backups pods name rfl
    exact absurd (by simp) (hbackups backups)
  · intro name n _ _ hname
    rw [hvisits] at hname
    cases hname

/-- When a pod is removed, the gates have been passed, and the workload is not looked at from then on. -/
theorem Rolls.passed (h : Rolls c settings reads update rest workload outcome r)
    {before after : Trace} {e : Event} {name : String}
    (ht : reads ++ (update ++ rest) = before ++ e :: after)
    (hname : e.request.removed? = some name) :
    Passed c before ∧ ∀ e' ∈ e :: after, ∀ name, e'.request ≠ .get .workload name := by
  have hrest : removals rest = [] :=
    removals_of_leavesMembers fun e he => (h.isBeside e he).leavesMembers
  obtain ⟨b, rfl, hb⟩ := exists_append_of_removal (removals_of_leavesMembers h.leaves) ht hname
  obtain ⟨a, hupdate, rfl⟩ := exists_append_of_removal_left hrest hb hname
  obtain ⟨backups, pods, opened, rfl, hidle, hvouched⟩ := vouched_of_removal h.run hupdate hname
  have hremoved : removals update ≠ [] :=
    List.ne_nil_of_mem (hupdate ▸ mem_removals_of_event hname _ a)
  obtain ⟨hready, revision, hrevision⟩ := ready_of_rollout h.run hremoved
  have hlatest := h.latest (hupdate ▸ List.prefix_append ..)
  have hmembers : ∀ pod ∈ pods, (∀ n, ordinal? pod.name = some n → n < c.replicas) →
      Vouched pod.name opened := fun pod hpod hin =>
    hvouched pod (mem_membersOf.mpr ⟨hpod, isExempt_eq_false_iff.mpr hin⟩)
  have hbackups : ∀ b ∈ backups, b.isRunningFor c.name = false := by simpa using hidle
  refine ⟨⟨⟨workload, revision, hlatest, hready, hrevision⟩,
    ⟨backups, pods, reads, opened, rfl, hbackups, hmembers⟩⟩, ?_⟩
  have hrun := ne_get_workload_of_rollout h.run
  intro e' he' name' heq
  rcases List.mem_append.mp (show e' ∈ (e :: a) ++ rest from he') with hmem | hmem
  · exact hrun e' (hupdate ▸ List.mem_append_right _ hmem) name' heq
  · have hbeside := h.isBeside e' hmem
    rw [heq] at hbeside
    exact hbeside

theorem Rolls.gated (h : Rolls c settings reads update rest workload outcome r) :
    Gated c (reads ++ (update ++ rest)) r := by
  have hfails : ∀ {e : Error}, outcome = .error e → e ≠ .ownerDeleted → rest = [] ∧ r = .error e := by
    intro e he hne
    obtain ⟨hrest, hr⟩ := h.fails e he
    exact ⟨hrest, hr.resolve_right fun hdeleted => hne hdeleted.1⟩
  have hvisits : visits (reads ++ (update ++ rest)) = visits update := by
    have hreads : visits reads = [] := visits_eq_nil fun e he => (h.leaves e he).visited?
    have hrest : visits rest = [] :=
      visits_eq_nil fun e he => (h.isBeside e he).leavesMembers.visited?
    rw [visits_append, visits_append, hreads, hrest, List.nil_append, List.append_nil]
  refine ⟨fun ht hname => (h.passed ht hname).1, ?_, ?_, ?_, ?_⟩
  · intro hnot
    refine List.eq_nil_iff_forall_not_mem.mpr fun name hname => ?_
    obtain ⟨e, he, hremoved⟩ := mem_removals.mp hname
    obtain ⟨before, after, ht⟩ := List.append_of_mem he
    obtain ⟨hpassed, hlater⟩ := h.passed ht hremoved
    exact hnot (ht ▸ hpassed.append hlater)
  · intro backups b hmem hb hrunning
    obtain ⟨before, after, ht⟩ := List.append_of_mem hmem
    obtain ⟨rfl, opened, hupdate, rfl⟩ := h.eq_of_backups ht
    have hopened := opened_of_backups (hupdate ▸ h.run)
    rw [if_pos (List.any_eq_true.mpr ⟨b, hb, hrunning⟩)] at hopened
    obtain ⟨rfl, rfl⟩ := hopened
    rw [h.removals_eq, hupdate]
    exact ⟨rfl, (hfails rfl nofun).2⟩
  · intro before after backups pods name ht hvisited hstays
    obtain ⟨rfl, opened, hupdate, hopened⟩ := h.eq_of_backups ht
    have hways := opened_of_backups (hupdate ▸ h.run)
    split at hways
    · -- The update would be over before the pods were listed.
      obtain ⟨rfl, rfl⟩ := hways
      rw [(hfails rfl nofun).1] at hopened
      cases hopened
    · rcases hways with ⟨e, rfl, -⟩ | ⟨pods', waits, revision, rfl, hrun⟩
      · cases hopened
      · rw [List.cons_append] at hopened
        obtain ⟨heq, rfl⟩ := List.cons.inj hopened
        obtain rfl : pods = pods' := by simpa using heq
        have hrest : visits rest = [] :=
          visits_eq_nil fun e he => (h.isBeside e he).leavesMembers.visited?
        rw [visits_append, hrest, List.append_nil] at hvisited
        obtain ⟨rfl, hblamed⟩ := blamed_of_rollMembers hrun hvisited fun answer hmem =>
          hstays answer (List.mem_append_left _ hmem)
        obtain ⟨rfl, hr⟩ := hfails rfl nofun
        rw [h.removals_eq, hupdate, List.append_nil]
        exact ⟨hblamed.removals_eq, hr, hblamed⟩
  · intro name n hordinal hle hname
    rw [hvisits] at hname
    have hin := isExempt_eq_false_iff.mp (isExempt_of_visit h.run hname) n hordinal
    omega

/-- **The gates of a pass**, whatever is answered. -/
theorem sync_gated (h : (sync c settings).Run t r) : Gated c t r := by
  rcases rolls_of_sync h with hleaves | ⟨reads, update, rest, workload, outcome, rfl, hrolls⟩
  · exact gated_of_leavesMembers hleaves
  · exact hrolls.gated

/-- A pass that changes the workload of the group of two passes the gates and moves both members. -/
theorem changed_gated :
    removals (shownTrace changedCopies) = ["sample-mysql-1", "sample-mysql-0"] ∧
      Gated groupCluster (shownTrace changedCopies) (.ok .updated) :=
  ⟨outcome_of_changedCopies.2, sync_gated run_changedCopies⟩

end Topology

end RaftMysql
