import RaftMysql.Proofs.Topology.Basis
import RaftMysql.Proofs.Topology.Interruption

/-!
# Changes that are refused

When the platform turns a change of the workload away, a pass has one thing to go on with: growth of
storage, if the change was refused for its content and asks for strictly more storage than the live
workload does (`GrowthRefused`). Otherwise it ends there, with the error that it got, and asks for
nothing more. The other way round, nothing but such a refusal lets a pass remove the workload or write
a claim. `Topology.sync_refused` says both of a whole pass.
-/

namespace RaftMysql

/-- The platform turned a change away for its content: with the code 422 or the reason "Invalid". -/
def Error.IsInvalidation (e : Error) : Prop :=
  ∃ code reason message, e = .refused code reason message ∧ (code = 422 ∨ reason = "Invalid")

theorem Error.isInvalid_iff {e : Error} : e.isInvalid = true ↔ e.IsInvalidation := by
  unfold IsInvalidation
  cases e <;> simp [isInvalid]

namespace Workload

/-- Both workloads ask for storage for the data, in amounts that can be read, and the second one for
strictly more. -/
def AsksForMore (live desired : Workload) : Prop :=
  ∃ old new a b, live.requestedStorage? = some old ∧ desired.requestedStorage? = some new ∧
    Quantity.read? old = some a ∧ Quantity.read? new = some b ∧ a < b

end Workload

/-- A change was refused that can be made by growing the storage. -/
def GrowthRefused (e : Error) (live desired : Workload) : Prop :=
  e.IsInvalidation ∧ live.AsksForMore desired

/-- The request neither changes nor removes a workload and writes no claim. -/
def Request.StandsApart : Request → Prop
  | .replace .workload _ | .delete .workload .. | .replace .claim _ => False
  | _ => True

theorem Request.OnlyPods.standsApart {q : Request} (h : q.OnlyPods) : q.StandsApart := by
  match q, h with
  | .create _ _, rfl | .replace _ _, rfl | .replaceStatus _ _, rfl | .delete .., rfl => trivial
  | .serves _, _ | .get .., _ | .list .., _ | .agent .., _ | .connect _, _ | .query .., _
  | .execute .., _ | .now, _ | .clock, _ | .sleep _, _ | .startHandoff _, _ | .stopHandoff _, _
  | .inHandoff _, _ | .record _, _ | .publish _, _ => trivial

/-- The request removes a workload or writes a claim. -/
def Request.ReachesStorage : Request → Prop
  | .delete .workload .. | .replace .claim _ => True
  | _ => False

theorem Request.ReachesStorage.not_standsApart {q : Request} (h : q.ReachesStorage) :
    ¬ q.StandsApart := by
  unfold ReachesStorage at h
  split at h <;> first | exact id | exact h.elim

namespace Topology

variable {c : Cluster} {settings : Settings} {t : Trace} {r : Except Error Outcome}

theorem grows_iff {live desired : Workload} :
    grows live desired = true ↔ live.AsksForMore desired := by
  unfold grows Workload.AsksForMore
  constructor
  · intro h
    split at h
    · rename_i new old hnew hold
      obtain ⟨a, b, ha, hb, hlt⟩ := Quantity.isLarger_iff.mp h
      exact ⟨old, new, a, b, hold, hnew, ha, hb, hlt⟩
    · cases h
  · rintro ⟨old, new, a, b, hold, hnew, ha, hb, hlt⟩
    rw [hold, hnew]
    exact Quantity.isLarger_iff.mpr ⟨a, b, ha, hb, hlt⟩

theorem growthRefused_iff {e : Error} {live desired : Workload} :
    GrowthRefused e live desired ↔ (e.isInvalid && grows live desired) = true := by
  rw [Bool.and_eq_true, Error.isInvalid_iff, grows_iff]
  rfl

/-! ### A change that is turned away -/

theorem run_change_of_refused {live desired merged : Workload} {e : Error}
    (h : (change c settings live desired merged).Run (⟨.replace .workload merged, .error e⟩ :: t) r)
    (hno : ¬ GrowthRefused e live desired) : t = [] ∧ r = .error e := by
  obtain ⟨t₁, t₂, answer, ht, h₁, h₂⟩ := Procedure.run_step_bind.mp h
  obtain rfl := Program.run_request.mp h₁
  obtain ⟨hhead, rfl⟩ := List.cons.inj ht
  obtain rfl : Except.error e = answer := by simpa using hhead
  change (afterRefusal c settings e live desired).Run t r at h₂
  unfold afterRefusal at h₂
  rw [if_neg fun h => hno (growthRefused_iff.mpr h)] at h₂
  exact Procedure.run_throw.mp h₂

/-! ### A whole pass -/

theorem standsApart_keep {live : Workload} : (keep c settings live).Asks Request.StandsApart :=
  onlyPods_keep.mono fun _ h => h.standsApart

theorem standsApart_proceed : (proceed c settings).Asks Request.StandsApart :=
  asks_proceed (fun _ h => h.standsApart) fun _ => trivial

/-- A pass reaches for no workload and no claim except after a change that was refused, and then only
if it was refused for growth. -/
theorem refused_of_settles (h : Settles c settings t r) :
    (∀ ev ∈ t, ev.request.StandsApart) ∨
      (∃ live merged stored rest,
        Manifest.overlay? .workload live (Workload.desired c) = some (merged, true) ∧
        t = found c live :: ⟨.replace .workload merged, .ok stored⟩ :: rest ∧
        ∀ ev ∈ rest, ev.request.StandsApart) ∨
      ∃ live merged e rest, t = found c live :: ⟨.replace .workload merged, .error e⟩ :: rest ∧
        (∀ ev ∈ rest, ∀ w, ev.request ≠ .replace .workload w) ∧
        (GrowthRefused e live (Workload.desired c) ∨ rest = [] ∧ r = .error e) := by
  cases h with
  | going | unread | absent | malformed => exact .inl (by simp [Request.StandsApart])
  | kept h hrun =>
    exact .inl (List.forall_mem_cons.mpr ⟨trivial, hrun.asks standsApart_keep⟩)
  | changed h hrun => exact .inr (.inl ⟨_, _, _, _, h, rfl, hrun.asks standsApart_proceed⟩)
  | refused h hno => exact .inr (.inr ⟨_, _, _, [], rfl, by simp, .inr ⟨rfl, rfl⟩⟩)
  | grown h hinvalid hgrows hrun =>
    have hgrow : ∀ q, GrowRequest c q → ∀ w, q ≠ .replace .workload w := by
      rintro q hq w rfl
      cases hq with
      | wait hq => cases hq
    refine .inr (.inr ⟨_, _, _, _, rfl, hrun.asks (asks_grow.mono hgrow), .inl ?_⟩)
    exact ⟨Error.isInvalid_iff.mp hinvalid, grows_iff.mp hgrows⟩

/-- The refused change is the second event of its pass. -/
theorem eq_of_mem_refused {live merged merged' : Workload} {e e' : Error} {rest : Trace}
    (hrest : ∀ ev ∈ rest, ∀ w, ev.request ≠ .replace .workload w)
    (h : ⟨.replace .workload merged', .error e'⟩ ∈
      found c live :: ⟨.replace .workload merged, .error e⟩ :: rest) : merged' = merged ∧ e' = e := by
  have h := (List.mem_cons.mp h).resolve_left (by simp [found])
  rcases List.mem_cons.mp h with heq | h
  · simpa using heq
  · exact absurd rfl (hrest _ h merged')

/-- What reaches for storage comes after the look at the workload and the change that was refused. -/
theorem before_of_reaches {live merged : Workload} {e : Error} {rest before after : Trace}
    {ev : Event} (hev : ev.request.ReachesStorage)
    (h : found c live :: ⟨.replace .workload merged, .error e⟩ :: rest = before ++ ev :: after) :
    rest ≠ [] ∧ ∃ between, before = found c live :: ⟨.replace .workload merged, .error e⟩ :: between := by
  match before with
  | [] =>
    obtain ⟨rfl, -⟩ := List.cons.inj h
    exact hev.elim
  | [_] =>
    obtain ⟨-, htail⟩ := List.cons.inj h
    obtain ⟨rfl, -⟩ := List.cons.inj htail
    exact hev.elim
  | first :: second :: between =>
    obtain ⟨rfl, htail⟩ := List.cons.inj h
    obtain ⟨rfl, rfl⟩ := List.cons.inj htail
    exact ⟨by simp, between, rfl⟩

/-- **Changes that are refused.** A change of any workload that is refused for anything but growth of
storage ends with the error that it was refused with, and nothing is asked for after it. So does the
whole pass, in which there is nothing before it but the look at the workload. The other way round,
whatever removes the workload or writes a claim in a pass comes after a change that was refused for
growth. -/
theorem sync_refused (hrun : (sync c settings).Run t r) :
    (∀ (live desired merged : Workload) (e : Error) (rest : Trace) (r' : Except Error Outcome),
      (change c settings live desired merged).Run (⟨.replace .workload merged, .error e⟩ :: rest) r' →
        ¬ GrowthRefused e live desired → rest = [] ∧ r' = .error e) ∧
    (∀ (merged : Workload) (e : Error), ⟨.replace .workload merged, .error e⟩ ∈ t → e ≠ .ownerDeleted →
      ∃ live rest, t = found c live :: ⟨.replace .workload merged, .error e⟩ :: rest ∧
        (¬ GrowthRefused e live (Workload.desired c) → rest = [] ∧ r = .error e)) ∧
    ∀ before ev after, t = before ++ ev :: after → ev.request.ReachesStorage →
      ∃ live merged e rest, before = found c live :: ⟨.replace .workload merged, .error e⟩ :: rest ∧
        GrowthRefused e live (Workload.desired c) := by
  obtain ⟨r', hsettles, hr⟩ := run_sync hrun
  refine ⟨fun live desired merged e rest r' h hno => run_change_of_refused h hno,
    fun merged e hmem hne => ?_, fun before ev after ht hev => ?_⟩
  · rcases refused_of_settles hsettles with
      hapart | ⟨live, merged', stored, rest, -, rfl, hapart⟩ | ⟨live, merged', e', rest, rfl, hrest, hend⟩
    · exact (hapart _ hmem).elim
    · have hmem := (List.mem_cons.mp hmem).resolve_left (by simp [found])
      exact (hapart _ ((List.mem_cons.mp hmem).resolve_left (by simp))).elim
    · obtain ⟨rfl, rfl⟩ := eq_of_mem_refused hrest hmem
      refine ⟨live, rest, rfl, fun hno => ?_⟩
      obtain ⟨rfl, rfl⟩ := hend.resolve_left hno
      refine ⟨rfl, ?_⟩
      rcases hr with rfl | ⟨howner, -⟩
      · rfl
      · exact absurd (Except.error.inj howner) hne
  · have hmem : ev ∈ t := by simp [ht]
    rcases refused_of_settles hsettles with
      hapart | ⟨live, merged, stored, rest, -, rfl, hapart⟩ | ⟨live, merged, e, rest, rfl, -, hend⟩
    · exact absurd (hapart ev hmem) hev.not_standsApart
    · rcases List.mem_cons.mp hmem with rfl | hmem
      · exact hev.elim
      rcases List.mem_cons.mp hmem with rfl | hmem
      · exact hev.elim
      · exact absurd (hapart ev hmem) hev.not_standsApart
    · obtain ⟨hne, between, rfl⟩ := before_of_reaches hev ht
      exact ⟨live, merged, e, between, rfl, hend.resolve_right fun h => hne h.1⟩

/-! ### A change that asks for less -/

/-- What the platform holds when the group of two is to have less storage than it has. -/
def roomyShelf : Shelf where
  workload := some (Workload.desired grownCluster)
  claims := []

/-- The trace of a pass over the group. -/
def shrinkingTrace : Trace := (sync groupCluster {}).outcome.traceOf shelfAnswer roomyShelf

/-- The error with which a change of the workload was refused, if an event is that. -/
def refusal? : Event → Option Error
  | ⟨.replace .workload _, answer⟩ =>
    match (answer : Except Error Workload) with
    | .ok _ => none
    | .error e => some e
  | _ => none

theorem exists_of_refusal? {ev : Event} {e : Error} (h : refusal? ev = some e) :
    ∃ merged, ev = ⟨.replace .workload merged, .error e⟩ := by
  unfold refusal? at h
  split at h
  · split at h
    · cases h
    · obtain rfl := Option.some.inj h
      exact ⟨_, rfl⟩
  · cases h

theorem shrinkingTrace_eq :
    shrinkingTrace.filterMap refusal? = [.refused 422 "Invalid" "immutable"] ∧
      (shrinkingTrace.filterMap Event.workload?).map (·.requestedStorage?) = [some "20Gi"] ∧
      (Workload.desired groupCluster).requestedStorage? = some "10Gi" ∧
      Quantity.isLarger "10Gi" "20Gi" = false := by
  decide +kernel

/-- The smaller storage is refused and the pass ends there, while the pass that is refused more storage
removes the workload after that. -/
theorem shrinking_refused :
    (∃ live merged, shrinkingTrace =
      [found groupCluster live, ⟨.replace .workload merged, .error (.refused 422 "Invalid" "immutable")⟩]) ∧
    ∃ before ev after live, failedTrace = before ++ ev :: after ∧ ev.request.ReachesStorage ∧
      ∃ e, GrowthRefused e live (Workload.desired grownCluster) := by
  constructor
  · obtain ⟨hrefusals, hread, hdesired, hsmaller⟩ := shrinkingTrace_eq
    obtain ⟨ev, hev, hrefusal⟩ : ∃ ev ∈ shrinkingTrace,
        refusal? ev = some (.refused 422 "Invalid" "immutable") :=
      List.mem_filterMap.mp (by rw [hrefusals]; simp)
    obtain ⟨merged, rfl⟩ := exists_of_refusal? hrefusal
    have hrun : (sync groupCluster {}).Run shrinkingTrace _ :=
      Program.run_traceOf shelfAnswer (sync groupCluster {}).outcome roomyShelf
    obtain ⟨live, rest, ht, hend⟩ := (sync_refused hrun).2.1 merged _ hev (by simp)
    have hno : ¬ GrowthRefused (.refused 422 "Invalid" "immutable") live
        (Workload.desired groupCluster) := by
      rintro ⟨-, old, new, a, b, hold, hnew, ha, hb, hlt⟩
      have hlive : live.requestedStorage? = some "20Gi" := by
        rw [ht] at hread
        exact (List.cons.inj hread).1
      obtain rfl := Option.some.inj (hlive.symm.trans hold)
      obtain rfl := Option.some.inj (hdesired.symm.trans hnew)
      rw [Quantity.isLarger_iff.mpr ⟨a, b, ha, hb, hlt⟩] at hsmaller
      cases hsmaller
    obtain ⟨rfl, -⟩ := hend hno
    exact ⟨live, merged, ht⟩
  · obtain ⟨answer, hmem, -⟩ := exists_of_mem_orphanings two_passes.2.2.2.1
    obtain ⟨before, after, ht⟩ := List.append_of_mem hmem
    obtain ⟨live, merged, e, rest, -, hgrowth⟩ :=
      (sync_refused run_failedTrace).2.2 before _ after ht trivial
    exact ⟨before, _, after, live, ht, trivial, e, hgrowth⟩

end Topology

end RaftMysql
