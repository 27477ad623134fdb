import RaftMysql.Proofs.Json.Members
import RaftMysql.Proofs.Quantity.Order
import RaftMysql.Proofs.Topology.Expansion

/-!
# Expansions that are interrupted

An expansion removes the workload first and resizes the claims one by one. If it fails in between, the
next pass finds no workload and makes one at the new size, and from then on the workload asks for
what it should: `Topology.sync_after_interruption` says that no later pass writes a claim, so the
claims that the failed pass did not reach keep the size they had.
-/

namespace RaftMysql

/-! ### The desired size -/

namespace Workload

variable {c : Cluster}

theorem requestedStorage?_desired :
    (desired c).requestedStorage? =
      if c.spec.persistence.enabled then some c.spec.persistence.size else none := by
  have hitems : (desired c).items ["spec", "volumeClaimTemplates"] =
      if c.spec.persistence.enabled then [claimTemplate c] else [] := by
    by_cases h : c.spec.persistence.enabled = true
    · simp [desired, Manifest.items, Json.at?, Json.asList?, h]
    · simp [desired, Manifest.items, Json.at?, h]
  have hname : ((claimTemplate c).at? ["metadata", "name"]).bind Json.asText? = some dataVolume := by
    simp [claimTemplate, Metadata.toJson, Json.at?, Json.asText?]
  have hsize : ((claimTemplate c).at? Claim.requestPath).bind Json.asText? =
      some c.spec.persistence.size := by
    simp [claimTemplate, Claim.requestPath, Json.at?, Json.asText?]
  unfold requestedStorage?
  rw [hitems]
  split
  · simp [hname, hsize]
  · rfl

end Workload

namespace Topology

variable {c : Cluster} {settings : Settings} {t : Trace} {r : Except Error Outcome}
  {held : Option (Option String)}

theorem grows_eq_false {live desired : Workload}
    (h : live.requestedStorage? = desired.requestedStorage?) : grows live desired = false := by
  unfold grows
  split
  · rename_i new old hnew hold
    rw [h, hnew] at hold
    obtain rfl := Option.some.inj hold
    exact Quantity.isLarger_self new
  · rfl

/-! ### The failed pass -/

/-- What an interrupted expansion has done: of the claims in its listing it has written some, in their
order, and all of them if it came to making the new workload. -/
structure Interrupted (c : Cluster) (t : Trace) (size : String) (listed : List Claim) : Prop where
  size_eq : (Workload.desired c).requestedStorage? = some size
  listed_mem : listed = [] ∨ ⟨.list .claim c.selector, .ok listed⟩ ∈ t
  writes_prefix : claimWrites t <+: (growing listed).map (·.resized size c.owner?)
  writes_eq : ∀ (workload : Workload) (made : Except Error Workload),
    ⟨.create .workload workload, made⟩ ∈ t →
      claimWrites t = (growing listed).map (·.resized size c.owner?)

/-- Only an expansion removes the workload. -/
theorem grown_of_removed {answer : Except Error Unit} (h : Settles c settings t r)
    (hremoved : ⟨.delete .workload c.workloadName .orphan, answer⟩ ∈ t) :
    ∃ live merged e rest, t = ⟨.get .workload c.workloadName, .ok (some live)⟩ ::
        ⟨.replace .workload merged, .error e⟩ :: rest ∧
      (grow c settings (Workload.desired c)).Run rest r := by
  have hsteady : ∀ {rest : Trace}, (∀ e ∈ rest, e.request.IsSteady) →
      ⟨.delete .workload c.workloadName .orphan, answer⟩ ∉ rest := by
    intro rest hrest hmem
    exact (hrest _ hmem).1
  cases h with
  | going | unread | absent | malformed | refused => simp at hremoved
  | kept h hrun =>
    have hmem := (List.mem_cons.mp hremoved).resolve_left (by simp)
    exact absurd hmem (hsteady (hrun.asks steady_keep))
  | changed h hrun =>
    have hmem := (List.mem_cons.mp hremoved).resolve_left (by simp)
    have hmem := (List.mem_cons.mp hmem).resolve_left (by simp)
    exact absurd hmem (hsteady (hrun.asks steady_proceed))
  | grown h hinvalid hgrows hrun => exact ⟨_, _, _, _, rfl, hrun⟩

theorem exists_error_of_grow {desired : Workload} (h : (grow c settings desired).Run t r)
    (hr : r ≠ .ok .expanded) :
    ∃ e, Expands c settings.storage.resizeWait desired t (.error e) := by
  rcases Procedure.run_bind.mp h with ⟨e, h₁, -⟩ | ⟨t₁, t₂, _, rfl, h₁, h₂⟩
  · exact ⟨e, run_expand h₁⟩
  · obtain ⟨t₃, t₄, _, rfl, -, h₄⟩ := Procedure.run_step_bind.mp h₂
    exact absurd (Procedure.run_pure.mp h₄).2 hr

theorem interrupted_of_expands {rest : Trace} {e : Error} {answer : Except Error Unit}
    (h : Expands c settings.storage.resizeWait (Workload.desired c) rest (.error e))
    (hremoved : ⟨.delete .workload c.workloadName .orphan, answer⟩ ∈ rest)
    (hgone : isGone answer = true) :
    (∃ size listed, Interrupted c rest size listed) ∧
      ∀ held, (Workload.record c.workloadName).afterAll held rest = none := by
  have hafter : ∀ {answer : Except Error Unit} {more : Trace}, isGone answer = true →
      (∀ e ∈ more, e.request.LeavesWorkload) → ∀ held,
        (Workload.record c.workloadName).afterAll held
          (⟨.delete .workload c.workloadName .orphan, answer⟩ :: more) = none := by
    intro answer more h hmore held
    have hhead : (Workload.record c.workloadName).after held
        ⟨.delete .workload c.workloadName .orphan, answer⟩ = none := if_pos ⟨h, rfl⟩
    show (Workload.record c.workloadName).afterAll ((Workload.record c.workloadName).after held
      ⟨.delete .workload c.workloadName .orphan, answer⟩) more = none
    rw [hhead, Workload.record_afterAll hmore]
  generalize hr : Except.error e = r at h
  cases h with
  | sizeless => cases hremoved
  | @standing size e' hsize hfound =>
    have heq : answer = .error e' := by simpa using hremoved
    rw [heq] at hgone
    exact absurd hgone (by simp [isGone, hfound])
  | @unlisted size answer' e' hsize h =>
    have hmore : ∀ e ∈ ([⟨.list .claim c.selector, .error e'⟩] : Trace), e.request.LeavesWorkload := by
      simp [Request.LeavesWorkload]
    exact ⟨⟨size, [], hsize, .inl rfl, List.nil_prefix, by simp⟩, hafter h hmore⟩
  | @unresized answer' claims size rest e' hsize h hrun =>
    obtain ⟨hleaves, hprefix, -⟩ := run_resizeClaims hrun
    have hmore : ∀ e ∈ (⟨.list .claim c.selector, .ok claims⟩ :: rest : Trace),
        e.request.LeavesWorkload := List.forall_mem_cons.mpr ⟨trivial, hleaves⟩
    refine ⟨⟨size, claims, hsize, .inr (by simp), hprefix, fun w made hmade => ?_⟩, hafter h hmore⟩
    have hmem := (List.mem_cons.mp hmade).resolve_left (by simp)
    exact absurd (hmore _ hmem) id
  | @remade answer' claims size rest made hsize h hrun =>
    obtain ⟨hleaves, -, hall⟩ := run_resizeClaims hrun
    have hwrites : claimWrites (⟨.delete .workload c.workloadName .orphan, answer'⟩ ::
        ⟨.list .claim c.selector, .ok claims⟩ ::
          (rest ++ [⟨.create .workload (Workload.desired c).fresh, made⟩])) =
        (growing claims).map (·.resized size c.owner?) := by
      have hrest : claimWrites (rest ++ [⟨.create .workload (Workload.desired c).fresh, made⟩]) =
          (growing claims).map (·.resized size c.owner?) := by
        rw [claimWrites_append, hall rfl]
        exact List.append_nil _
      exact hrest
    refine ⟨⟨size, claims, hsize, .inr (by simp), hwrites ▸ List.prefix_refl _,
      fun _ _ _ => hwrites⟩, fun held => ?_⟩
    cases made with
    | ok w => cases hr
    | error e' =>
      have hmore : ∀ e ∈ (⟨.list .claim c.selector, .ok claims⟩ :: rest : Trace),
          e.request.LeavesWorkload := List.forall_mem_cons.mpr ⟨trivial, hleaves⟩
      have hsplit := Record.afterAll_append (R := Workload.record c.workloadName) (s := held)
        (⟨.delete .workload c.workloadName .orphan, answer'⟩ ::
          ⟨.list .claim c.selector, .ok claims⟩ :: rest)
        [⟨.create .workload (Workload.desired c).fresh, .error e'⟩]
      rw [hafter h hmore held] at hsplit
      exact hsplit

/-- **An expansion that fails** after the workload was removed is interrupted, and leaves none. -/
theorem interrupted_of_sync {answer : Except Error Unit} (hrun : (sync c settings).Run t r)
    (hremoved : ⟨.delete .workload c.workloadName .orphan, answer⟩ ∈ t)
    (hgone : isGone answer = true) (hr : r ≠ .ok .expanded) :
    (∃ size listed, Interrupted c t size listed) ∧
      ∀ held, (Workload.record c.workloadName).afterAll held t = none := by
  obtain ⟨r', hsettles, hr'⟩ := run_sync hrun
  obtain ⟨live, merged, e, rest, rfl, hgrow⟩ := grown_of_removed hsettles hremoved
  have hfail : r' ≠ .ok .expanded := by
    rintro rfl
    rcases hr' with rfl | ⟨he, -⟩
    · exact hr rfl
    · cases he
  obtain ⟨e', hexpands⟩ := exists_error_of_grow hgrow hfail
  have hmem := (List.mem_cons.mp hremoved).resolve_left (by simp)
  have hmem := (List.mem_cons.mp hmem).resolve_left (by simp)
  obtain ⟨⟨size, listed, h⟩, hafter⟩ := interrupted_of_expands hexpands hmem hgone
  refine ⟨⟨size, listed, h.size_eq, ?_, h.writes_prefix, fun w made hmade => ?_⟩, hafter⟩
  · exact h.listed_mem.imp_right fun hlisted => by simp [hlisted]
  · have hmade := (List.mem_cons.mp hmade).resolve_left (by simp)
    exact h.writes_eq w made ((List.mem_cons.mp hmade).resolve_left (by simp))

/-! ### The passes that follow -/

/-- Passes over the cluster, one after the other, with the outcome of each. Between them anything but
its name and its spec may change. -/
inductive Passes (c : Cluster) (settings : Settings) : Trace → List (Except Error Outcome) → Prop
  | nil : Passes c settings [] []
  | cons {c' : Cluster} {t later : Trace} {r : Except Error Outcome}
    {rs : List (Except Error Outcome)} (hname : c'.workloadName = c.workloadName)
    (hspec : c'.spec = c.spec) (h : (sync c' settings).Run t r) (hs : Passes c settings later rs) :
    Passes c settings (t ++ later) (r :: rs)

/-- The platform holds no workload of the cluster, or one that asks for the desired size. -/
def IsSized (c : Cluster) (held : Option (Option String)) : Prop :=
  held = none ∨ held = some (Workload.desired c).requestedStorage?

theorem isSized_of_made {made : Except Error Workload} (h : IsSized c held) :
    IsSized c ((Workload.record c.workloadName).after held
      ⟨.create .workload (Workload.desired c), made⟩) := by
  match made with
  | .ok stored => exact .inr (if_pos rfl)
  | .error e => exact h

/-- A platform that answers from what it holds shows no workload of another size. -/
theorem requestedStorage?_of_agrees {live : Workload} (h : IsSized c held)
    (hagrees : (Workload.record c.workloadName).agrees held
      ⟨.get .workload c.workloadName, .ok (some live)⟩ = true) :
    live.requestedStorage? = (Workload.desired c).requestedStorage? := by
  have heq : some live.requestedStorage? = held := by simpa [Workload.record] using hagrees
  rcases h with rfl | rfl
  · cases heq
  · exact Option.some.inj heq

/-- **A pass over a workload of the desired size** writes no claim and leaves such a workload. -/
theorem sync_of_isSized (hsized : IsSized c held) (hrun : (sync c settings).Run t r)
    (htrue : (Workload.record c.workloadName).Answers held t) :
    IsSized c ((Workload.record c.workloadName).afterAll held t) ∧ claimWrites t = [] ∧
      r ≠ .ok .expanded := by
  obtain ⟨r', hsettles, hr'⟩ := run_sync hrun
  have houtcome : r' ≠ .ok .expanded → r ≠ .ok .expanded := by
    rintro h rfl
    rcases hr' with rfl | ⟨-, hskipped⟩
    · exact h rfl
    · cases hskipped
  have hsteady : (∀ e ∈ t, e.request.IsSteady) → r' ≠ .ok .expanded →
      IsSized c ((Workload.record c.workloadName).afterAll held t) ∧ claimWrites t = [] ∧
        r ≠ .ok .expanded := by
    intro h hr
    rw [Workload.record_afterAll fun e he => (h e he).1]
    exact ⟨hsized, claimWrites_eq_nil fun e he => (h e he).2, houtcome hr⟩
  cases hsettles with
  | going => exact hsteady (by simp) (by simp)
  | unread => exact hsteady (List.forall_mem_singleton.mpr ⟨trivial, trivial⟩) (by simp)
  | malformed => exact hsteady (List.forall_mem_singleton.mpr ⟨trivial, trivial⟩) (by simp)
  | refused =>
    exact hsteady (List.forall_mem_cons.mpr ⟨⟨trivial, trivial⟩,
      List.forall_mem_singleton.mpr ⟨trivial, trivial⟩⟩) (by simp)
  | @absent made =>
    refine ⟨isSized_of_made hsized, rfl, houtcome ?_⟩
    cases made <;> simp [Except.map]
  | kept h hrun' =>
    refine hsteady (List.forall_mem_cons.mpr ⟨⟨trivial, trivial⟩, hrun'.asks steady_keep⟩) ?_
    rintro rfl
    cases eq_unchanged_of_keep hrun'
  | changed h hrun' =>
    refine hsteady (List.forall_mem_cons.mpr ⟨⟨trivial, trivial⟩,
      List.forall_mem_cons.mpr ⟨⟨trivial, trivial⟩, hrun'.asks steady_proceed⟩⟩) ?_
    rintro rfl
    cases eq_updated_of_proceed hrun'
  | grown h hinvalid hgrows hrun' =>
    rw [grows_eq_false (requestedStorage?_of_agrees hsized htrue.1)] at hgrows
    cases hgrows

theorem passes_of_isSized {later : Trace} {rs : List (Except Error Outcome)}
    (hpasses : Passes c settings later rs) (hsized : IsSized c held)
    (htrue : (Workload.record c.workloadName).Answers held later) :
    claimWrites later = [] ∧ .ok .expanded ∉ rs := by
  induction hpasses generalizing held with
  | nil => exact ⟨rfl, by simp⟩
  | @cons c' t later r rs hname hspec h hs ih =>
    have hsame : IsSized c' = IsSized c := by
      unfold IsSized
      rw [Workload.requestedStorage?_desired, Workload.requestedStorage?_desired, hspec]
    obtain ⟨htrue₁, htrue₂⟩ := Record.answers_append.mp htrue
    rw [← hname] at htrue₁
    obtain ⟨hsized', hwrites, hr⟩ := sync_of_isSized (hsame ▸ hsized) h htrue₁
    rw [hsame, hname] at hsized'
    obtain ⟨hwrites', hrs⟩ := ih hsized' htrue₂
    refine ⟨by rw [claimWrites_append, hwrites, hwrites', List.append_nil], ?_⟩
    rw [List.mem_cons, not_or]
    exact ⟨fun heq => hr heq.symm, hrs⟩

/-- **What becomes of an interrupted expansion**: whatever passes follow over the same spec, on a
platform that answers from what it holds of the workload, no claim is written any more and none of
them is taken for an expansion. -/
theorem sync_after_interruption {later : Trace} {rs : List (Except Error Outcome)}
    (hrun : (sync c settings).Run t r) (hremoved : c.workloadName ∈ orphanings t)
    (hr : r ≠ .ok .expanded) (hpasses : Passes c settings later rs)
    (htrue : (Workload.record c.workloadName).Answers held (t ++ later)) :
    (∃ size listed, Interrupted c t size listed) ∧ claimWrites later = [] ∧
      .ok .expanded ∉ rs := by
  obtain ⟨answer, hmem, hgone⟩ := exists_of_mem_orphanings hremoved
  obtain ⟨hinterrupted, hafter⟩ := interrupted_of_sync hrun hmem hgone hr
  exact ⟨hinterrupted, passes_of_isSized hpasses (.inl (hafter held))
    (Record.answers_append.mp htrue).2⟩

/-! ### An expansion that is forgotten -/

/-- What a platform holds of the group of two: its workload and its claims. -/
structure Shelf where
  workload : Option Workload
  claims : List Claim

/-- What answers for the platform: it takes no change of a workload and no write of a claim. -/
def shelfAnswer : (q : Request) → Shelf → q.Answer × Shelf
  | .get .workload _, s => (.ok s.workload, s)
  | .create .workload workload, s => (.ok workload, { s with workload := some workload })
  | .delete .workload _ _, s => (.ok (), { s with workload := none })
  | .replace .workload _, s => (.error (.refused 422 "Invalid" "immutable"), s)
  | .list .claim _, s => (.ok s.claims, s)
  | .replace .claim _, s => (.error (.refused 403 "Forbidden" "quota"), s)
  | q, s => ((Simulation.Nowhere.answer q { now := ⟨0, 0⟩ }).1, s)

/-- The group of two once it asks for more storage. -/
def grownCluster : Cluster :=
  { groupCluster with spec := { groupCluster.spec with persistence := { size := "20Gi" } } }

/-- What the platform holds when that is asked for. -/
def fullShelf : Shelf where
  workload := some (Workload.desired groupCluster)
  claims := [{ metadata := { name := some "data-sample-mysql-0" }
               body := (Json.object []).setAt Claim.requestPath (.text "10Gi") }]

/-- The trace of a pass over the group. -/
def failedTrace : Trace := (sync grownCluster {}).outcome.traceOf shelfAnswer fullShelf

/-- What the platform holds after it. -/
def emptiedShelf : Shelf := (Program.run shelfAnswer (sync grownCluster {}).outcome fullShelf).2

/-- The trace of the pass after that. -/
def nextTrace : Trace := (sync grownCluster {}).outcome.traceOf shelfAnswer emptiedShelf

/-- The claims that came back with an event, if it listed claims. -/
def listing? : Event → Option (List Claim)
  | ⟨.list .claim _, answer⟩ => (answer : Except Error (List Claim)).toOption
  | _ => none

/-- How the two passes end, and what they have done. It is evaluated at once, as the second pass begins
from what the first one leaves. -/
theorem two_passes :
    (Program.run shelfAnswer (sync grownCluster {}).outcome fullShelf).1 =
        .error (.refused 403 "Forbidden" "quota") ∧
      (Program.run shelfAnswer (sync grownCluster {}).outcome emptiedShelf).1 = .ok .created ∧
      (Workload.record grownCluster.workloadName).Answers (some (some "10Gi"))
        (failedTrace ++ nextTrace) ∧
      grownCluster.workloadName ∈ orphanings failedTrace ∧
      (∃ claims ∈ failedTrace.filterMap listing?,
        ∃ claim ∈ growing claims, claim.request? = some "10Gi") ∧
      (claimWrites (failedTrace ++ nextTrace)).isEmpty = true := by
  decide +kernel

theorem run_failedTrace : (sync grownCluster {}).Run failedTrace
    (.error (.refused 403 "Forbidden" "quota")) :=
  Program.run_traceOf_of_eq shelfAnswer two_passes.1

theorem run_nextTrace : (sync grownCluster {}).Run nextTrace (.ok .created) :=
  Program.run_traceOf_of_eq shelfAnswer two_passes.2.1

/-- The pass that follows makes a workload and writes no claim. -/
theorem failed_interrupted :
    (∃ size listed, Interrupted grownCluster failedTrace size listed) ∧ claimWrites nextTrace = [] := by
  obtain ⟨-, -, htrue, hremoved, -⟩ := two_passes
  have hpasses : Passes grownCluster {} (nextTrace ++ []) [.ok .created] :=
    .cons rfl rfl run_nextTrace .nil
  rw [List.append_nil] at hpasses
  obtain ⟨hinterrupted, hwrites, -⟩ :=
    sync_after_interruption run_failedTrace hremoved (by simp) hpasses htrue
  exact ⟨hinterrupted, hwrites⟩

/-- An expansion that failed after the workload was removed is forgotten: the next pass makes the
workload at the new size and ends well, and a claim in the listing still asks for the old one. -/
theorem exists_forgotten_expansion :
    ∃ t t' e, (sync grownCluster {}).Run t (.error e) ∧ grownCluster.workloadName ∈ orphanings t ∧
      (sync grownCluster {}).Run t' (.ok .created) ∧
      (Workload.record grownCluster.workloadName).Answers (some (some "10Gi")) (t ++ t') ∧
      (Workload.desired grownCluster).requestedStorage? = some "20Gi" ∧
      (∃ claims ∈ t.filterMap listing?,
        ∃ claim ∈ growing claims, claim.request? = some "10Gi") ∧
      claimWrites (t ++ t') = [] := by
  obtain ⟨-, -, htrue, hremoved, hlisted, hwrites⟩ := two_passes
  exact ⟨failedTrace, nextTrace, _, run_failedTrace, hremoved, run_nextTrace, htrue,
    Workload.requestedStorage?_desired, hlisted, List.isEmpty_iff.mp hwrites⟩

end Topology

end RaftMysql
