import RaftMysql.Proofs.Object.InPlace
import RaftMysql.Proofs.Topology.Refusal
import RaftMysql.Proofs.Workload.Form

/-!
# Passes over a workload that stays as it was made

A change that the platform took has the desired workload in place. What the platform adds to it
afterwards, its status, its versions and what it fills in by itself, lies beside what is desired:
`Topology.Settled` says that a copy still agrees with what was written there, and that its members are up
to date. A pass over such a copy changes nothing and asks for no write (`Topology.sync_of_settled`), so the
next copy is one of that kind again, and so it goes on for every further pass
(`Topology.unchanged_once_accepted`).
-/

namespace RaftMysql

/-- The request writes to the object store. -/
def Request.Writes : Request → Prop
  | .create .. | .replace .. | .replaceStatus .. | .delete .. => True
  | _ => False

namespace Topology

variable {c : Cluster} {settings : Settings} {live merged copy : Workload} {t : Trace}
  {r : Except Error Outcome}

theorem AlignRequest.not_writes {q : Request} (h : AlignRequest c q) : ¬ q.Writes := by
  cases h <;> exact id

/-- The copy differs from what was written only in what the desired workload does not set, and its members
are up to date. It is in the form of its kind, and its doubles are numbers, as JSON writes no others. -/
structure Settled (c : Cluster) (written copy : Workload) : Prop where
  form : Kind.workload.shape.Holds (copy.toJson .workload)
  isReal : (copy.toJson .workload).IsReal
  agree : Json.Agree (written.toJson .workload) (copy.toJson .workload)
    ((Workload.desired c).toJson .workload)
  updated : (Workload.replicas? copy).getD 1 ≤ Workload.updatedReplicas copy

/-- While nothing is written, every look at the workload shows a copy that is settled. -/
def ShowsSettled (c : Cluster) (written : Workload) (t : Trace) : Prop :=
  ∀ before answer after, t = before ++ ⟨.get .workload c.workloadName, answer⟩ :: after →
    (∀ ev ∈ before, ¬ ev.request.Writes) → ∃ copy, answer = .ok (some copy) ∧ Settled c written copy

/-- Passes over a cluster that is to have the same workload all the while, one after the other, with the
outcome of each. -/
inductive Repeats (c : Cluster) : Trace → List (Except Error Outcome) → Prop
  | nil : Repeats c [] []
  | cons {c' : Cluster} {settings : Settings} {t later : Trace} {r : Except Error Outcome}
    {rs : List (Except Error Outcome)} (hdesired : Workload.desired c' = Workload.desired c)
    (hgoing : c'.isTerminating = c.isTerminating) (h : (sync c' settings).Run t r)
    (hs : Repeats c later rs) : Repeats c (t ++ later) (r :: rs)

/-! ### The pass whose change is taken -/

theorem isTerminating_of_run (h : (sync c settings).Run t r) (ht : t ≠ []) :
    c.isTerminating = false := by
  by_contra hgoing
  rw [Bool.not_eq_false] at hgoing
  obtain ⟨t₁, t₂, r', rfl, h₁, h₂⟩ := Program.run_bind.mp h
  change (settle c settings).Run t₁ r' at h₁
  unfold settle at h₁
  rw [if_pos hgoing] at h₁
  obtain ⟨rfl, rfl⟩ := Procedure.run_throw.mp h₁
  obtain ⟨rfl, -⟩ := Program.run_pure.mp h₂
  exact ht rfl

/-- A change that is taken is what comes of the desired workload laid over the one that was found. -/
theorem overlay?_of_accepted {stored : Workload} (h : Settles c settings t r)
    (hfound : t.head? = some (found c live))
    (haccepted : ⟨.replace .workload merged, .ok stored⟩ ∈ t) :
    Manifest.overlay? .workload live (Workload.desired c) = some (merged, true) := by
  rcases refused_of_settles h with hapart | ⟨live', merged', stored', rest, hoverlay, rfl, hapart⟩ |
    ⟨live', merged', e, rest, rfl, hrest, -⟩
  · exact (hapart _ haccepted).elim
  · obtain rfl : live' = live := by simpa [found] using hfound
    have hmem := (List.mem_cons.mp haccepted).resolve_left (by simp [found])
    rcases List.mem_cons.mp hmem with heq | hmem
    · obtain ⟨rfl, -⟩ : merged = merged' ∧ stored = stored' := by simpa using heq
      exact hoverlay
    · exact (hapart _ hmem).elim
  · have hmem := (List.mem_cons.mp haccepted).resolve_left (by simp [found])
    have hmem := (List.mem_cons.mp hmem).resolve_left (by simp)
    exact absurd rfl (hrest _ hmem merged)

/-- **A change that is taken** has the desired workload in place. -/
theorem inPlace_of_accepted {d : Document} {stored : Workload}
    (hspec : Spec.ofDocument? d = some c.spec)
    (hlive : Kind.workload.shape.Holds (live.toJson .workload)) (h : Settles c settings t r)
    (hfound : t.head? = some (found c live))
    (haccepted : ⟨.replace .workload merged, .ok stored⟩ ∈ t) :
    (merged.toJson .workload).InPlace ((Workload.desired c).toJson .workload) := by
  have hdesired := Workload.holds_desired (Spec.formed_of_ofDocument? hspec)
  have hkept : (Workload.desired c).metadata.toJson.member? "deletionTimestamp" = none := by
    simp [Workload.desired, Metadata.toJson]
  exact Manifest.inPlace_of_overlay? hlive hdesired hkept (overlay?_of_accepted h hfound haccepted)

/-! ### A pass over a settled copy -/

theorem run_keep_of_updated (h : (keep c settings live).Run t r)
    (hupdated : Workload.updatePending live = false) :
    r = .ok .unchanged ∧ ∀ ev ∈ t, AlignRequest c ev.request := by
  unfold keep rolloutIfPending at h
  rw [if_neg (by simp [hupdated]), pure_bind] at h
  obtain ⟨t₁, t₂, _, rfl, h₁, h₂⟩ := Procedure.run_step_bind.mp h
  obtain ⟨rfl, rfl⟩ := Procedure.run_pure.mp h₂
  refine ⟨rfl, ?_⟩
  rw [List.append_nil]
  exact h₁.asks asks_align

theorem Settled.overlay? (h : Settled c merged copy)
    (hplace : (merged.toJson .workload).InPlace ((Workload.desired c).toJson .workload)) :
    ∃ same, Manifest.overlay? .workload copy (Workload.desired c) = some (same, false) :=
  Manifest.overlay?_of_inPlace h.form h.isReal (hplace.of_agree h.agree)

theorem Settled.updatePending (h : Settled c merged copy) :
    Workload.updatePending copy = false := by
  unfold Workload.updatePending
  simpa using h.updated

/-- **A pass over a settled copy** leaves everything as it is. -/
theorem sync_of_settled (hgoing : c.isTerminating = false)
    (hplace : (merged.toJson .workload).InPlace ((Workload.desired c).toJson .workload))
    (hrun : (sync c settings).Run t r)
    (hlook : ∀ answer rest, t = ⟨.get .workload c.workloadName, answer⟩ :: rest →
      ∃ copy, answer = .ok (some copy) ∧ Settled c merged copy) :
    r = .ok .unchanged ∧ ∀ ev ∈ t, ¬ ev.request.Writes := by
  obtain ⟨r', hsettles, hr⟩ := run_sync hrun
  have hshown : ∀ {live rest}, t = found c live :: rest → Settled c merged live := by
    intro live rest ht
    obtain ⟨copy, hcopy, hsettled⟩ := hlook _ _ ht
    obtain rfl := Option.some.inj (Except.ok.inj hcopy)
    exact hsettled
  -- A copy that shows a change would not be settled.
  have hsame : ∀ {live m rest}, t = found c live :: rest →
      Manifest.overlay? .workload live (Workload.desired c) ≠ some (m, true) := by
    intro live m rest ht hchanged
    obtain ⟨same, hsame⟩ := (hshown ht).overlay? hplace
    simp [hchanged] at hsame
  cases hsettles with
  | going h => simp [hgoing] at h
  | unread =>
    obtain ⟨copy, hcopy, -⟩ := hlook _ _ rfl
    cases hcopy
  | absent =>
    obtain ⟨copy, hcopy, -⟩ := hlook _ _ rfl
    cases hcopy
  | malformed h =>
    obtain ⟨same, hsame⟩ := (hshown rfl).overlay? hplace
    simp [h] at hsame
  | changed h | refused h | grown h => exact absurd h (hsame rfl)
  | kept h hrun' =>
    obtain ⟨rfl, halign⟩ := run_keep_of_updated hrun' (hshown rfl).updatePending
    refine ⟨?_, List.forall_mem_cons.mpr ⟨id, fun ev hev => (halign ev hev).not_writes⟩⟩
    rcases hr with rfl | ⟨howner, -⟩
    · rfl
    · cases howner

/-! ### Every further pass -/

theorem Settled.of_eq {c' : Cluster} (hdesired : Workload.desired c' = Workload.desired c)
    (h : Settled c merged copy) : Settled c' merged copy :=
  ⟨h.form, h.isReal, hdesired ▸ h.agree, h.updated⟩

/-- Passes that find a settled copy as long as nothing is written, leave everything as it is. -/
theorem repeats_of_settled {rs : List (Except Error Outcome)} (hgoing : c.isTerminating = false)
    (hplace : (merged.toJson .workload).InPlace ((Workload.desired c).toJson .workload))
    (hrepeats : Repeats c t rs) (hshows : ShowsSettled c merged t) :
    (∀ r ∈ rs, r = .ok .unchanged) ∧ ∀ ev ∈ t, ¬ ev.request.Writes := by
  induction hrepeats with
  | nil => simp
  | @cons c' settings t later r rs hdesired hgoing' h hs ih =>
    have hname : c'.workloadName = c.workloadName :=
      Option.some.inj (congrArg (fun w => w.metadata.name) hdesired)
    have hpass : r = .ok .unchanged ∧ ∀ ev ∈ t, ¬ ev.request.Writes := by
      refine sync_of_settled (hgoing'.trans hgoing) (hdesired ▸ hplace) h fun answer rest ht => ?_
      rw [hname] at ht
      obtain ⟨copy, hcopy, hsettled⟩ := hshows [] answer (rest ++ later) (by simp [ht]) (by simp)
      exact ⟨copy, hcopy, hsettled.of_eq hdesired⟩
    -- Nothing was written in the pass, so what comes after it is shown a settled copy too.
    have hlater : ShowsSettled c merged later := by
      intro before answer after hsplit hnone
      refine hshows (t ++ before) answer after (by simp [hsplit]) ?_
      exact List.forall_mem_append.mpr ⟨hpass.2, hnone⟩
    obtain ⟨houtcomes, hwrites⟩ := ih hlater
    exact ⟨List.forall_mem_cons.mpr ⟨hpass.1, houtcomes⟩,
      List.forall_mem_append.mpr ⟨hpass.2, hwrites⟩⟩

/-- **Once a change is taken** by the platform, the next pass over the same cluster ends with nothing
changed, and so does every further one, and none of them writes to the object store: provided that the
stored workload differs from what was written only in what the desired one does not set, and that its
members are up to date. The workload that the change was made to may be any in the form of its kind. -/
theorem unchanged_once_accepted {d : Document} {stored : Workload} {later : Trace}
    {rs : List (Except Error Outcome)} (hspec : Spec.ofDocument? d = some c.spec)
    (hlive : Kind.workload.shape.Holds (live.toJson .workload))
    (hrun : (sync c settings).Run t r) (hfound : t.head? = some (found c live))
    (haccepted : ⟨.replace .workload merged, .ok stored⟩ ∈ t) (hrepeats : Repeats c later rs)
    (hshows : ShowsSettled c merged later) :
    (∀ r ∈ rs, r = .ok .unchanged) ∧ ∀ ev ∈ later, ¬ ev.request.Writes := by
  obtain ⟨r', hsettles, -⟩ := run_sync hrun
  have hgoing := isTerminating_of_run hrun (List.ne_nil_of_mem haccepted)
  have hplace := inPlace_of_accepted hspec hlive hsettles hfound haccepted
  exact repeats_of_settled hgoing hplace hrepeats hshows

/-! ### A workload that is given its status -/

/-- The workload of the group of two as it stands after the change to it: with a version, a generation and
what has become of it. -/
def keptWorkload : Workload where
  metadata :=
    { (Workload.desired groupCluster).metadata with version := some "8", generation := some 2 }
  body := (Workload.desired groupCluster).body.setMember "status" (.ofPairs
    [("observedGeneration", .int 2), ("replicas", .int 2), ("updatedReplicas", .int 2)])

/-- What answers for the group of two while its workload stands like that. -/
def keptAnswer : (q : Request) → Unit → q.Answer × Unit
  | .get .workload _, s => (.ok (some keptWorkload), s)
  | q, s => ((Simulation.Nowhere.answer q { now := ⟨0, 0⟩ }).1, s)

/-- The trace of a pass over it. -/
def keptTrace : Trace := (sync groupCluster {}).outcome.traceOf keptAnswer ()

theorem toJson_keptWorkload : keptWorkload.toJson .workload =
    .ofMembers [("spec", (Workload.desired groupCluster).body.member? "spec"),
      ("status", some (.ofPairs [("observedGeneration", .int 2), ("replicas", .int 2),
        ("updatedReplicas", .int 2)])),
      ("apiVersion", some (.text Kind.workload.apiVersion)),
      ("kind", some (.text Kind.workload.name)),
      ("metadata", some keptWorkload.metadata.toJson)] :=
  rfl

theorem ofDocument?_groupCluster :
    Spec.ofDocument? (.record [("replicas", .int 2)]) = some groupCluster.spec := rfl

theorem formed_groupCluster : groupCluster.spec.Formed :=
  Spec.formed_of_ofDocument? ofDocument?_groupCluster

open Shape in
theorem holds_keptWorkload : Kind.workload.shape.Holds (keptWorkload.toJson .workload) := by
  have hlabels := holds_ofTexts (Workload.ordered_labels (c := groupCluster))
  have hgeneration : int64.Holds (.int 2) := (holds_scalar rfl).mpr rfl
  have hmetadata : metadata.Holds keptWorkload.metadata.toJson := by
    simp [keptWorkload, Workload.desired, Metadata.toJson, metadata, opts, opt, HoldFields,
      Workload.owners, groupCluster, Cluster.owner?, hgeneration]
    exact hlabels
  rw [toJson_keptWorkload]
  simp [Kind.shape, Kind.bodyFields, opt, opts, req, HoldFields, hmetadata, workloadStatus,
    hgeneration]
  exact Workload.holds_spec formed_groupCluster

open Json in
theorem inPlace_keptWorkload : (keptWorkload.toJson .workload).InPlace
    ((Workload.desired groupCluster).toJson .workload) := by
  have hspec : ∀ v ∈ (Workload.desired groupCluster).body.member? "spec", v.InOrder :=
    fun v hv => Shape.inOrder_of_holds (Workload.holds_spec formed_groupCluster v hv)
  have hlabels := Shape.inOrder_of_holds
    (Shape.holds_ofTexts (Workload.ordered_labels (c := groupCluster)))
  have hmetadata : InPlace keptWorkload.metadata.toJson
      (Workload.desired groupCluster).metadata.toJson := by
    refine inPlace_ofMembers (by decide) (List.forall_mem_append.mpr ⟨by simp [Workload.desired], ?_⟩)
    simp only [List.forall_mem_cons]
    refine ⟨inPlaceAt_text, inPlaceAt_none, inPlaceAt_text, inPlaceAt_none, inPlaceAt_none,
      inPlaceAt_none, inPlaceAt_none, ?_, inPlaceAt_none, by simp⟩
    exact inPlaceAt_self (by rintro v ⟨⟩; exact hlabels)
  have hwritten := @Workload.withStatus_toJson groupCluster none
  rw [Workload.withStatus] at hwritten
  rw [hwritten]
  refine inPlace_ofMembers (by decide) ?_
  simp only [List.forall_mem_cons]
  refine ⟨inPlaceAt_self hspec, inPlaceAt_none, inPlaceAt_text, inPlaceAt_text, ?_, by simp⟩
  rintro v ⟨⟩ -
  exact ⟨_, rfl, hmetadata⟩

theorem holds_outgrownWorkload :
    Kind.workload.shape.Holds (outgrownWorkload.toJson .workload) :=
  Workload.holds_desired (Spec.formed_of_ofDocument? (d := .record [("replicas", .int 3)]) rfl)

theorem head_changedCopies :
    (shownTrace changedCopies).head? = some (found groupCluster outgrownWorkload) := rfl

theorem exists_accepted_of_updated (h : Settles c settings t (.ok .updated)) :
    ∃ merged stored, ⟨.replace .workload merged, .ok stored⟩ ∈ t := by
  generalize hr : Except.ok Outcome.updated = r at h
  cases h with
  | going | unread | malformed | refused => cases hr
  | @absent made => cases made <;> cases hr
  | kept h hrun =>
    subst hr
    cases eq_unchanged_of_keep hrun
  | changed h hrun => exact ⟨_, _, List.mem_cons_of_mem _ List.mem_cons_self⟩
  | grown h hinvalid hgrows hrun =>
    subst hr
    cases eq_expanded_of_grow hrun

theorem isReal_keptWorkload : (keptWorkload.toJson .workload).IsReal :=
  Json.same_self_iff.mp (by decide +kernel)

theorem settled_keptWorkload
    (hplace : (merged.toJson .workload).InPlace ((Workload.desired groupCluster).toJson .workload)) :
    Settled groupCluster merged keptWorkload where
  form := holds_keptWorkload
  isReal := isReal_keptWorkload
  agree := Json.agree_of_inPlace hplace inPlace_keptWorkload
  updated := by decide

/-- Two passes over the group after the change to it change nothing. -/
theorem kept_twice : ∃ merged stored,
    ⟨.replace .workload merged, .ok stored⟩ ∈ shownTrace changedCopies ∧
      Settled groupCluster merged keptWorkload ∧
      (sync groupCluster {}).Run keptTrace (.ok .unchanged) ∧
      ∀ ev ∈ keptTrace ++ (keptTrace ++ []), ¬ ev.request.Writes := by
  obtain ⟨r', hsettles, hr⟩ := run_sync run_changedCopies
  obtain rfl : r' = .ok .updated := by
    rcases hr with rfl | ⟨-, hskipped⟩
    · rfl
    · cases hskipped
  obtain ⟨merged, stored, haccepted⟩ := exists_accepted_of_updated hsettles
  have hsettled := settled_keptWorkload (inPlace_of_accepted ofDocument?_groupCluster
    holds_outgrownWorkload hsettles head_changedCopies haccepted)
  have hkept := Program.run_traceOf keptAnswer (sync groupCluster {}).outcome ()
  have hrepeats : Repeats groupCluster (keptTrace ++ (keptTrace ++ [])) [_, _] :=
    .cons rfl rfl hkept (.cons rfl rfl hkept .nil)
  -- Whatever the look at the workload, it is answered with the copy.
  have hshows : ShowsSettled groupCluster merged (keptTrace ++ (keptTrace ++ [])) := by
    intro before answer after hsplit _
    have hmem : (⟨.get .workload groupCluster.workloadName, answer⟩ : Event) ∈ keptTrace := by
      have hmem : (⟨.get .workload groupCluster.workloadName, answer⟩ : Event) ∈
          keptTrace ++ (keptTrace ++ []) := hsplit ▸ by simp
      simpa using hmem
    obtain ⟨_, hanswer⟩ := Program.exists_of_mem_traceOf keptAnswer hmem
    exact ⟨keptWorkload, hanswer, hsettled⟩
  obtain ⟨houtcomes, hwrites⟩ := unchanged_once_accepted ofDocument?_groupCluster
    holds_outgrownWorkload run_changedCopies head_changedCopies haccepted hrepeats hshows
  refine ⟨merged, stored, haccepted, hsettled, ?_, hwrites⟩
  exact Program.run_traceOf_of_eq keptAnswer (houtcomes _ List.mem_cons_self)

end Topology

end RaftMysql
