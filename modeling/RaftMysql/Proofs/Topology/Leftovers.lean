import RaftMysql.Proofs.Topology.GivingBack
import RaftMysql.Proofs.Topology.Interruption

/-!
# Claims that are left behind

A pass gives storage back only after it changed the workload and waited for what follows from that.
If it fails on the way, the next pass finds the workload as it should be and keeps it, and then nothing
is given back: `Topology.stands_until_updated` says that the claim of a member beyond the desired
count stands until some pass ends with `Outcome.updated`, whatever the other passes do.
-/

namespace RaftMysql

/-! ### A claim that stands -/

/-- The request removes no claim. -/
def Request.KeepsClaims : Request → Prop
  | .delete .claim .. => False
  | _ => True

theorem Request.OnlyPods.keepsClaims {q : Request} (h : q.OnlyPods) : q.KeepsClaims := by
  unfold Request.KeepsClaims
  split
  · cases h
  · trivial

/-- The event removed the claim of a name, or found it gone. -/
def Event.endsClaim (name : String) : Event → Bool
  | ⟨.delete .claim other _, answer⟩ => isGone (answer : Except Error Unit) && other == name
  | _ => false

namespace Claim

/-- Whether a claim stands: it is there and not on its way out. While it does, a listing by labels
that it carries shows it. Claims go when they are removed. -/
def record (name : String) (labels : Labels) : Record Bool where
  after stands e := stands && !e.endsClaim name
  agrees
    | stands, ⟨.list .claim selector, answer⟩ =>
      match (answer : Except Error (List Claim)) with
      | .ok claims => !stands || !labels.satisfies selector ||
          claims.any fun claim => claim.name == name && !claim.metadata.isTerminating
      | .error _ => true
    | _, e => e.letsGo

variable {name : String} {labels : Labels} {stands : Bool} {t : Trace}

theorem record_afterAll : (record name labels).afterAll stands t =
    (stands && !t.any (Event.endsClaim name)) := by
  induction t generalizing stands with
  | nil => simp [Record.afterAll]
  | cons e t ih =>
    show (record name labels).afterAll (stands && !e.endsClaim name) t = _
    rw [ih, List.any_cons, Bool.not_or, Bool.and_assoc]

theorem record_afterAll_of_keepsClaims (h : ∀ e ∈ t, e.request.KeepsClaims) :
    (record name labels).afterAll stands t = stands := by
  have hnone : t.any (Event.endsClaim name) = false := by
    rw [List.any_eq_false]
    intro e he
    unfold Event.endsClaim
    split
    · exact absurd (h _ he) id
    · simp
  rw [record_afterAll, hnone, Bool.not_false, Bool.and_true]

theorem letsGo_of_answers (h : (record name labels).Answers stands t) :
    ∀ e ∈ t, e.letsGo = true := by
  induction t generalizing stands with
  | nil => simp
  | cons e t ih =>
    obtain ⟨hagrees, hanswers⟩ := h
    refine List.forall_mem_cons.mpr ⟨?_, ih hanswers⟩
    unfold record at hagrees
    dsimp only at hagrees
    split at hagrees
    · rfl
    · exact hagrees

end Claim

/-! ### Growth keeps claims -/

namespace Topology

variable {c : Cluster} {settings : Settings} {t : Trace} {name : String} {labels : Labels}

theorem keepsClaims_grow {desired : Workload} :
    (grow c settings desired).Asks Request.KeepsClaims := by
  refine asks_grow.mono fun q h => ?_
  cases h with
  | wait h => exact h.onlyPods.keepsClaims
  | delete | list | resize | create | record => trivial

/-! ### One pass -/

/-- The claim of the record is that of a member beyond the desired count. -/
structure IsLeftover (c : Cluster) (name : String) (labels : Labels) : Prop where
  exists_ordinal : ∃ n < Nat.pow 2 31, name = c.claimName n ∧ c.replicas ≤ n
  selected : labels.satisfies c.selector = true

theorem IsLeftover.isExcess (h : IsLeftover c name labels) {claim : Claim} (hname : claim.name = name)
    (hstands : claim.metadata.isTerminating = false) : isExcess c claim = true := by
  obtain ⟨n, hn, rfl, hexcess⟩ := h.exists_ordinal
  exact (isExcess_claimName hn hname).mpr ⟨hstands, hexcess⟩

/-- When storage is given back from a listing, a leftover claim goes. -/
theorem afterAll_giveBack {r : Except Error Nat} (hleft : IsLeftover c name labels)
    (hrun : (giveBack c).Run t r) (htrue : (Claim.record name labels).Answers true t) :
    (∃ e, r = .error e ∧ (Claim.record name labels).afterAll true t = true) ∨
      ∃ removed, r = .ok removed ∧ (Claim.record name labels).afterAll true t = false := by
  rcases run_giveBack hrun with ⟨e, rfl, rfl⟩ | ⟨claims, rest, rfl, hremoves⟩
  · exact .inl ⟨e, rfl, rfl⟩
  · obtain ⟨hlisted, hrest⟩ := htrue
    have hgo := Claim.letsGo_of_answers hrest
    obtain ⟨hrequests, rfl⟩ := hremoves.of_letsGo hgo
    refine .inr ⟨_, rfl, ?_⟩
    have hshown : claims.any (fun claim => claim.name == name && !claim.metadata.isTerminating) =
        true := by simpa [Claim.record, hleft.selected] using hlisted
    obtain ⟨claim, hmem, hclaim⟩ := List.any_eq_true.mp hshown
    obtain ⟨hname, hstands⟩ : claim.name = name ∧ claim.metadata.isTerminating = false := by
      simpa using hclaim
    have hremoval : Claim.removal claim ∈ rest.map Event.request := by
      rw [hrequests]
      exact List.mem_map_of_mem (List.mem_filter.mpr ⟨hmem, hleft.isExcess hname hstands⟩)
    obtain ⟨⟨q, answer⟩, he, rfl⟩ := List.mem_map.mp hremoval
    have hends : Event.endsClaim name ⟨Claim.removal claim, answer⟩ = true := by
      have hgone : isGone answer = true := hgo _ he
      simp [Event.endsClaim, Claim.removal, hgone, hname]
    have hany : rest.any (Event.endsClaim name) = true := List.any_eq_true.mpr ⟨_, he, hends⟩
    rw [Claim.record_afterAll, List.any_cons, hany, Bool.or_true]
    rfl

/-- What follows a change comes to giving storage back, and ends well just when that does. -/
theorem run_proceed {r : Except Error Outcome} (h : (proceed c settings).Run t r) :
    (∃ e, r = .error e ∧ ∀ e ∈ t, e.request.OnlyPods) ∨
      ∃ t₁ t₂ t₃ given, t = t₁ ++ (t₂ ++ t₃) ∧ (∀ e ∈ t₁, e.request.OnlyPods) ∧
        (giveBack c).Run t₂ given ∧ (∀ e ∈ t₃, e.request.OnlyPods) ∧
        r = given.map fun _ => .updated := by
  rcases Procedure.run_bind.mp h with ⟨e, h₁, rfl⟩ | ⟨t₁, t₂, workload, rfl, h₁, h₂⟩
  · exact .inl ⟨e, rfl, h₁.asks onlyPods_waitObserved⟩
  have hfirst := h₁.asks onlyPods_waitObserved
  rcases Procedure.run_bind.mp h₂ with ⟨e, h₃, rfl⟩ | ⟨t₃, t₄, _, rfl, h₃, h₄⟩
  · exact .inl ⟨e, rfl, List.forall_mem_append.mpr ⟨hfirst, h₃.asks onlyPods_rolloutIfPending⟩⟩
  have hbefore : ∀ e ∈ t₁ ++ t₃, e.request.OnlyPods :=
    List.forall_mem_append.mpr ⟨hfirst, h₃.asks onlyPods_rolloutIfPending⟩
  refine .inr ?_
  rcases Procedure.run_bind.mp h₄ with ⟨e, h₅, rfl⟩ | ⟨t₅, t₆, removed, rfl, h₅, h₆⟩
  · exact ⟨t₁ ++ t₃, t₄, [], .error e, by simp, hbefore, h₅, by simp, rfl⟩
  · obtain ⟨t₇, t₈, _, rfl, h₇, h₈⟩ := Procedure.run_step_bind.mp h₆
    obtain ⟨rfl, rfl⟩ := Procedure.run_pure.mp h₈
    exact ⟨t₁ ++ t₃, t₅, t₇, .ok removed, by simp, hbefore, h₅, h₇.asks onlyPods_align, rfl⟩

theorem afterAll_proceed {r : Except Error Outcome} (hleft : IsLeftover c name labels)
    (hrun : (proceed c settings).Run t r) (htrue : (Claim.record name labels).Answers true t) :
    (Claim.record name labels).afterAll true t = false ↔ r = .ok .updated := by
  have hkept : ∀ {t : Trace} {stands : Bool}, (∀ e ∈ t, e.request.OnlyPods) →
      (Claim.record name labels).afterAll stands t = stands := fun h =>
    Claim.record_afterAll_of_keepsClaims fun e he => (h e he).keepsClaims
  rcases run_proceed hrun with ⟨e, rfl, h⟩ | ⟨t₁, t₂, t₃, given, rfl, h₁, h₂, h₃, rfl⟩
  · simp [hkept h]
  · have htrue₂ := (Record.answers_append.mp (Record.answers_append.mp htrue).2).1
    rw [hkept h₁] at htrue₂
    rw [Record.afterAll_append, Record.afterAll_append, hkept h₁, hkept h₃]
    rcases afterAll_giveBack hleft h₂ htrue₂ with ⟨e, rfl, hstands⟩ | ⟨removed, rfl, hgone⟩
    · simp [hstands, Except.map]
    · simp [hgone, Except.map]

/-- **A pass ends a leftover claim** just when it ends with an update. -/
theorem afterAll_sync {r : Except Error Outcome} (hleft : IsLeftover c name labels)
    (hrun : (sync c settings).Run t r) (htrue : (Claim.record name labels).Answers true t) :
    (Claim.record name labels).afterAll true t = false ↔ r = .ok .updated := by
  obtain ⟨r', hsettles, hr'⟩ := run_sync hrun
  have houtcome : r = .ok .updated ↔ r' = .ok .updated := by
    rcases hr' with rfl | ⟨rfl, rfl⟩
    · exact Iff.rfl
    · simp
  have hkept : (∀ e ∈ t, e.request.KeepsClaims) → r' ≠ .ok .updated →
      ((Claim.record name labels).afterAll true t = false ↔ r' = .ok .updated) := by
    intro h hr
    rw [Claim.record_afterAll_of_keepsClaims h]
    simp [hr]
  rw [houtcome]
  clear hr' houtcome hrun
  cases hsettles with
  | going => exact hkept (by simp) (by simp)
  | unread => exact hkept (by simp [Request.KeepsClaims]) (by simp)
  | malformed => exact hkept (by simp [Request.KeepsClaims]) (by simp)
  | refused => exact hkept (by simp [Request.KeepsClaims]) (by simp)
  | @absent made =>
    refine hkept (by simp [Request.KeepsClaims]) ?_
    cases made <;> simp [Except.map]
  | kept h hrun' =>
    have hrest := hrun'.asks (onlyPods_keep.mono fun _ h => h.keepsClaims)
    refine hkept (List.forall_mem_cons.mpr ⟨trivial, hrest⟩) ?_
    rintro rfl
    cases eq_unchanged_of_keep hrun'
  | changed h hrun' =>
    -- The claim still stands after the two events before, which the goal has by computation.
    have hproceed := afterAll_proceed hleft hrun' htrue.2.2
    exact hproceed
  | grown h hinvalid hgrows hrun' =>
    have hrest := hrun'.asks keepsClaims_grow
    refine hkept (List.forall_mem_cons.mpr ⟨trivial, List.forall_mem_cons.mpr ⟨trivial, hrest⟩⟩) ?_
    rintro rfl
    cases eq_expanded_of_grow hrun'

/-! ### Several passes -/

theorem IsLeftover.of_eq {c' : Cluster} (hname : c'.workloadName = c.workloadName)
    (hspec : c'.spec = c.spec) (h : IsLeftover c name labels) : IsLeftover c' name labels := by
  obtain ⟨⟨n, hn, rfl, hexcess⟩, hselected⟩ := h
  have hclaim : c'.claimName n = c.claimName n := by
    unfold Cluster.claimName Cluster.podName
    rw [hname]
  have hcluster : c'.name = c.name := by
    unfold Cluster.workloadName at hname
    exact (String.append_left_inj _).mp hname
  have hselector : c'.selector = c.selector := by
    unfold Cluster.selector
    rw [hcluster]
  refine ⟨⟨n, hn, hclaim.symm, ?_⟩, hselector ▸ hselected⟩
  unfold Cluster.replicas
  rw [hspec]
  exact hexcess

/-- **How long a leftover claim stands**: whatever passes are made over a cluster whose spec does not
change, on a platform that lists the claims that there are and removes those that it is asked to, the
claim of a member beyond the desired count stands until a pass ends with an update. -/
theorem stands_until_updated {rs : List (Except Error Outcome)} (hpasses : Passes c settings t rs)
    (hleft : IsLeftover c name labels) (htrue : (Claim.record name labels).Answers true t) :
    (Claim.record name labels).afterAll true t = false ↔ .ok .updated ∈ rs := by
  induction hpasses with
  | nil => simp [Record.afterAll]
  | @cons c' t later r rs hname hspec h hs ih =>
    obtain ⟨hnow, hlater⟩ := Record.answers_append.mp htrue
    have hpass := afterAll_sync (hleft.of_eq hname hspec) h hnow
    rw [Record.afterAll_append, List.mem_cons, eq_comm (a := Except.ok Outcome.updated)]
    rcases hstands : (Claim.record name labels).afterAll true t with _ | _
    · have hupdated := hpass.mp hstands
      simp [hupdated, Claim.record_afterAll]
    · rw [hstands] at hlater
      have hnot : r ≠ .ok .updated := fun hr => by simp [hpass.mpr hr] at hstands
      rw [ih hlater]
      simp [hnot]

/-! ### A claim that is forgotten -/

/-- What a platform holds of a group that is made smaller: its workload, its claims, and whether the
next look at the workload fails. -/
structure Flaky where
  workload : Workload
  claims : List Claim
  failing : Bool := false

/-- What answers for such a platform: it takes everything, but the first look at a workload that was
changed fails. -/
def flakyAnswer : (q : Request) → Flaky → q.Answer × Flaky
  | .get .workload _, s =>
    if s.failing then (.error (.refused 500 "InternalError" "timeout"), { s with failing := false })
    else (.ok (some s.workload), s)
  | .replace .workload workload, s => (.ok workload, { s with workload, failing := true })
  | .list .claim _, s => (.ok s.claims, s)
  | .delete .claim name _, s => (.ok (), { s with claims := s.claims.filter (·.name != name) })
  | .list .pod _, s => (.ok [], s)
  | q, s => ((Simulation.Nowhere.answer q { now := ⟨0, 0⟩ }).1, s)

/-- The platform when a group of three has been told to be one of two. -/
def shrinking : Flaky where
  workload := Workload.desired { groupCluster with spec := { groupCluster.spec with replicas := 3 } }
  claims := [groupClaim "data-sample-mysql-2"]

/-- The trace of the pass that makes it smaller. -/
def shrinkTrace : Trace := (sync groupCluster {}).outcome.traceOf flakyAnswer shrinking

/-- The platform after that pass. -/
def shrunk : Flaky := (Program.run flakyAnswer (sync groupCluster {}).outcome shrinking).2

/-- The trace of the pass after it. -/
def settledTrace : Trace := (sync groupCluster {}).outcome.traceOf flakyAnswer shrunk

/-- How the two passes end, and that the platform keeps its word all the while and the claim stands. It
is evaluated at once, as the second pass begins from what the first one leaves. -/
theorem outcomes_of_shrinking :
    (Program.run flakyAnswer (sync groupCluster {}).outcome shrinking).1 =
        .error (.refused 500 "InternalError" "timeout") ∧
      (Program.run flakyAnswer (sync groupCluster {}).outcome shrunk).1 = .ok .unchanged ∧
      (Claim.record "data-sample-mysql-2" groupCluster.selector).Answers true
        (shrinkTrace ++ settledTrace) ∧
      (Claim.record "data-sample-mysql-2" groupCluster.selector).afterAll true
        (shrinkTrace ++ settledTrace) = true := by
  decide +kernel

theorem passes_shrinking : Passes groupCluster {} (shrinkTrace ++ (settledTrace ++ []))
    [.error (.refused 500 "InternalError" "timeout"), .ok .unchanged] := by
  obtain ⟨hfailed, hkept, -, -⟩ := outcomes_of_shrinking
  exact .cons rfl rfl (Program.run_traceOf_of_eq flakyAnswer hfailed)
    (.cons rfl rfl (Program.run_traceOf_of_eq flakyAnswer hkept) .nil)

theorem isLeftover_shrinking :
    IsLeftover groupCluster "data-sample-mysql-2" groupCluster.selector :=
  ⟨⟨2, by decide, rfl, by decide⟩, by decide⟩

/-- The claim stands after both passes, as neither ended with an update. -/
theorem stands_after_shrinking :
    (Claim.record "data-sample-mysql-2" groupCluster.selector).afterAll true
        (shrinkTrace ++ settledTrace) = true := by
  have hpasses := passes_shrinking
  rw [List.append_nil] at hpasses
  rw [← Bool.not_eq_false,
    stands_until_updated hpasses isLeftover_shrinking outcomes_of_shrinking.2.2.1]
  decide

/-- A pass that fails after it changed the workload forgets to give storage back: the next one finds
nothing to change and ends well, and the claim of the removed member stands. -/
theorem exists_forgotten_claim :
    ∃ t t' e, (sync groupCluster {}).Run t (.error e) ∧
      (sync groupCluster {}).Run t' (.ok .unchanged) ∧
      (Claim.record (groupCluster.claimName 2) groupCluster.selector).Answers true (t ++ t') ∧
      groupCluster.replicas ≤ 2 ∧
      (Claim.record (groupCluster.claimName 2) groupCluster.selector).afterAll true (t ++ t') =
        true := by
  obtain ⟨hfailed, hkept, htrue, hstands⟩ := outcomes_of_shrinking
  exact ⟨shrinkTrace, settledTrace, _, Program.run_traceOf_of_eq flakyAnswer hfailed,
    Program.run_traceOf_of_eq flakyAnswer hkept, htrue, by decide, hstands⟩

end Topology

end RaftMysql
