import RaftMysql.Proofs.Health.Passes
import Mathlib.Data.List.Induction

/-!
# Errors that last

When a run of status passes comes to an error, and when an error that is proposed again and again is
sure to be the state.

The time that an error has lasted is not stored. It is read off the latest condition, which a state
that may not follow an error leaves as it is, so such a state does not interrupt an error although
it becomes the state of the cluster: `Status.failsSince_after` tells the passes between which a
history ends with an error. `state_after_eq_error_iff` is what comes of it for the first pass that
finds the cluster in error, and `state_after_of_persisting` for an error without interruption. A
closed cluster has no room for an error in its history and stays closed.
-/

namespace RaftMysql

/-- The pass proposes an error for the reason that may follow the history of a status. -/
def Pass.Opens (p : Pass) (reason : String) (status : Status) : Prop :=
  (p.proposal status).Blames reason ∧
    status.conditions.accepts ((p.proposal status).condition p.moment) = true

instance (p : Pass) (reason : String) (status : Status) : Decidable (p.Opens reason status) := by
  unfold Pass.Opens; infer_instance

/-- A pass so many seconds into a run. -/
def Pass.atSecond (n : Nat) (seen : Observation) : Pass :=
  { moment := ⟨n, 0⟩, seen := seen, isLeap_moment := rfl }

/-- Some member out of so many finds no place. -/
def unplaced (desired : Int) : Observation :=
  { desired := desired, unschedulable := some "0/3 nodes are available" }

namespace Status

variable {s : StatusSettings} {reason : String} {start : Time}

/-! ### The latest error over a run -/

theorem failsSince_apply {p : Pass} {status : Status} :
    (p.apply s status).conditions.FailsSince reason start ↔
      (p.Opens reason status ∧ start = p.moment) ∨
        (status.conditions.FailsSince reason start ∧ (p.proposal status).Keeps reason) := by
  rw [Pass.conditions_apply, History.failsSince_append Pass.proposal_ne_error]
  unfold Pass.Opens
  rw [and_assoc]

theorem failsSince_foldl {passes : List Pass} {status : Status}
    (hf : status.conditions.FailsSince reason start)
    (hk : Throughout s (Proposal.Keeps reason) status passes) :
    (passes.foldl (Pass.apply s) status).conditions.FailsSince reason start := by
  induction passes generalizing status with
  | nil => exact hf
  | cons p ps ih => exact ih (failsSince_apply.mpr (.inr ⟨hf, hk.1⟩)) hk.2

/-- **The passes between which a history ends with an error**: one that opens it, at the moment that
the error is said to have begun, and then none but passes that keep it. -/
theorem failsSince_after {passes : List Pass} :
    (after s passes).conditions.FailsSince reason start ↔
      ∃ earlier opening rest, passes = earlier ++ opening :: rest ∧ opening.moment = start ∧
        opening.Opens reason (after s earlier) ∧
        Throughout s (Proposal.Keeps reason) (after s (earlier ++ [opening])) rest := by
  constructor
  · intro hf
    induction passes using List.reverseRecOn with
    | nil =>
      obtain ⟨last, hl, -⟩ := hf
      cases hl
    | append_singleton passes p ih =>
      rw [after_concat] at hf
      rcases failsSince_apply.mp hf with ⟨hopens, rfl⟩ | ⟨hf, hk⟩
      · exact ⟨passes, p, [], rfl, rfl, hopens, trivial⟩
      · obtain ⟨earlier, opening, rest, rfl, rfl, hopens, hrest⟩ := ih hf
        refine ⟨earlier, opening, rest ++ [p], by simp, rfl, hopens, ?_⟩
        rw [throughout_concat, ← after_append]
        exact ⟨hrest, by simpa using hk⟩
  · rintro ⟨earlier, opening, rest, rfl, rfl, hopens, hrest⟩
    rw [List.append_cons, after_append]
    refine failsSince_foldl ?_ hrest
    rw [after_concat]
    exact failsSince_apply.mpr (.inl ⟨hopens, rfl⟩)

/-! ### Moments of a run -/

theorem notAfter_of_mem {earlier rest : List Pass} {opening p : Pass}
    (hc : Chronological (earlier ++ opening :: rest)) (hp : p ∈ opening :: rest) :
    opening.moment.count ≤ p.moment.count := by
  rcases List.mem_cons.mp hp with rfl | hp
  · exact Int.le_refl _
  · have hpair := (List.pairwise_append.mp hc).2.1
    have hle := (List.pairwise_cons.mp hpair).1 p hp
    exact Time.count_le_of_notAfter opening.isLeap_moment p.isLeap_moment hle

/-- An error has lasted when the pass that opened it lies at least the tolerance back. -/
theorem hasLasted_iff {status : Status} {now : Time} :
    hasLasted s status reason now = true ↔
      ∃ start, status.conditions.FailsSince reason start ∧
        tolerance s reason ≤ (now.since start).toNat := by
  unfold hasLasted
  constructor
  · intro h
    split at h
    · rename_i age hage
      obtain ⟨start, hf, rfl⟩ := History.errorAge?_eq_some.mp hage
      exact ⟨start, hf, by simpa using h⟩
    · cases h
  · rintro ⟨start, hf, hle⟩
    rw [History.errorAge?_eq_some.mpr ⟨start, hf, rfl⟩]
    simpa using hle

theorem mem_of_concat_eq {earlier before rest : List Pass} {opening p : Pass}
    (h : earlier ++ [p] = before ++ opening :: rest) : p ∈ opening :: rest := by
  have hl := congrArg List.getLast? h
  rw [List.getLast?_concat, List.getLast?_append] at hl
  rcases hlast : (opening :: rest).getLast? with _ | q
  · simp at hlast
  · rw [hlast] at hl
    obtain rfl : p = q := by simpa using hl
    exact List.mem_of_getLast? hlast

/-! ### When an error becomes the state -/

/-- A pass finds a cluster in error when it proposes one that has lasted. -/
theorem state_apply_eq_error_iff {p : Pass} {status : Status}
    (hstate : status.state ≠ some .error) :
    (p.apply s status).state = some .error ↔
      ∃ reason, (p.proposal status).Blames reason ∧
        hasLasted s (p.apply s status) reason p.moment = true := by
  match hp : p.proposal status with
  | .state st =>
    rw [Pass.state_apply_of_state hp]
    constructor
    · intro hst
      exact absurd (hp.trans (congrArg Proposal.state (Option.some.inj hst))) Pass.proposal_ne_error
    · rintro ⟨reason, hb, -⟩
      exact hb.elim
  | .error reason message =>
    rw [Pass.state_apply_of_error hp]
    constructor
    · intro hst
      by_cases hlasted : hasLasted s (p.apply s status) reason p.moment = true
      · exact ⟨reason, rfl, hlasted⟩
      · rw [if_neg hlasted] at hst
        rcases hs : status.state with _ | st
        · simp [hs] at hst
        · rw [hs] at hst
          exact absurd (hs.trans hst) hstate
    · rintro ⟨reason', rfl, hlasted⟩
      exact if_pos hlasted

/-- **When an error becomes the state of a cluster.** A pass turns another state into an error just
when it proposes one, and every pass since the one that opened it, at least the tolerance ago,
proposed the same error or a state that may not follow an error. -/
theorem state_after_eq_error_iff {earlier : List Pass} {p : Pass}
    (hc : Chronological (earlier ++ [p])) (hstate : (after s earlier).state ≠ some .error) :
    (after s (earlier ++ [p])).state = some .error ↔
      ∃ reason, (p.proposal (after s earlier)).Blames reason ∧
        ∃ before opening rest, earlier ++ [p] = before ++ opening :: rest ∧
          opening.Opens reason (after s before) ∧
          Throughout s (Proposal.Keeps reason) (after s (before ++ [opening])) rest ∧
          (tolerance s reason : Int) ≤ p.moment.since opening.moment := by
  rw [after_concat, state_apply_eq_error_iff hstate]
  refine exists_congr fun reason => and_congr_right fun _ => ?_
  rw [hasLasted_iff, ← after_concat]
  constructor
  · rintro ⟨start, hf, hle⟩
    obtain ⟨before, opening, rest, heq, rfl, hopens, hrest⟩ := failsSince_after.mp hf
    have hcount := notAfter_of_mem (heq ▸ hc) (mem_of_concat_eq heq)
    have hnonneg : 0 ≤ p.moment.since opening.moment := by
      rw [Time.since_eq_sub p.isLeap_moment opening.isLeap_moment]
      omega
    exact ⟨before, opening, rest, heq, hopens, hrest, (Int.le_toNat hnonneg).mp hle⟩
  · rintro ⟨before, opening, rest, heq, hopens, hrest, hle⟩
    have hnonneg : 0 ≤ p.moment.since opening.moment := Int.le_trans (Int.natCast_nonneg _) hle
    refine ⟨opening.moment, ?_, (Int.le_toNat hnonneg).mpr hle⟩
    exact failsSince_after.mpr ⟨before, opening, rest, heq, rfl, hopens, hrest⟩

/-- A pod that finds no place 5 and 65 seconds into a run makes an error of it, although it had one
10 seconds into it: the cluster was initializing then, which may not follow the error of 5. -/
theorem state_after_interruption :
    (after {} ([.atSecond 0 { desired := 1 }, .atSecond 5 (unplaced 1),
      .atSecond 10 { desired := 1 }] ++ [.atSecond 65 (unplaced 1)])).state = some .error := by
  refine (state_after_eq_error_iff (by decide) (by decide)).mpr ⟨Condition.unschedulable, rfl, ?_⟩
  exact ⟨[.atSecond 0 { desired := 1 }], .atSecond 5 (unplaced 1),
    [.atSecond 10 { desired := 1 }, .atSecond 65 (unplaced 1)], rfl, by decide, by decide,
    by decide⟩

/-- An error need not have been proposed for the length of its tolerance. -/
theorem exists_error_without_window :
    ∃ earlier p, Chronological (earlier ++ [p]) ∧ (after {} earlier).state ≠ some .error ∧
      (after {} (earlier ++ [p])).state = some .error ∧
      ∀ reason before opening rest, earlier ++ [p] = before ++ opening :: rest →
        (tolerance {} reason : Int) ≤ p.moment.since opening.moment →
          ¬ Throughout {} (Proposal.Blames reason) (after {} before) (opening :: rest) := by
  refine ⟨[.atSecond 0 { desired := 1 }, .atSecond 5 (unplaced 1), .atSecond 10 { desired := 1 }],
    .atSecond 65 (unplaced 1), by decide, by decide, by decide, ?_⟩
  intro reason before opening rest heq hlong hb
  have hlen := congrArg List.length heq
  simp only [List.length_append, List.length_cons, List.length_nil] at hlen
  -- The window would have to begin with one of the four passes.
  match before with
  | [] =>
    simp only [List.cons_append, List.nil_append, List.cons.injEq] at heq
    obtain ⟨rfl, rfl⟩ := heq
    exact hb.1
  | [_] =>
    simp only [List.cons_append, List.nil_append, List.cons.injEq] at heq
    obtain ⟨rfl, rfl, rfl⟩ := heq
    exact hb.2.1
  | [_, _] =>
    simp only [List.cons_append, List.nil_append, List.cons.injEq] at heq
    obtain ⟨rfl, rfl, rfl, rfl⟩ := heq
    exact hb.1
  | [_, _, _] =>
    simp only [List.cons_append, List.nil_append, List.cons.injEq] at heq
    obtain ⟨rfl, rfl, rfl, rfl, rfl⟩ := heq
    obtain rfl : Condition.unschedulable = reason := hb.1
    exact absurd hlong (by decide)
  | _ :: _ :: _ :: _ :: before =>
    simp only [List.length_cons] at hlen
    omega

/-! ### Errors without interruption -/

theorem exists_mem_of_mem_conditions {passes : List Pass} {c : Condition}
    (hc : c ∈ (after s passes).conditions) : ∃ p ∈ passes, c.since = p.moment := by
  induction passes using List.reverseRecOn with
  | nil => cases hc
  | append_singleton passes p ih =>
    rw [after_concat, Pass.conditions_apply] at hc
    rcases History.mem_append hc with hc | rfl
    · obtain ⟨q, hq, hsince⟩ := ih hc
      exact ⟨q, by simp [hq], hsince⟩
    · refine ⟨p, by simp, ?_⟩
      match p.proposal (after s passes) with
      | .state st => rfl
      | .error reason message => rfl

theorem exists_failsSince_of_state {passes : List Pass}
    (h : (after s passes).state = some .error) :
    ∃ reason start, (after s passes).conditions.FailsSince reason start := by
  induction passes using List.reverseRecOn with
  | nil => cases h
  | append_singleton passes p ih =>
    rw [after_concat] at h ⊢
    by_cases hbefore : (after s passes).state = some .error
    · obtain ⟨reason', start, hf⟩ := ih hbefore
      match hp : p.proposal (after s passes) with
      | .state st =>
        rw [Pass.state_apply_of_state hp] at h
        exact absurd (hp.trans (congrArg Proposal.state (Option.some.inj h)))
          Pass.proposal_ne_error
      | .error reason message =>
        rcases ha : (after s passes).conditions.accepts
          ((p.proposal (after s passes)).condition p.moment) with _ | _
        · have hk := (hf.rejects_iff Pass.proposal_ne_error).mp ha
          exact ⟨reason', start, failsSince_apply.mpr (.inr ⟨hf, hk⟩)⟩
        · have hb : (p.proposal (after s passes)).Blames reason := by rw [hp]; rfl
          exact ⟨reason, p.moment, failsSince_apply.mpr (.inl ⟨⟨hb, ha⟩, rfl⟩)⟩
    · obtain ⟨reason, -, hlasted⟩ := (state_apply_eq_error_iff hbefore).mp h
      obtain ⟨start, hf, -⟩ := hasLasted_iff.mp hlasted
      exact ⟨reason, start, hf⟩

/-- Errors find no place in the history of a closed cluster. -/
theorem conditions_foldl_of_closed {passes : List Pass} {status : Status} {last : Condition}
    (hl : status.conditions.getLast? = some last) (hclosed : last.state = .closed)
    (hb : Throughout s (Proposal.Blames reason) status passes) :
    (passes.foldl (Pass.apply s) status).conditions = status.conditions := by
  induction passes generalizing status with
  | nil => rfl
  | cons p ps ih =>
    have hp : (p.apply s status).conditions = status.conditions := by
      rw [Pass.conditions_apply]
      apply History.append_of_rejects
      obtain ⟨message, hp⟩ := Proposal.blames_iff.mp hb.1
      unfold History.accepts
      rw [hl, hp]
      simp [Condition.mayFollow, Proposal.condition, Condition.ofError, hclosed]
    rw [List.foldl_cons, ih (by rw [hp, hl]) hb.2, hp]

/-- An error in a closed cluster is not its state, however long it persists. -/
theorem state_after_of_closed {before window : List Pass} {last : Condition}
    (hl : (after s before).conditions.getLast? = some last) (hclosed : last.state = .closed)
    (hb : Throughout s (Proposal.Blames reason) (after s before) window) :
    (after s (before ++ window)).state ≠ some .error := by
  intro herror
  obtain ⟨reason', start, last', hl', hstate, -⟩ := exists_failsSince_of_state herror
  rw [after_append, conditions_foldl_of_closed hl hclosed hb, hl] at hl'
  obtain rfl := Option.some.inj hl'
  rw [hclosed] at hstate
  cases hstate

/-- An error that is proposed is at the end of the history afterwards, unless the cluster was
closed. It may have been there before. -/
theorem exists_failsSince_of_blames {earlier rest : List Pass} {p : Pass}
    (hc : Chronological (earlier ++ p :: rest)) (hb : (p.proposal (after s earlier)).Blames reason)
    (hclosed : ∀ last, (after s earlier).conditions.getLast? = some last → last.state ≠ .closed) :
    ∃ q ∈ earlier ++ [p], (p.apply s (after s earlier)).conditions.FailsSince reason q.moment ∧
      q.moment.count ≤ p.moment.count := by
  rcases ha : (after s earlier).conditions.accepts
    ((p.proposal (after s earlier)).condition p.moment) with _ | _
  · obtain ⟨message, hp⟩ := Proposal.blames_iff.mp hb
    rw [hp] at ha
    obtain ⟨start, hf⟩ := History.failsSince_of_rejects ha hclosed
    obtain ⟨last, hl, -, -, hsince⟩ := id hf
    obtain ⟨q, hq, hmoment⟩ := exists_mem_of_mem_conditions (List.mem_of_getLast? hl)
    obtain rfl : q.moment = start := hmoment.symm.trans hsince
    have hle := (List.pairwise_append.mp hc).2.2 q hq p (by simp)
    exact ⟨q, by simp [hq], failsSince_apply.mpr (.inr ⟨hf, hb.keeps⟩),
      Time.count_le_of_notAfter q.isLeap_moment p.isLeap_moment hle⟩
  · exact ⟨p, by simp, failsSince_apply.mpr (.inl ⟨⟨hb, ha⟩, rfl⟩), Int.le_refl _⟩

/-- **An error that persists** for at least its tolerance is the state of the cluster, unless the
cluster was closed when it began. -/
theorem state_after_of_persisting {before window : List Pass} {opening last : Pass}
    (hc : Chronological (before ++ window)) (hopening : window.head? = some opening)
    (hlast : window.getLast? = some last)
    (hb : Throughout s (Proposal.Blames reason) (after s before) window)
    (hlong : (tolerance s reason : Int) ≤ last.moment.since opening.moment)
    (hclosed : ∀ c, (after s before).conditions.getLast? = some c → c.state ≠ .closed) :
    (after s (before ++ window)).state = some .error := by
  obtain ⟨rest, rfl⟩ := List.head?_eq_some_iff.mp hopening
  obtain ⟨q, -, hf, hle⟩ := exists_failsSince_of_blames hc hb.1 hclosed
  have hend := failsSince_foldl hf (hb.2.mono fun _ => Proposal.Blames.keeps)
  obtain ⟨init, hinit⟩ := List.getLast?_eq_some_iff.mp hlast
  rw [hinit] at hb ⊢
  have hblame := (throughout_concat.mp hb).2
  rw [← List.foldl_cons, hinit, List.foldl_append, List.foldl_cons, List.foldl_nil] at hend
  rw [after_append, List.foldl_append, List.foldl_cons, List.foldl_nil]
  obtain ⟨message, hp⟩ := Proposal.blames_iff.mp hblame
  rw [Pass.state_apply_of_error hp, if_pos]
  refine hasLasted_iff.mpr ⟨q.moment, hend, ?_⟩
  -- The error may have been in the history before the window, which only makes it older.
  have hage : (tolerance s reason : Int) ≤ last.moment.since q.moment := by
    rw [Time.since_eq_sub last.isLeap_moment opening.isLeap_moment] at hlong
    rw [Time.since_eq_sub last.isLeap_moment q.isLeap_moment]
    omega
  exact (Int.le_toNat (Int.le_trans (Int.natCast_nonneg _) hage)).mpr hage

/-- A pod that finds no place 5 seconds into a run and ever since makes an error of it 60 seconds
later. -/
theorem state_after_window :
    (after {} ([.atSecond 0 { desired := 1 }] ++
      [.atSecond 5 (unplaced 1), .atSecond 65 (unplaced 1)])).state = some .error := by
  have hb : Throughout {} (Proposal.Blames Condition.unschedulable)
      (after {} [.atSecond 0 { desired := 1 }])
      [.atSecond 5 (unplaced 1), .atSecond 65 (unplaced 1)] := by decide
  refine state_after_of_persisting (by decide) rfl rfl hb (by decide) ?_
  intro c hc
  obtain rfl := Option.some.inj hc
  decide

/-- A pod that finds no place in a closed cluster is no error of it, however long that lasts. -/
theorem exists_window_without_error :
    ∃ before opening last, Chronological (before ++ [opening, last]) ∧
      Throughout {} (Proposal.Blames Condition.unschedulable) (after {} before) [opening, last] ∧
      (tolerance {} Condition.unschedulable : Int) ≤ last.moment.since opening.moment ∧
      (after {} (before ++ [opening, last])).state = some .closed :=
  ⟨[.atSecond 0 {}, .atSecond 5 {}], .atSecond 10 (unplaced 0), .atSecond 70 (unplaced 0),
    by decide, by decide, by decide, by decide⟩

end Status

end RaftMysql
