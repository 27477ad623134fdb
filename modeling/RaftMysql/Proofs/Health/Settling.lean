import RaftMysql.Proofs.Health.Agreement
import RaftMysql.Proofs.Health.Headcount
import RaftMysql.Proofs.Topology.Freshness

/-!
# When a status comes to rest

A `Scene` is a world that stays as it is: every pass over it sees the same and its looks at the members
report the same. `Scene.run` is the status pass after pass, and `Scene.rests_iff` tells when it comes to
rest. It does, after two passes and perhaps one more in which a lasting error becomes the state, unless
the observation wavers (`Observation.Wavers`): all the members that the cluster should have are ready,
but the workload runs another number of them. Such a cluster is taken for one that changes its size when
it is ready, and for a ready one when it changes its size, so no pass leaves its state alone.

Otherwise a pass proposes what the pass before it proposed, from the second pass on
(`Observation.settles_or`), and a proposal that is made again adds nothing to the history
(`History.rejects_again`). The entries of the members rest after the first pass (`Status.look_of_holds`).
-/

namespace RaftMysql

/-! ### Reports that repeat themselves -/

@[simp] theorem Slot.record_record (slot : Slot) (verdict : Verdict) (before now : Time) :
    (slot.record verdict before).record verdict now = slot.record verdict before := by
  have hverdict : (slot.record verdict before).verdict = verdict := by
    unfold record
    split
    · assumption
    · rfl
  exact if_pos hverdict

theorem Node.record_record (n : Node) (r : Report) (before now : Time) :
    (n.record r before).record r now = n.record r before := by
  simp [record, NodeConditions.record, NodeConditions.put, NodeConditions.get]

namespace Status

variable {nodes : List Node} {host : String} {r : Report} {reports : List (String × Report)}
  {before now : Time}

/-- The entries after one look at a member, and its report. -/
def recordAt (nodes : List Node) (host : String) (r : Report) (now : Time) : List Node :=
  updateFirst (withNode nodes host now) host fun n => n.record r now

/-- The entries after looks at several members, one after the other. -/
def look (nodes : List Node) (reports : List (String × Report)) (now : Time) : List Node :=
  reports.foldl (fun nodes r => recordAt nodes r.1 r.2 now) nodes

/-- The entry of a host holds a report: to record it again changes nothing. -/
def Holds (nodes : List Node) (host : String) (r : Report) : Prop :=
  ∃ n, nodes.find? (fun n => n.name == host) = some n ∧ ∀ now, n.record r now = n

theorem holds_recordAt : Holds (recordAt nodes host r now) host r := by
  have hname : ∀ n : Node, (n.record r now).name = n.name := fun _ => rfl
  have hfind : (recordAt nodes host r now).find? (fun n => n.name == host) =
      some (((nodes.find? fun n => n.name == host).getD (.unknown host now)).record r now) := by
    unfold recordAt
    rw [find?_updateFirst hname, find?_withNode, Option.map_some]
  exact ⟨_, hfind, fun now' => Node.record_record _ r now now'⟩

theorem Holds.recordAt_of_ne {other : String} {r' : Report} (h : Holds nodes host r)
    (hne : other ≠ host) : Holds (recordAt nodes other r' now) host r := by
  have hname : ∀ n : Node, (n.record r' now).name = n.name := fun _ => rfl
  obtain ⟨n, hn, hsame⟩ := h
  refine ⟨n, ?_, hsame⟩
  unfold recordAt
  rw [find?_updateFirst_of_ne hname _ hne, find?_withNode_of_ne _ hne, hn]

theorem Holds.recordAt_eq (h : Holds nodes host r) : recordAt nodes host r now = nodes := by
  obtain ⟨n, hn, hsame⟩ := h
  unfold recordAt
  rw [withNode_of_find? hn, updateFirst_of_eq hn (hsame now)]

theorem Holds.look_of_notMem (h : Holds nodes host r) (hnot : host ∉ reports.map Prod.fst) :
    Holds (look nodes reports now) host r := by
  induction reports generalizing nodes with
  | nil => exact h
  | cons p reports ih =>
    rw [List.map_cons, List.mem_cons, not_or] at hnot
    exact ih (h.recordAt_of_ne (Ne.symm hnot.1)) hnot.2

/-- Each report is held in the end, as no other look is at the same host. -/
theorem holds_look (hnodup : (reports.map Prod.fst).Nodup) :
    ∀ p ∈ reports, Holds (look nodes reports now) p.1 p.2 := by
  induction reports generalizing nodes with
  | nil => simp
  | cons q reports ih =>
    obtain ⟨hnot, hrest⟩ := List.nodup_cons.mp hnodup
    intro p hp
    rcases List.mem_cons.mp hp with rfl | hp
    · exact holds_recordAt.look_of_notMem hnot
    · exact ih hrest p hp

theorem look_of_holds (h : ∀ p ∈ reports, Holds nodes p.1 p.2) : look nodes reports now = nodes := by
  induction reports with
  | nil => rfl
  | cons p reports ih =>
    show look (recordAt nodes p.1 p.2 now) reports now = nodes
    rw [(h p (by simp)).recordAt_eq]
    exact ih fun q hq => h q (List.mem_cons_of_mem _ hq)

end Status

/-! ### What is proposed again -/

/-- The state that a proposal may lead to. -/
def Proposal.target : Proposal → State
  | .state st => st
  | .error _ _ => .error

namespace Observation

variable {o : Observation} {previous st : State}

/-- All the members that the cluster should have are ready, but its workload runs another number of
them. -/
def Wavers (o : Observation) : Prop :=
  o.unschedulable = none ∧ (0 < o.desired ∧ o.ready = o.desired ∧ o.raftReady = true) ∧
    o.scaling?.isSome = true

instance (o : Observation) : Decidable o.Wavers := by unfold Wavers; infer_instance

/-- What is proposed in a state is proposed again in the state that it may lead to. -/
def Settles (o : Observation) (st : Option State) : Prop :=
  o.propose (some (o.propose st).target) = o.propose st

theorem isConverging_of_scaling? (h : o.scaling? = some st) : st.isConverging = true := by
  rcases scaling?_eq_some h with rfl | rfl <;> rfl

theorem proposeAfter_of_unschedulable {message : String} (h : o.unschedulable = some message) :
    o.proposeAfter previous = .error Condition.unschedulable message := by
  unfold proposeAfter
  rw [h]

theorem proposeAfter_of_empty (hnone : o.unschedulable = none) (h : o.desired = 0 ∧ o.ready = 0) :
    o.proposeAfter previous = .state .closed := by
  unfold proposeAfter
  rw [hnone]
  exact if_pos h

theorem proposeAfter_of_scaling (hnone : o.unschedulable = none) (h : ¬ (o.desired = 0 ∧ o.ready = 0))
    (hsettled : isSettled previous = true) (hscaling : o.scaling? = some st) :
    o.proposeAfter previous = .state st := by
  unfold proposeAfter
  rw [hnone]
  dsimp only
  rw [if_neg h, if_pos hsettled, hscaling]

/-- What is proposed in a lasting state when the workload runs as many members as it should. -/
theorem proposeAfter_of_steady (hnone : o.unschedulable = none) (h : ¬ (o.desired = 0 ∧ o.ready = 0))
    (hsettled : isSettled previous = true) (hscaling : o.scaling? = none) :
    o.proposeAfter previous =
      if previous = .ready ∧ o.ready < o.desired then .state .updating
      else if previous = .ready ∨ previous = .error then
        if o.raftReady then .state .ready else Proposal.raftNotReady
      else if 0 < o.desired ∧ o.ready = o.desired ∧ o.raftReady = true then .state .ready
      else .state previous := by
  unfold proposeAfter
  rw [hnone]
  dsimp only
  rw [if_neg h, if_pos hsettled, hscaling]

theorem settles_of_state (h : o.proposeAfter previous = .state st)
    (hagain : o.proposeAfter st = .state st) : o.Settles (some previous) := by
  show o.proposeAfter (o.proposeAfter previous).target = o.proposeAfter previous
  rw [h]
  exact hagain

theorem settles_of_unschedulable {message : String} (h : o.unschedulable = some message) :
    o.Settles (some previous) := by
  show o.proposeAfter _ = o.proposeAfter previous
  rw [proposeAfter_of_unschedulable h, proposeAfter_of_unschedulable h]

theorem scaling?_eq_none (hw : ¬ o.Wavers) (hnone : o.unschedulable = none)
    (hfull : 0 < o.desired ∧ o.ready = o.desired ∧ o.raftReady = true) : o.scaling? = none := by
  rcases hscaling : o.scaling? with _ | st
  · rfl
  · exact absurd ⟨hnone, hfull, by rw [hscaling]; rfl⟩ hw

section

variable (hw : ¬ o.Wavers) (hnone : o.unschedulable = none) (hopen : ¬ (o.desired = 0 ∧ o.ready = 0))
include hnone hopen

theorem proposeAfter_of_converging_self (hconverging : st.isConverging = true)
    (hfull : ¬ (0 < o.desired ∧ o.ready = o.desired ∧ o.raftReady = true)) :
    o.proposeAfter st = .state st := by
  rw [proposeAfter_of_converging hconverging hnone, if_neg hopen, if_neg hfull]

theorem proposeAfter_ready_self (hready : ¬ o.ready < o.desired) (hraft : o.raftReady = true)
    (hscaling : o.scaling? = none) : o.proposeAfter .ready = .state .ready := by
  rw [proposeAfter_of_steady hnone hopen rfl hscaling, if_neg fun h => hready h.2, if_pos (.inl rfl),
    if_pos hraft]

theorem proposeAfter_error_of_steady (hscaling : o.scaling? = none) : o.proposeAfter .error =
    if o.raftReady then .state .ready else Proposal.raftNotReady := by
  rw [proposeAfter_of_steady hnone hopen rfl hscaling, if_neg fun h => absurd h.1 (by decide),
    if_pos (.inr rfl)]

theorem settles_ready (hscaling : o.scaling? = none) : o.Settles (some .ready) := by
  by_cases hshort : o.ready < o.desired
  · have hupdating : o.proposeAfter .ready = .state .updating := by
      rw [proposeAfter_of_steady hnone hopen rfl hscaling, if_pos ⟨rfl, hshort⟩]
    have hfull : ¬ (0 < o.desired ∧ o.ready = o.desired ∧ o.raftReady = true) := by omega
    exact settles_of_state hupdating (proposeAfter_of_converging_self hnone hopen rfl hfull)
  by_cases hraft : o.raftReady = true
  · have hself := proposeAfter_ready_self hnone hopen hshort hraft hscaling
    exact settles_of_state hself hself
  -- The error of the group is proposed in the state that it leads to as well.
  · have herror : o.proposeAfter .ready = Proposal.raftNotReady := by
      rw [proposeAfter_of_steady hnone hopen rfl hscaling, if_neg fun h => hshort h.2,
        if_pos (.inl rfl), if_neg hraft]
    show o.proposeAfter (o.proposeAfter .ready).target = o.proposeAfter .ready
    rw [herror]
    exact (proposeAfter_error_of_steady hnone hopen hscaling).trans (if_neg hraft)

theorem settles_closed (hscaling : o.scaling? = none) : o.Settles (some .closed) := by
  have hclosed : o.proposeAfter .closed =
      if 0 < o.desired ∧ o.ready = o.desired ∧ o.raftReady = true then .state .ready
      else .state .closed := by
    rw [proposeAfter_of_steady hnone hopen rfl hscaling, if_neg fun h => absurd h.1 (by decide),
      if_neg (by decide)]
  by_cases hfull : 0 < o.desired ∧ o.ready = o.desired ∧ o.raftReady = true
  · exact settles_of_state (hclosed.trans (if_pos hfull))
      (proposeAfter_ready_self hnone hopen (by omega) hfull.2.2 hscaling)
  · have hself := hclosed.trans (if_neg hfull)
    exact settles_of_state hself hself

theorem settles_error_or (hscaling : o.scaling? = none) :
    o.Settles (some .error) ∨ o.proposeAfter .error = .state .ready := by
  have herror := proposeAfter_error_of_steady hnone hopen hscaling
  by_cases hraft : o.raftReady = true
  · exact .inr (herror.trans (if_pos hraft))
  · left
    show o.proposeAfter (o.proposeAfter .error).target = o.proposeAfter .error
    rw [herror, if_neg hraft]
    exact herror.trans (if_neg hraft)

include hw

theorem settles_of_converging (hconverging : st.isConverging = true) : o.Settles (some st) := by
  by_cases hfull : 0 < o.desired ∧ o.ready = o.desired ∧ o.raftReady = true
  · have hready : o.proposeAfter st = .state .ready := by
      rw [proposeAfter_of_converging hconverging hnone, if_neg hopen, if_pos hfull]
    have hscaling := scaling?_eq_none hw hnone hfull
    exact settles_of_state hready
      (proposeAfter_ready_self hnone hopen (by omega) hfull.2.2 hscaling)
  · have hself := proposeAfter_of_converging_self hnone hopen hconverging hfull
    exact settles_of_state hself hself

theorem settles_of_scaling (hsettled : isSettled previous = true) (hscaling : o.scaling? = some st) :
    o.Settles (some previous) := by
  have hfull : ¬ (0 < o.desired ∧ o.ready = o.desired ∧ o.raftReady = true) := by
    intro hfull
    rw [scaling?_eq_none hw hnone hfull] at hscaling
    cases hscaling
  exact settles_of_state (proposeAfter_of_scaling hnone hopen hsettled hscaling)
    (proposeAfter_of_converging_self hnone hopen (isConverging_of_scaling? hscaling) hfull)

theorem settles_or_ready (previous : State) : o.Settles (some previous) ∨
    o.proposeAfter previous = .state .ready ∧ o.Settles (some .ready) := by
  cases previous with
  | initializing | updating | scaleIn | scaleOut =>
    exact .inl (settles_of_converging hw hnone hopen rfl)
  | ready | closed | error =>
    rcases hscaling : o.scaling? with _ | st
    · first
      | exact .inl (settles_ready hnone hopen hscaling)
      | exact .inl (settles_closed hnone hopen hscaling)
      | exact (settles_error_or hnone hopen hscaling).imp_right
          fun h => ⟨h, settles_ready hnone hopen hscaling⟩
    · exact .inl (settles_of_scaling hw hnone hopen rfl hscaling)

end

/-- **What is proposed is proposed again**, at once or in the state that comes of it, unless the
observation wavers. -/
theorem settles_or (hw : ¬ o.Wavers) (st : Option State) :
    o.Settles st ∨ ∃ st', o.propose st = .state st' ∧ o.Settles (some st') := by
  rcases hnone : o.unschedulable with _ | message
  · by_cases hempty : o.desired = 0 ∧ o.ready = 0
    · have hclosed : ∀ st, o.Settles (some st) := fun st =>
        settles_of_state (proposeAfter_of_empty hnone hempty) (proposeAfter_of_empty hnone hempty)
      match st with
      | none => exact .inr ⟨.initializing, rfl, hclosed _⟩
      | some st => exact .inl (hclosed st)
    · match st with
      | none => exact .inr ⟨.initializing, rfl, settles_of_converging hw hnone hempty rfl⟩
      | some st => exact (settles_or_ready hw hnone hempty st).imp_right fun h => ⟨.ready, h⟩
  · match st with
    | none => exact .inr ⟨.initializing, rfl, settles_of_unschedulable hnone⟩
    | some st => exact .inl (settles_of_unschedulable hnone)

theorem Wavers.propose_ne (hw : o.Wavers) (st : Option State) :
    ∃ st', o.propose st = .state st' ∧ some st' ≠ st := by
  obtain ⟨hnone, hfull, hscaling⟩ := hw
  obtain ⟨size, hsize⟩ := Option.isSome_iff_exists.mp hscaling
  have hopen : ¬ (o.desired = 0 ∧ o.ready = 0) := by omega
  have hconverging : ∀ {previous : State}, previous.isConverging = true →
      o.proposeAfter previous = .state .ready ∧ some State.ready ≠ some previous := by
    intro previous h
    refine ⟨by rw [proposeAfter_of_converging h hnone, if_neg hopen, if_pos hfull], ?_⟩
    rintro ⟨rfl⟩
    cases h
  have hsettled : ∀ {previous : State}, isSettled previous = true →
      o.proposeAfter previous = .state size ∧ some size ≠ some previous := by
    intro previous h
    refine ⟨proposeAfter_of_scaling hnone hopen h hsize, ?_⟩
    rintro ⟨rfl⟩
    rcases scaling?_eq_some hsize with rfl | rfl <;> cases h
  match st with
  | none => exact ⟨.initializing, rfl, by simp⟩
  | some previous =>
    have hkind : previous.isConverging = true ∨ isSettled previous = true := by
      cases previous <;> decide
    rcases hkind with h | h
    · exact ⟨.ready, hconverging h⟩
    · exact ⟨size, hsettled h⟩

end Observation

/-! ### Passes over a world that stays as it is -/

/-- A world that stays as it is: what passes over it see, and what their looks at the members report. -/
structure Scene where
  seen : Observation
  reports : List (String × Report)
  /-- No member is looked at twice. -/
  nodup_hosts : (reports.map Prod.fst).Nodup

namespace Scene

variable {s : StatusSettings} {scene : Scene} {status : Status} {moments : ℕ → Time} {now : Time}

/-- The status that a pass over the scene makes of one. -/
def pass (s : StatusSettings) (scene : Scene) (status : Status) (now : Time) : Status :=
  status.next s scene.seen (Status.look status.nodes scene.reports now) now

/-- The status after so many passes over the scene. -/
def run (s : StatusSettings) (scene : Scene) (status : Status) (moments : ℕ → Time) : ℕ → Status
  | 0 => status
  | n + 1 => pass s scene (run s scene status moments n) (moments n)

/-- Nothing is left for a pass over the scene to change, unless an error is going to be the state. -/
structure Still (scene : Scene) (status : Status) : Prop where
  settles : scene.seen.Settles status.state
  came : ∀ st, scene.seen.propose status.state = .state st → status.state = some st
  rejects : ∀ now,
    status.conditions.accepts ((scene.seen.propose status.state).condition now) = false
  counts : status.readyNodes = scene.seen.ready
  holds : ∀ p ∈ scene.reports, Status.Holds status.nodes p.1 p.2

/-- The pass leaves the status as it is, or makes an error of its state and changes nothing else. -/
def Rests (status status' : Status) : Prop :=
  status' = status ∨ status.state ≠ some .error ∧ status' = { status with state := some .error }

theorem isSome_of_error {reason message : String}
    (h : scene.seen.propose status.state = .error reason message) :
    ∃ previous, status.state = some previous := by
  rcases hstate : status.state with _ | previous
  · rw [hstate] at h
    cases h
  · exact ⟨previous, rfl⟩

theorem Still.pass_eq (h : scene.Still status) :
    pass s scene status now = status.accept s (scene.seen.propose status.state) now := by
  have hlook : Status.look status.nodes scene.reports now = status.nodes :=
    Status.look_of_holds h.holds
  unfold pass Status.next
  rw [hlook, ← h.counts]

theorem Still.rests (h : scene.Still status) : Rests status (pass s scene status now) := by
  have happend : status.append ((scene.seen.propose status.state).condition now) = status := by
    unfold Status.append
    rw [History.append_of_rejects (h.rejects now)]
  rw [h.pass_eq]
  match hp : scene.seen.propose status.state with
  | .state st =>
    have hstate := h.came st hp
    rw [hp] at happend
    left
    show { status.append (Proposal.condition (.state st) now) with state := some st } = status
    rw [happend, ← hstate]
  | .error reason message =>
    obtain ⟨previous, hstate⟩ := isSome_of_error hp
    rw [hp] at happend
    unfold Status.accept
    dsimp only
    have hsame : status.append (Condition.ofError reason message now) = status := happend
    rw [hsame]
    by_cases hlasted : Status.hasLasted s status reason now = true
    · rw [if_pos hlasted]
      by_cases herror : status.state = some .error
      · left
        rw [← herror]
      · exact .inr ⟨herror, rfl⟩
    · rw [if_neg hlasted, if_neg (by simp [hstate])]
      exact .inl rfl

theorem propose_pass (h : scene.seen.Settles status.state) :
    scene.seen.propose (pass s scene status now).state = scene.seen.propose status.state := by
  match hp : scene.seen.propose status.state with
  | .state st =>
    have hnext : (pass s scene status now).state = some st := Status.state_next_of_state hp
    unfold Observation.Settles at h
    rw [hp] at h
    rw [hnext]
    exact h
  | .error reason message =>
    obtain ⟨previous, hstate⟩ := isSome_of_error hp
    unfold pass
    rw [Status.state_next_of_error hp]
    split
    · unfold Observation.Settles at h
      rw [hp] at h
      exact h
    · rw [← hp, hstate]
      rfl

theorem settles_pass (h : scene.seen.Settles status.state) :
    scene.seen.Settles (pass s scene status now).state := by
  unfold Observation.Settles at h ⊢
  rw [propose_pass h, h]

/-- **The step**: once a proposal settles, one pass is enough. -/
theorem still_pass (h : scene.seen.Settles status.state) : scene.Still (pass s scene status now) := by
  have hpropose := @propose_pass s scene status now h
  refine ⟨settles_pass h, fun st hst => ?_, fun later => ?_, ?_, ?_⟩
  · rw [hpropose] at hst
    exact Status.state_next_of_state hst
  · have hne : scene.seen.propose status.state ≠ .state .error :=
      Pass.proposal_ne_error (p := ⟨⟨0, 0⟩, scene.seen, [], rfl⟩)
    unfold pass at hpropose ⊢
    rw [hpropose, Status.conditions_next]
    exact History.rejects_again _ hne now later
  · exact Status.readyNodes_accept
  · unfold pass Status.next
    rw [Status.nodes_accept]
    exact Status.holds_look scene.nodup_hosts

theorem Still.pass (h : scene.Still status) : scene.Still (pass s scene status now) :=
  still_pass h.settles

theorem still_run_add {n : ℕ} (h : scene.Still (run s scene status moments n)) (m : ℕ) :
    scene.Still (run s scene status moments (n + m)) := by
  induction m with
  | zero => exact h
  | succ m ih => exact ih.pass

theorem still_run (hw : ¬ scene.seen.Wavers) {n : ℕ} (hn : 2 ≤ n) :
    scene.Still (run s scene status moments n) := by
  have htwo : scene.Still (run s scene status moments 2) := by
    rcases Observation.settles_or hw status.state with hsettles | ⟨st, hst, hsettles⟩
    · exact (still_pass hsettles).pass
    · have hfirst : (run s scene status moments 1).state = some st :=
        Status.state_next_of_state hst
      exact still_pass (by rwa [hfirst])
  obtain ⟨m, rfl⟩ := Nat.exists_eq_add_of_le hn
  exact still_run_add htwo m

/-- A status that has nothing left to change but its state to an error rests: the error comes once or
never. -/
theorem exists_rest {n : ℕ}
    (h : ∀ m, n ≤ m → Rests (run s scene status moments m) (run s scene status moments (m + 1))) :
    ∃ k, ∀ m, k ≤ m → run s scene status moments m = run s scene status moments k := by
  have hstays : ∀ k, (∀ m, k ≤ m → run s scene status moments (m + 1) = run s scene status moments m) →
      ∀ m, k ≤ m → run s scene status moments m = run s scene status moments k := by
    intro k hk m hm
    induction m, hm using Nat.le_induction with
    | base => rfl
    | succ m hm ih => rw [hk m hm, ih]
  by_cases herror : ∃ k, n ≤ k ∧ (run s scene status moments k).state = some .error
  · obtain ⟨k, hk, hstate⟩ := herror
    have hall : ∀ m, k ≤ m → (run s scene status moments m).state = some .error := by
      intro m hm
      induction m, hm using Nat.le_induction with
      | base => exact hstate
      | succ m hm ih =>
        rcases h m (hk.trans hm) with hsame | ⟨hne, -⟩
        · rw [hsame, ih]
        · exact absurd ih hne
    refine ⟨k, hstays k fun m hm => ?_⟩
    exact (h m (hk.trans hm)).resolve_right fun hr => hr.1 (hall m hm)
  · refine ⟨n, hstays n fun m hm => ?_⟩
    refine (h m hm).resolve_right fun hr => herror ⟨m + 1, by omega, ?_⟩
    rw [hr.2]

theorem state_run_ne (hw : scene.seen.Wavers) (n : ℕ) :
    (run s scene status moments (n + 1)).state ≠ (run s scene status moments n).state := by
  obtain ⟨st, hst, hne⟩ := hw.propose_ne (run s scene status moments n).state
  have hnext : (run s scene status moments (n + 1)).state = some st :=
    Status.state_next_of_state hst
  rwa [hnext]

/-- **When a status comes to rest**: from whatever status passes set out over a world that stays as it
is, and whenever they come, the status stops changing if and only if the observation does not waver.
If it does not, two passes are enough, after which at most the state becomes an error, once it has
lasted. If it does, every pass changes the state. -/
theorem rests_iff (s : StatusSettings) (scene : Scene) (status : Status) (moments : ℕ → Time) :
    ((∃ n, ∀ m, n ≤ m → run s scene status moments m = run s scene status moments n) ↔
        ¬ scene.seen.Wavers) ∧
      (¬ scene.seen.Wavers → ∀ n, 2 ≤ n →
        Rests (run s scene status moments n) (run s scene status moments (n + 1))) ∧
      (scene.seen.Wavers → ∀ n,
        (run s scene status moments (n + 1)).state ≠ (run s scene status moments n).state) := by
  have hrests : ¬ scene.seen.Wavers → ∀ n, 2 ≤ n →
      Rests (run s scene status moments n) (run s scene status moments (n + 1)) :=
    fun hw n hn => (still_run hw hn).rests
  refine ⟨⟨?_, fun hw => exists_rest (hrests hw)⟩, hrests, fun hw n => state_run_ne hw n⟩
  rintro ⟨n, hn⟩ hw
  exact state_run_ne hw n (congrArg Status.state (hn (n + 1) (by omega)))

/-- A workload that runs one member less than the cluster should have, while all of them are ready. -/
def shortScene : Scene where
  seen := { desired := 3, running := some 2, ready := 3, raftReady := true }
  reports := []
  nodup_hosts := List.nodup_nil

/-- A status that passes from an empty one come to, and an observation that stays as it is from then on,
but no end to the changes: the cluster is ready and growing in turn, and each time it is recorded to
grow. -/
theorem exists_restless : ∃ (scene : Scene) (status : Status) (moments : ℕ → Time),
    Reached {} status ∧
      (¬ ∃ n, ∀ m, n ≤ m → run {} scene status moments m = run {} scene status moments n) ∧
      (run {} scene status moments 5).conditions.map (·.state) =
        [.initializing, .ready, .scaleOut, .ready, .scaleOut, .ready] := by
  have hwavers : shortScene.seen.Wavers := by decide
  refine ⟨shortScene, ({} : Status).next {} shortScene.seen [] ⟨0, 0⟩, fun n => ⟨n + 1, 0⟩,
    .first _ _ _, ?_, by decide⟩
  rintro ⟨n, hn⟩
  exact state_run_ne hwavers n (congrArg Status.state (hn (n + 1) (by omega)))

end Scene

/-! ### Passes over a cluster -/

namespace Health

variable {c : Cluster} {settings : Settings} {now : Time} {t : Trace}

theorem look_of_lookAtAll {credentials : Credentials} {status status' : Status} {pods : List Pod}
    (h : Program.Run (lookAtAll c settings credentials now status pods) t status') :
    ∃ reports : List (String × Report),
      reports.map Prod.fst = pods.map (fun pod => c.hostOf pod.name) ∧
        status' = { status with nodes := Status.look status.nodes reports now } := by
  induction pods generalizing status t with
  | nil =>
    obtain ⟨-, rfl⟩ := Program.run_pure.mp h
    exact ⟨[], rfl, rfl⟩
  | cons pod pods ih =>
    obtain ⟨t₁, t₂, status₁, rfl, h₁, h₂⟩ := Program.run_bind.mp h
    obtain ⟨reports, hhosts, rfl⟩ := ih h₂
    obtain ⟨t₃, t₄, moving, rfl, -, h₃⟩ := Program.run_bind.mp h₁
    obtain ⟨t₅, t₆, report, rfl, -, h₄⟩ := Program.run_bind.mp h₃
    obtain ⟨t₇, t₈, _, rfl, -, h₅⟩ := Program.run_bind.mp h₄
    obtain ⟨-, rfl⟩ := Program.run_pure.mp h₅
    exact ⟨(c.hostOf pod.name, report) :: reports, by rw [List.map_cons, List.map_cons, hhosts], rfl⟩

theorem look_of_refresh {status status' : Status} {ready : List Pod}
    (h : Program.Run (refresh c settings now status ready) t status') :
    ∃ reports : List (String × Report),
      (reports.map Prod.fst).Sublist (ready.map fun pod => c.hostOf pod.name) ∧
        status' = { status with nodes := Status.look status.nodes reports now } := by
  obtain ⟨t₁, t₂, x, rfl, -, h⟩ := Program.run_bind.mp h
  match x with
  | .ok (some credentials) =>
    obtain ⟨reports, hhosts, hstatus⟩ := look_of_lookAtAll h
    exact ⟨reports, hhosts ▸ List.Sublist.refl _, hstatus⟩
  | .ok none | .error _ =>
    obtain ⟨-, rfl⟩ := Program.run_pure.mp h
    exact ⟨[], List.nil_sublist _, rfl⟩

/-- **A pass over a cluster** is one over the scene that it finds, if it was not shown two pods of one
name. -/
theorem exists_scene_of_compute {status : Status} (hrun : (compute c settings).Run t (.ok status))
    (hnodup : ∀ pods : List Pod, ⟨.list .pod c.selector, .ok pods⟩ ∈ t →
      (pods.map Manifest.name).Nodup) :
    ∃ (scene : Scene) (now : Time), scene.seen.desired = c.replicas ∧
      status = scene.pass settings.status (c.status.getD {}) now := by
  cases computes_of_run hrun with
  | @concluded now pods looks refreshed workload occurrence hlooks =>
    obtain ⟨reports, hhosts, rfl⟩ := look_of_refresh hlooks
    have hready : ((pods.filter Pod.isReady).map fun pod => c.hostOf pod.name).Nodup := by
      have hnames : ((pods.filter Pod.isReady).map Manifest.name).Nodup :=
        (hnodup pods (by simp)).sublist (List.filter_sublist.map _)
      have hhosts : ((pods.filter Pod.isReady).map Manifest.name).map c.hostOf =
          (pods.filter Pod.isReady).map fun pod => c.hostOf pod.name := List.map_map
      rw [← hhosts]
      exact hnames.map fun _ _ => Topology.hostOf_inj
    exact ⟨⟨observe c pods workload _, reports, hready.sublist hhosts⟩, now, rfl, rfl⟩

theorem leaves_status_of_pass {status : Status} (hrun : (pass c settings).Run t (.ok status))
    (hsame : c.status = some status) : ∀ e ∈ t, e.request.OnlyPods := by
  generalize hr : Except.ok status = r at hrun
  cases goes_of_run hrun with
  | failed => cases hr
  | unchanged hcompute => exact hcompute.asks onlyPods_compute
  | written hcompute hother =>
    obtain rfl := eq_of_afterWrite hr.symm
    exact absurd hsame hother

end Health

end RaftMysql
