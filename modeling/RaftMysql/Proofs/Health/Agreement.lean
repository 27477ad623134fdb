import RaftMysql.Proofs.Health.Computation
import RaftMysql.Proofs.Health.Errors

/-!
# The state of a cluster and its latest condition

A status holds a state and a history, and the two follow different rules: a proposed state comes at
once, also when the table of transitions turns its condition away, while the condition of an error
comes at once and its state only when the error has lasted. `State.latest` lists the conditions that
a history may end with in each state, and `Reached.agrees` says that every run of passes from an empty
status keeps to the list.

The step is `Status.Agrees.next`: a condition that is accepted becomes the latest one, and one that is
turned away leaves one that the new state may have as well (`State.mem_latest_of_rejects`).
-/

namespace RaftMysql

namespace State

/-- The states that the latest condition may record while the cluster is in a state. -/
def latest : State → List State
  | closed => [closed]
  | error => [error]
  | initializing => [initializing, error]
  | updating => [updating, error]
  | scaleOut => [scaleOut, error]
  | ready => [ready, error, closed]
  | scaleIn => [scaleIn, error, closed]

theorem mem_latest_self (st : State) : st ∈ st.latest := by cases st <;> decide

theorem error_mem_latest {st : State} (h : st ≠ closed) : error ∈ st.latest := by
  cases st with
  | closed => exact absurd rfl h
  | _ => decide

/-- What may be proposed in a state, errors apart. -/
def Leads (previous next : State) : Prop :=
  next = previous ∨ next = closed ∨ next = ready ∨ (next = updating ∧ previous = ready) ∨
    ((next = scaleIn ∨ next = scaleOut) ∧ Observation.isSettled previous = true)

theorem mem_latest_of_rejects {previous next : State} {last : Condition} {now : Time}
    (hlast : last.state ∈ previous.latest) (hleads : previous.Leads next)
    (hr : last.mayFollow { state := next, since := now } = false) : last.state ∈ next.latest := by
  rcases hleads with rfl | rfl | rfl | ⟨rfl, rfl⟩ | ⟨rfl | rfl, hsettled⟩
  · exact hlast
  · cases hl : last.state <;> simp_all [Condition.mayFollow, latest]
  · cases previous <;> cases hl : last.state <;> simp_all [Condition.mayFollow, latest]
  · cases hl : last.state <;> simp_all [Condition.mayFollow, latest]
  · cases previous <;> cases hl : last.state <;>
      simp_all [Condition.mayFollow, latest, Observation.isSettled]
  · cases previous <;> cases hl : last.state <;>
      simp_all [Condition.mayFollow, latest, Observation.isSettled]

end State

namespace Observation

variable {o : Observation} {previous st : State}

theorem scaling?_eq_some (h : o.scaling? = some st) : st = .scaleIn ∨ st = .scaleOut := by
  unfold scaling? at h
  split at h
  · split at h
    · exact .inr (Option.some.inj h).symm
    · split at h
      · exact .inl (Option.some.inj h).symm
      · cases h
  · cases h

theorem leads_of_proposeAfter (h : o.proposeAfter previous = .state st) : previous.Leads st := by
  unfold proposeAfter at h
  split at h
  · cases h
  split at h
  · obtain rfl := Proposal.state.inj h
    exact .inr (.inl rfl)
  split at h <;> rename_i hscaling
  · obtain rfl := Proposal.state.inj h
    split at hscaling <;> rename_i hsettled
    · exact .inr (.inr (.inr (.inr ⟨scaling?_eq_some hscaling, hsettled⟩)))
    · cases hscaling
  split at h <;> rename_i hshort
  · obtain rfl := Proposal.state.inj h
    exact .inr (.inr (.inr (.inl ⟨rfl, hshort.1⟩)))
  split at h
  · split at h
    · obtain rfl := Proposal.state.inj h
      exact .inr (.inr (.inl rfl))
    · cases h
  · split at h
    · obtain rfl := Proposal.state.inj h
      exact .inr (.inr (.inl rfl))
    · obtain rfl := Proposal.state.inj h
      exact .inl rfl

end Observation

/-! ### One pass -/

namespace Status

variable {s : StatusSettings} {status : Status} {seen : Observation} {nodes : List Node} {now : Time}

/-- There is a state, and a latest condition that it may have. -/
def Agrees (status : Status) : Prop :=
  ∃ state last, status.state = some state ∧ status.conditions.getLast? = some last ∧
    last.state ∈ state.latest

theorem agrees_first : (({} : Status).next s seen nodes now).Agrees :=
  ⟨.initializing, { state := .initializing, since := now }, rfl, rfl, State.mem_latest_self _⟩

theorem agrees_of_state {previous st : State} {last : Condition} (hstate : status.state = some previous)
    (hl : status.conditions.getLast? = some last) (hlast : last.state ∈ previous.latest)
    (hp : seen.propose status.state = .state st) : (status.next s seen nodes now).Agrees := by
  have hleads : previous.Leads st := by
    rw [hstate] at hp
    exact Observation.leads_of_proposeAfter hp
  have hnext : (status.next s seen nodes now).state = some st := state_next_of_state hp
  have hconditions : (status.next s seen nodes now).conditions =
      status.conditions.append { state := st, since := now } := by
    rw [conditions_next, hp]
    rfl
  rcases ha : status.conditions.accepts { state := st, since := now } with _ | _
  · have hr : last.mayFollow { state := st, since := now } = false := by
      unfold History.accepts at ha
      rwa [hl] at ha
    rw [History.append_of_rejects ha] at hconditions
    exact ⟨st, last, hnext, by rw [hconditions, hl], State.mem_latest_of_rejects hlast hleads hr⟩
  · refine ⟨st, { state := st, since := now }, hnext, ?_, State.mem_latest_self st⟩
    rw [hconditions]
    exact History.getLast?_append_of_accepts ha

/-- The latest condition after an error is proposed: the error, which is not accepted after the end of
a cluster, or the one there was. -/
theorem latest_of_error {previous : State} {last : Condition} {reason message : String}
    (hl : status.conditions.getLast? = some last) (hlast : last.state ∈ previous.latest) :
    ∃ last', (status.conditions.append (Condition.ofError reason message now)).getLast? = some last' ∧
      last'.state ∈ previous.latest := by
  rcases ha : status.conditions.accepts (Condition.ofError reason message now) with _ | _
  · rw [History.append_of_rejects ha]
    exact ⟨last, hl, hlast⟩
  · refine ⟨_, History.getLast?_append_of_accepts ha, State.error_mem_latest ?_⟩
    rintro rfl
    have hclosed : last.state = .closed := by simpa [State.latest] using hlast
    unfold History.accepts at ha
    rw [hl] at ha
    simp [Condition.mayFollow, hclosed, Condition.ofError] at ha

theorem agrees_of_error {previous : State} {last : Condition} {reason message : String}
    (hstate : status.state = some previous) (hl : status.conditions.getLast? = some last)
    (hlast : last.state ∈ previous.latest)
    (hp : seen.propose status.state = .error reason message) :
    (status.next s seen nodes now).Agrees := by
  have hconditions : (status.next s seen nodes now).conditions =
      status.conditions.append (Condition.ofError reason message now) := by
    rw [conditions_next, hp]
    rfl
  obtain ⟨last', hl', hlast'⟩ : ∃ last', (status.next s seen nodes now).conditions.getLast? =
      some last' ∧ last'.state ∈ previous.latest := by
    rw [hconditions]
    exact latest_of_error hl hlast
  have hnext : (status.next s seen nodes now).state =
      if hasLasted s (status.next s seen nodes now) reason now then some .error else some previous := by
    rw [state_next_of_error hp, hstate, Option.getD_some]
  by_cases hlasted : hasLasted s (status.next s seen nodes now) reason now = true
  · obtain ⟨start, ⟨last'', hl'', herror, -⟩, -⟩ := hasLasted_iff.mp hlasted
    rw [if_pos hlasted] at hnext
    exact ⟨.error, last'', hnext, hl'', by simp [herror, State.latest]⟩
  · rw [if_neg hlasted] at hnext
    exact ⟨previous, last', hnext, hl', hlast'⟩

/-- **The step**: a pass keeps the state and the latest condition in agreement. -/
theorem Agrees.next (h : status.Agrees) : (status.next s seen nodes now).Agrees := by
  obtain ⟨previous, last, hstate, hl, hlast⟩ := h
  match hp : seen.propose status.state with
  | .state st => exact agrees_of_state hstate hl hlast hp
  | .error reason message => exact agrees_of_error hstate hl hlast hp

end Status

/-! ### Runs -/

/-- The statuses that runs of one or more passes over a cluster never seen before come to. -/
inductive Reached (s : StatusSettings) : Status → Prop
  | first (seen : Observation) (nodes : List Node) (now : Time) :
    Reached s (({} : Status).next s seen nodes now)
  | next {status : Status} (h : Reached s status) (seen : Observation) (nodes : List Node)
    (now : Time) : Reached s (status.next s seen nodes now)

/-- **The state and the latest condition agree** in every status that a run of one or more passes over a
cluster never seen before comes to, whatever the passes see and whenever they come: there is a state,
and the history ends with a condition that this state may have. -/
theorem Reached.agrees {s : StatusSettings} {status : Status} (h : Reached s status) :
    status.Agrees := by
  induction h with
  | first seen nodes now => exact Status.agrees_first
  | next h seen nodes now ih => exact ih.next

theorem reached_after {s : StatusSettings} {passes : List Pass} (h : passes ≠ []) :
    Reached s (Status.after s passes) := by
  induction passes using List.reverseRecOn with
  | nil => exact absurd rfl h
  | append_singleton passes p ih =>
    rw [Status.after_concat]
    by_cases hnil : passes = []
    · subst hnil
      exact .first p.seen p.nodes p.moment
    · exact .next (ih hnil) p.seen p.nodes p.moment

theorem Health.reached_of_compute {c : Cluster} {settings : Settings} {t : Trace} {status : Status}
    (hcopy : ∀ stored ∈ c.status, Reached settings.status stored)
    (hrun : (compute c settings).Run t (.ok status)) : Reached settings.status status := by
  obtain ⟨now, seen, nodes, -, -, -, rfl⟩ := run_compute hrun
  rcases hstatus : c.status with _ | stored
  · exact .first seen nodes now
  · exact .next (hcopy stored hstatus) seen nodes now

/-! ### A cluster that is closed and opened again -/

/-- A cluster that was closed and opened again, with all its members ready. -/
def reopened : Status :=
  ((({} : Status).next {} { desired := 0, running := some 0, ready := 0, raftReady := false } []
    ⟨0, 0⟩).next {} { desired := 0, running := some 0, ready := 0, raftReady := false } []
    ⟨1, 0⟩).next {} { desired := 3, running := some 3, ready := 3, raftReady := true } [] ⟨2, 0⟩

/-- The cluster is ready again, while its latest condition says that it is closed. -/
theorem agrees_reopened : reopened.Agrees ∧ reopened.state = some .ready ∧
    reopened.conditions.map (·.state) = [.initializing, .closed] := by
  have hreached : Reached {} reopened := .next (.next (.first _ _ _) _ _ _) _ _ _
  exact ⟨hreached.agrees, by decide, by decide⟩

end RaftMysql
