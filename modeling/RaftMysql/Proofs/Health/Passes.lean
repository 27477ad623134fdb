import RaftMysql.Health.Pass
import RaftMysql.Proofs.Cluster.Continuity

/-!
# Runs of status passes

A `Pass` is what one status pass contributes to the status: the moment it began at, what it saw and
the entries of the members after it looked at them. `Pass.apply` is the status that it stores, and
`Status.after` the status after a run of passes over a cluster never seen before.

The time of day that passes read has no leap seconds, so between their moments `Time.since` is a
plain difference (`Time.since_eq_sub`).
-/

namespace RaftMysql

/-! ### Moments -/

namespace Time

/-- A moment in nanoseconds since the beginning of 1970. -/
def count (t : Time) : Int := t.seconds * 1000000000 + t.nanos

theorem leapAdjustment_eq_zero {t start : Time} (ht : t.isLeap = false)
    (hs : start.isLeap = false) : leapAdjustment t start = 0 := by
  simp [leapAdjustment, ht, hs]

/-- Outside leap seconds the time between two moments is a plain difference. -/
theorem since_eq_sub {t start : Time} (ht : t.isLeap = false) (hs : start.isLeap = false) :
    t.since start = t.count - start.count := by
  unfold since count
  rw [leapAdjustment_eq_zero ht hs]
  omega

theorem count_le_of_notAfter {a b : Time} (ha : a.isLeap = false) (hb : b.isLeap = false)
    (h : a.notAfter b = true) : a.count ≤ b.count := by
  simp only [isLeap, decide_eq_false_iff_not] at ha hb
  simp only [notAfter, Bool.or_eq_true, Bool.and_eq_true, decide_eq_true_eq, beq_iff_eq] at h
  unfold count
  omega

end Time

/-! ### One pass -/

namespace Status

variable {s : StatusSettings} {status : Status} {x : Proposal} {now : Time}

theorem conditions_accept : (status.accept s x now).conditions =
    status.conditions.append (x.condition now) := by
  unfold accept
  match x with
  | .state st => rfl
  | .error reason message =>
    dsimp only
    split
    · rfl
    · split <;> rfl

theorem nodes_accept : (status.accept s x now).nodes = status.nodes := by
  unfold accept
  match x with
  | .state st => rfl
  | .error reason message =>
    dsimp only
    split
    · rfl
    · split <;> rfl

theorem readyNodes_accept : (status.accept s x now).readyNodes = status.readyNodes := by
  unfold accept
  match x with
  | .state st => rfl
  | .error reason message =>
    dsimp only
    split
    · rfl
    · split <;> rfl

/-- An error becomes the state when it has lasted, and otherwise leaves the state. -/
theorem state_accept_of_error {reason message : String} :
    (status.accept s (.error reason message) now).state =
      if hasLasted s (status.accept s (.error reason message) now) reason now then some .error
      else some (status.state.getD .initializing) := by
  have hlast : hasLasted s (status.accept s (.error reason message) now) reason now =
      hasLasted s (status.append (Condition.ofError reason message now)) reason now := by
    unfold hasLasted
    rw [conditions_accept]
    rfl
  rw [hlast]
  unfold accept
  dsimp only
  split
  · rfl
  · rcases hs : status.state with _ | st <;> simp [append, hs]

theorem continues_accept : status.Continues (status.accept s x now) := by
  have hnames : (status.accept s x now).nodes.map Node.name = status.nodes.map Node.name := by
    rw [nodes_accept]
  refine ⟨?_, hnames ▸ List.prefix_refl _⟩
  rw [conditions_accept]
  exact History.continues_append ..

variable {seen : Observation} {nodes : List Node}

/-- The status that a pass makes of one, by what it saw and the entries of the members after it. -/
def next (s : StatusSettings) (status : Status) (seen : Observation) (nodes : List Node)
    (now : Time) : Status :=
  { status with readyNodes := seen.ready, nodes := nodes }.accept s (seen.propose status.state) now

theorem conditions_next : (status.next s seen nodes now).conditions =
    status.conditions.append ((seen.propose status.state).condition now) := conditions_accept

theorem state_next_of_state {st : State} (h : seen.propose status.state = .state st) :
    (status.next s seen nodes now).state = some st := by
  unfold next
  rw [h]
  rfl

/-- A proposed error becomes the state when it has lasted, and otherwise leaves the state. -/
theorem state_next_of_error {reason message : String}
    (h : seen.propose status.state = .error reason message) :
    (status.next s seen nodes now).state =
      if hasLasted s (status.next s seen nodes now) reason now then some .error
      else some (status.state.getD .initializing) := by
  unfold next
  rw [h]
  exact state_accept_of_error

end Status

/-- What a status pass contributes to the status. -/
structure Pass where
  /-- When it began. -/
  moment : Time
  /-- What it saw. -/
  seen : Observation
  /-- The entries of the members after it looked at them. -/
  nodes : List Node := []
  /-- The time of day has no leap seconds. -/
  isLeap_moment : moment.isLeap = false := by decide

namespace Pass

/-- What the pass proposes to come after a status. -/
def proposal (p : Pass) (status : Status) : Proposal := p.seen.propose status.state

/-- The status that the pass makes of one. -/
def apply (s : StatusSettings) (status : Status) (p : Pass) : Status :=
  status.next s p.seen p.nodes p.moment

variable {s : StatusSettings} {status : Status} {p : Pass}

theorem conditions_apply :
    (p.apply s status).conditions =
      status.conditions.append ((p.proposal status).condition p.moment) := Status.conditions_next

theorem state_apply_of_state {st : State} (h : p.proposal status = .state st) :
    (p.apply s status).state = some st := Status.state_next_of_state h

theorem state_apply_of_error {reason message : String}
    (h : p.proposal status = .error reason message) :
    (p.apply s status).state =
      if Status.hasLasted s (p.apply s status) reason p.moment then some .error
      else some (status.state.getD .initializing) := Status.state_next_of_error h

/-- No pass proposes the state of an error: an error is proposed with its reason. -/
theorem proposal_ne_error : p.proposal status ≠ .state .error := by
  unfold proposal Observation.propose
  rcases status.state with _ | previous
  · simp
  · unfold Observation.proposeAfter Observation.scaling? Proposal.raftNotReady
    grind

end Pass

/-! ### Runs of passes -/

/-- The status after a run of passes over a cluster never seen before. -/
def Status.after (s : StatusSettings) (passes : List Pass) : Status :=
  passes.foldl (Pass.apply s) {}

/-- The passes of a run came one after the other. -/
def Chronological (passes : List Pass) : Prop :=
  passes.Pairwise fun p q => p.moment.notAfter q.moment = true

instance (passes : List Pass) : Decidable (Chronological passes) := by
  unfold Chronological; infer_instance

/-- Every proposal made while the passes follow a status is one that `P` holds for. -/
def Throughout (s : StatusSettings) (P : Proposal → Prop) : Status → List Pass → Prop
  | _, [] => True
  | status, p :: ps => P (p.proposal status) ∧ Throughout s P (p.apply s status) ps

namespace Status

variable {s : StatusSettings}

@[simp] theorem after_nil : after s [] = {} := rfl

theorem after_append (xs ys : List Pass) :
    after s (xs ++ ys) = ys.foldl (Pass.apply s) (after s xs) := List.foldl_append

@[simp] theorem after_concat (passes : List Pass) (p : Pass) :
    after s (passes ++ [p]) = p.apply s (after s passes) := by
  rw [after_append]; rfl

end Status

section

variable {s : StatusSettings} {P Q : Proposal → Prop}

theorem throughout_append {status : Status} {xs ys : List Pass} :
    Throughout s P status (xs ++ ys) ↔
      Throughout s P status xs ∧ Throughout s P (xs.foldl (Pass.apply s) status) ys := by
  induction xs generalizing status with
  | nil => simp [Throughout]
  | cons x xs ih => simp [Throughout, ih, and_assoc]

theorem throughout_concat {status : Status} {xs : List Pass} {p : Pass} :
    Throughout s P status (xs ++ [p]) ↔
      Throughout s P status xs ∧ P (p.proposal (xs.foldl (Pass.apply s) status)) := by
  rw [throughout_append]; simp [Throughout]

theorem Throughout.mono (h : ∀ x, P x → Q x) {passes : List Pass} {status : Status}
    (hp : Throughout s P status passes) : Throughout s Q status passes := by
  induction passes generalizing status with
  | nil => trivial
  | cons p ps ih => exact ⟨h _ hp.1, ih hp.2⟩

instance decidableThroughout [DecidablePred P] :
    ∀ (status : Status) (passes : List Pass), Decidable (Throughout s P status passes)
  | _, [] => isTrue trivial
  | status, p :: ps =>
    have := decidableThroughout (p.apply s status) ps
    inferInstanceAs (Decidable (P (p.proposal status) ∧ Throughout s P (p.apply s status) ps))

end

end RaftMysql
