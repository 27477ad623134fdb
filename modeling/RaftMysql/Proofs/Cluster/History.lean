import RaftMysql.Cluster.Condition
import RaftMysql.Health.Observation
import Mathlib.Tactic.Common

/-!
# Histories of conditions

What a condition does to the history that it is added to: it becomes the latest if it may follow,
and else changes nothing (`History.append_of_accepts`, `History.append_of_rejects`).

`History.FailsSince` says that a history ends with an error for a reason, entered at a moment. How
long an error lasts is read off that moment and nothing else, so `History.failsSince_append` tells
all that can begin, keep and end such a time: it begins with an error that may follow, and it is
kept by the proposals that `Proposal.Keeps` holds for.
-/

namespace RaftMysql

/-- The condition that a proposal adds to a history, if it may follow. -/
def Proposal.condition (x : Proposal) (now : Time) : Condition :=
  match x with
  | .state st => { state := st, since := now }
  | .error reason message => Condition.ofError reason message now

/-- The proposal is an error for the reason. -/
def Proposal.Blames (reason : String) : Proposal → Prop
  | .state _ => False
  | .error reason' _ => reason' = reason

instance (reason : String) : DecidablePred (Proposal.Blames reason) := fun x => by
  cases x <;> unfold Proposal.Blames <;> infer_instance

/-- The proposal leaves an error for the reason at the end of a history: it is that error again, or
a state that may not follow an error. -/
def Proposal.Keeps (reason : String) : Proposal → Prop
  | .state st => st = .initializing ∨ st = .updating ∨ st = .scaleIn ∨ st = .scaleOut
  | .error reason' _ => reason' = reason

instance (reason : String) : DecidablePred (Proposal.Keeps reason) := fun x => by
  cases x <;> unfold Proposal.Keeps <;> infer_instance

theorem Proposal.blames_iff {reason : String} {x : Proposal} :
    x.Blames reason ↔ ∃ message, x = .error reason message := by
  cases x <;> simp [Blames]

theorem Proposal.Blames.keeps {reason : String} :
    ∀ {x : Proposal}, x.Blames reason → x.Keeps reason
  | .error _ _, h => h

namespace History

variable {h : History} {c : Condition} {reason : String} {start : Time}

/-! ### Adding a condition -/

theorem append_of_accepts (ha : h.accepts c = true) : h.append c = trim (h ++ [c]) := by
  unfold append
  rw [if_pos ha]

theorem append_of_rejects (ha : h.accepts c = false) : h.append c = h := by
  unfold append
  rw [if_neg (by simp [ha])]

theorem getLast?_append_of_accepts (ha : h.accepts c = true) : (h.append c).getLast? = some c := by
  rw [append_of_accepts ha]
  unfold trim
  have hcap : 0 < capacity := by decide
  rw [List.getLast?_drop, if_neg (by simp; omega), List.getLast?_concat]

theorem mayFollow_condition (last : Condition) (x : Proposal) (before now : Time) :
    last.mayFollow (x.condition before) = last.mayFollow (x.condition now) := by
  cases x <;> rfl

theorem accepts_condition (h : History) (x : Proposal) (before now : Time) :
    h.accepts (x.condition before) = h.accepts (x.condition now) := by
  unfold accepts
  split
  · rfl
  · exact mayFollow_condition ..

theorem rejects_again (h : History) {x : Proposal} (hx : x ≠ .state .error) (before now : Time) :
    (h.append (x.condition before)).accepts (x.condition now) = false := by
  rcases ha : h.accepts (x.condition before) with _ | _
  · rw [append_of_rejects ha, ← accepts_condition h x before now, ha]
  · unfold accepts
    rw [getLast?_append_of_accepts ha]
    match x with
    | .state st => cases st <;> simp_all [Condition.mayFollow, Proposal.condition]
    | .error reason message => simp [Condition.mayFollow, Proposal.condition, Condition.ofError]

theorem mem_append {x : Condition} (hx : x ∈ h.append c) : x ∈ h ∨ x = c := by
  unfold append at hx
  split at hx
  · have hx := List.mem_of_mem_drop hx
    simpa using hx
  · exact .inl hx

/-! ### Errors and how long they last -/

/-- The history ends with an error for the reason, entered at the moment. -/
def FailsSince (h : History) (reason : String) (start : Time) : Prop :=
  ∃ last, h.getLast? = some last ∧ last.state = .error ∧ last.reason = some reason ∧
    last.since = start

/-- The age of an error is the time since it was entered. -/
theorem errorAge?_eq_some {now : Time} {age : Duration} :
    h.errorAge? reason now = some age ↔ ∃ start, h.FailsSince reason start ∧
      age = (now.since start).toNat := by
  unfold errorAge? FailsSince
  rcases h.getLast? with _ | last
  · simp
  · by_cases hlast : last.state = .error ∧ last.reason = some reason
    · simp [hlast, eq_comm]
    · dsimp only
      rw [if_neg hlast]
      constructor
      · intro hage
        cases hage
      · rintro ⟨start, ⟨last', hl, hstate, hreason, -⟩, -⟩
        obtain rfl := Option.some.inj hl
        exact absurd ⟨hstate, hreason⟩ hlast

/-- An error turned away finds the history ended with one for the same reason, or the cluster
closed. -/
theorem failsSince_of_rejects {message : String} {now : Time}
    (hr : h.accepts (Condition.ofError reason message now) = false)
    (hclosed : ∀ last, h.getLast? = some last → last.state ≠ .closed) :
    ∃ start, h.FailsSince reason start := by
  unfold accepts at hr
  rcases hl : h.getLast? with _ | last
  · simp [hl] at hr
  · rw [hl] at hr
    have hnot := hclosed last hl
    refine ⟨last.since, last, hl, ?_⟩
    cases hs : last.state <;> simp_all [Condition.mayFollow, Condition.ofError]

theorem FailsSince.rejects_iff (hf : h.FailsSince reason start) {x : Proposal} {now : Time}
    (hx : x ≠ .state .error) : h.accepts (x.condition now) = false ↔ x.Keeps reason := by
  obtain ⟨last, hl, hstate, hreason, -⟩ := hf
  unfold accepts
  rw [hl]
  match x with
  | .state st => cases st <;> simp_all [Condition.mayFollow, Proposal.condition, Proposal.Keeps]
  | .error reason' message =>
    simp only [Condition.mayFollow, Proposal.condition, Proposal.Keeps, Condition.ofError, hstate,
      hreason, bne_eq_false_iff_eq, Option.some.injEq]
    exact eq_comm

/-- **What begins, keeps and ends an error.** After a proposal the history ends with an error for a
reason either because the proposal is that error and may follow, or because it did so before and the
proposal keeps it. -/
theorem failsSince_append {x : Proposal} {now : Time} (hx : x ≠ .state .error) :
    (h.append (x.condition now)).FailsSince reason start ↔
      (x.Blames reason ∧ h.accepts (x.condition now) = true ∧ start = now) ∨
        (h.FailsSince reason start ∧ x.Keeps reason) := by
  rcases ha : h.accepts (x.condition now) with _ | _
  · rw [append_of_rejects ha]
    constructor
    · intro hf
      exact .inr ⟨hf, (hf.rejects_iff hx).mp ha⟩
    · rintro (⟨-, hfalse, -⟩ | ⟨hf, -⟩)
      · cases hfalse
      · exact hf
  · have hlast := getLast?_append_of_accepts ha
    constructor
    · rintro ⟨last, hl, hstate, hreason, rfl⟩
      obtain rfl := Option.some.inj (hlast.symm.trans hl)
      match x with
      | .state st => exact absurd (congrArg Proposal.state hstate) hx
      | .error reason' message => exact .inl ⟨Option.some.inj hreason, rfl, rfl⟩
    · rintro (⟨hb, -, rfl⟩ | ⟨hf, hk⟩)
      · match x with
        | .error reason' message => exact ⟨_, hlast, rfl, congrArg some hb, rfl⟩
      · have hr : h.accepts (x.condition now) = false := (hf.rejects_iff hx).mpr hk
        rw [ha] at hr
        cases hr

end History

end RaftMysql
