import Mathlib.Data.ENat.Lattice
import RaftMysql.Member.Replication
import RaftMysql.Proofs.Program.Trace

/-!
# How many attempts are made

A step that is repeated has a sequence of outcomes, as far as it goes. `firstGood` counts the attempts up
to the first good one, without end if there is none. `Repeats` describes repeated attempts by that number:
as many are made, but no more than allowed and at least one, with a pause between each and the next
(`paused`), and the last outcome stays. Both ways of repeating a step are of this kind
(`attempts_counted`).

The attempts may also be numbered by a counter that holds no more than a limit
(`repeatNumbered`). Its limit is never felt if it is at least the number of attempts allowed.
-/

namespace RaftMysql

variable {α : Type} {good : α → Bool} {outcomes : ℕ → α} {more n : ℕ}

/-! ### The first good outcome -/

open Classical in
/-- The number of attempts up to the first good outcome. -/
noncomputable def firstGood (good : α → Bool) (outcomes : ℕ → α) : ℕ∞ :=
  if h : ∃ i, good (outcomes i) = true then ((Nat.find h + 1 : ℕ) : ℕ∞) else ⊤

theorem le_firstGood_iff :
    (n : ℕ∞) ≤ firstGood good outcomes ↔ ∀ i, i + 1 < n → good (outcomes i) = false := by
  classical
  unfold firstGood
  split <;> rename_i h
  · rw [Nat.cast_le]
    constructor
    · intro hn i hi
      have hfind : i < Nat.find h := by omega
      simpa using Nat.find_min h hfind
    · intro hvain
      by_contra hlt
      have hfind := hvain (Nat.find h) (by omega)
      rw [Nat.find_spec h] at hfind
      cases hfind
  · refine iff_of_true le_top fun i _ => ?_
    rw [Bool.eq_false_iff]
    exact fun hi => h ⟨i, hi⟩

theorem firstGood_eq_iff : firstGood good outcomes = ((n + 1 : ℕ) : ℕ∞) ↔
    (∀ i < n, good (outcomes i) = false) ∧ good (outcomes n) = true := by
  classical
  unfold firstGood
  split <;> rename_i h
  · rw [Nat.cast_inj, Nat.add_right_cancel_iff, Nat.find_eq_iff]
    simp [and_comm]
  · exact iff_of_false (ENat.natCast_ne_top _).symm fun hn => h ⟨n, hn.2⟩

/-- The attempts end with one of this index: it is the first with a good outcome, or no more are
allowed after it. -/
structure StopsAt (good : α → Bool) (outcomes : ℕ → α) (more n : ℕ) : Prop where
  le : n ≤ more
  vain : ∀ i < n, good (outcomes i) = false
  last : good (outcomes n) = true ∨ n = more

/-- **How many attempts that is**: as many as up to the first good outcome, or as are allowed. -/
theorem stopsAt_iff : StopsAt good outcomes more n ↔
    ((n + 1 : ℕ) : ℕ∞) = min (firstGood good outcomes) ((more + 1 : ℕ) : ℕ∞) := by
  constructor
  · intro h
    have hle : ((n + 1 : ℕ) : ℕ∞) ≤ ((more + 1 : ℕ) : ℕ∞) := Nat.cast_le.mpr (Nat.succ_le_succ h.le)
    obtain hgood | rfl := h.last
    · rw [firstGood_eq_iff.mpr ⟨h.vain, hgood⟩, min_eq_left hle]
    · have hvain : ((n + 1 : ℕ) : ℕ∞) ≤ firstGood good outcomes :=
        le_firstGood_iff.mpr fun i hi => h.vain i (Nat.lt_of_succ_lt_succ hi)
      rw [min_eq_right hvain]
  · intro h
    have hfirst : ((n + 1 : ℕ) : ℕ∞) ≤ firstGood good outcomes := h ▸ min_le_left ..
    have hmore : n + 1 ≤ more + 1 := Nat.cast_le.mp (h ▸ min_le_right ..)
    refine ⟨Nat.le_of_succ_le_succ hmore,
      fun i hi => le_firstGood_iff.mp hfirst i (Nat.succ_lt_succ hi), ?_⟩
    rcases min_choice (firstGood good outcomes) ((more + 1 : ℕ) : ℕ∞) with hmin | hmin
    · exact .inl (firstGood_eq_iff.mp (hmin.symm.trans h.symm)).2
    · exact .inr (Nat.succ.inj (Nat.cast_inj.mp (h.trans hmin)))

theorem exists_stopsAt (good : α → Bool) (outcomes : ℕ → α) (more : ℕ) :
    ∃ n, StopsAt good outcomes more n := by
  by_cases h : ∃ i, i ≤ more ∧ good (outcomes i) = true
  · obtain ⟨hle, hgood⟩ := Nat.find_spec h
    refine ⟨Nat.find h, hle, fun i hi => ?_, .inl hgood⟩
    rw [Bool.eq_false_iff]
    exact fun hi' => Nat.find_min h hi ⟨by omega, hi'⟩
  · refine ⟨more, le_rfl, fun i hi => ?_, .inr rfl⟩
    rw [Bool.eq_false_iff]
    exact fun hi' => h ⟨i, hi.le, hi'⟩

theorem stopsAt_zero (h : good (outcomes 0) = true ∨ more = 0) : StopsAt good outcomes more 0 :=
  ⟨Nat.zero_le _, fun _ hi => absurd hi (Nat.not_lt_zero _), h.imp_right Eq.symm⟩

theorem stopsAt_succ_iff (h : good (outcomes 0) = false) :
    StopsAt good outcomes (more + 1) (n + 1) ↔ StopsAt good (fun i => outcomes (i + 1)) more n := by
  constructor
  · intro hn
    exact ⟨Nat.le_of_succ_le_succ hn.le, fun i hi => hn.vain (i + 1) (Nat.succ_lt_succ hi),
      hn.last.imp_right Nat.succ.inj⟩
  · intro hn
    refine ⟨Nat.succ_le_succ hn.le, fun i hi => ?_, hn.last.imp_right (congrArg Nat.succ)⟩
    cases i with
    | zero => exact h
    | succ i => exact hn.vain i (Nat.lt_of_succ_lt_succ hi)

/-! ### The trace of attempts -/

/-- The parts of attempts up to an index, with a pause between each and the next. -/
def paused (interval : Duration) (parts : ℕ → Trace) (n : ℕ) : Trace :=
  ((List.range n).flatMap fun i => parts i ++ [⟨.sleep interval, ()⟩]) ++ parts n

theorem paused_succ (interval : Duration) (parts : ℕ → Trace) (n : ℕ) :
    paused interval parts (n + 1) =
      parts 0 ++ ⟨.sleep interval, ()⟩ :: paused interval (fun i => parts (i + 1)) n := by
  unfold paused
  rw [List.range_succ_eq_map, List.flatMap_cons, List.flatMap_map]
  simp

/-- A sequence with one more element at its front. -/
def prepended {β : Type} (b : β) (sequence : ℕ → β) : ℕ → β
  | 0 => b
  | i + 1 => sequence i

/-- **Runs of repeated attempts** are made up of attempts with pauses between them, until they stop. -/
theorem run_repeatUntil_iff {interval : Duration} {step : Program α} {t : Trace} {a : α} :
    Program.Run (repeatUntil interval good step more) t a ↔
      ∃ (n : ℕ) (outcomes : ℕ → α) (parts : ℕ → Trace), StopsAt good outcomes more n ∧
        (∀ i ≤ n, step.Run (parts i) (outcomes i)) ∧ t = paused interval parts n ∧ a = outcomes n := by
  induction more generalizing t with
  | zero =>
    constructor
    · intro h
      exact ⟨0, fun _ => a, fun _ => t, stopsAt_zero (.inr rfl), fun _ _ => h, by simp [paused], rfl⟩
    · rintro ⟨n, outcomes, parts, hstops, hruns, rfl, rfl⟩
      obtain rfl := Nat.le_zero.mp hstops.le
      simpa [paused, repeatUntil] using hruns 0 le_rfl
  | succ more ih =>
    constructor
    · intro h
      obtain ⟨t₁, t₂, x, rfl, h₁, h₂⟩ := Program.run_bind.mp h
      split at h₂ <;> rename_i hx
      · obtain ⟨rfl, rfl⟩ := Program.run_pure.mp h₂
        exact ⟨0, fun _ => a, fun _ => t₁, stopsAt_zero (.inl hx), fun _ _ => h₁, by simp [paused], rfl⟩
      · obtain ⟨t₃, t₄, _, rfl, h₃, h₄⟩ := Program.run_bind.mp h₂
        obtain rfl := Program.run_request.mp h₃
        obtain ⟨n, outcomes, parts, hstops, hruns, rfl, rfl⟩ := ih.mp h₄
        refine ⟨n + 1, prepended x outcomes, prepended t₁ parts, ?_, fun i hi => ?_, ?_, rfl⟩
        · exact (stopsAt_succ_iff (by simpa [prepended] using hx)).mpr hstops
        · cases i with
          | zero => exact h₁
          | succ i => exact hruns i (Nat.le_of_succ_le_succ hi)
        · rw [paused_succ]
          rfl
    · rintro ⟨n, outcomes, parts, hstops, hruns, rfl, rfl⟩
      refine Program.run_bind.mpr ?_
      cases n with
      | zero =>
        refine ⟨parts 0, [], outcomes 0, by simp [paused], hruns 0 le_rfl, ?_⟩
        rw [if_pos (hstops.last.resolve_right (Nat.succ_ne_zero more).symm)]
        exact .done _
      | succ n =>
        have hvain := hstops.vain 0 (Nat.succ_pos n)
        refine ⟨parts 0, _, outcomes 0, paused_succ .., hruns 0 (Nat.zero_le _), ?_⟩
        rw [if_neg (by simp [hvain])]
        refine Program.run_bind.mpr ⟨[_], _, (), rfl, Program.run_request.mpr rfl, ih.mpr ?_⟩
        exact ⟨n, fun i => outcomes (i + 1), fun i => parts (i + 1), (stopsAt_succ_iff hvain).mp hstops,
          fun i hi => hruns (i + 1) (Nat.succ_le_succ hi), rfl, rfl⟩

/-! ### Numbered attempts -/

section

variable {m : Type → Type} [Monad m] [Timer m]

/-- Attempts with a counter: each is given the next number, and the last is one with a good outcome or with
the number of those allowed. `left` numbers are left to the counter; when it runs out of them there is no
outcome. -/
def repeatNumbered (attempts : ℕ) (interval : Duration) (good : α → Bool) (step : m α) (number : ℕ) :
    ℕ → m (Option α)
  | 0 => return none
  | left + 1 => do
    let outcome ← step
    if good outcome ∨ attempts ≤ number + 1 then return some outcome
    else
      Timer.sleep interval
      repeatNumbered attempts interval good step (number + 1) left

/-- A counter that can take the number of every attempt that is allowed never runs out. -/
theorem repeatNumbered_eq [LawfulMonad m] (interval : Duration) (good : α → Bool) (step : m α)
    {attempts number left : ℕ} (hnumber : number < attempts) (hleft : attempts ≤ number + left) :
    repeatNumbered attempts interval good step number left =
      some <$> repeatUntil interval good step (attempts - (number + 1)) := by
  induction left generalizing number with
  | zero => omega
  | succ left ih =>
    rcases Nat.lt_or_ge (number + 1) attempts with hnext | hlast
    · obtain ⟨more, hmore⟩ : ∃ more, attempts - (number + 1) = more + 1 := ⟨attempts - number - 2, by omega⟩
      have hrest := ih hnext (by omega)
      rw [show attempts - (number + 1 + 1) = more by omega] at hrest
      have hnot : ¬attempts ≤ number + 1 := by omega
      rw [hmore, repeatNumbered, repeatUntil, map_bind]
      refine bind_congr fun outcome => ?_
      by_cases hgood : good outcome = true
      · simp [hgood]
      · simp [hgood, hnot, hrest]
    · have hmore : attempts - (number + 1) = 0 := by omega
      rw [hmore, repeatNumbered, repeatUntil, map_eq_pure_bind]
      refine bind_congr fun outcome => ?_
      simp [hlast]

end

/-! ### Repeated attempts -/

/-- A procedure repeats a step until its outcome is good, in at most so many attempts and at least one. -/
structure Repeats (attempts : ℕ) (interval : Duration) (good : α → Bool) (step p : Program α) : Prop where
  /-- Each run is made up of attempts with pauses between them, as many as up to the first good outcome or
  as are allowed, and ends with the outcome of the last. -/
  run_iff : ∀ (t : Trace) (a : α), p.Run t a ↔
    ∃ (n : ℕ) (outcomes : ℕ → α) (parts : ℕ → Trace),
      ((n + 1 : ℕ) : ℕ∞) = min (firstGood good outcomes) (max attempts 1 : ℕ) ∧
      (∀ i ≤ n, step.Run (parts i) (outcomes i)) ∧ t = paused interval parts n ∧ a = outcomes n
  /-- There is such a run whatever the outcomes are. -/
  runs : ∀ (outcomes : ℕ → α) (parts : ℕ → Trace), (∀ i, step.Run (parts i) (outcomes i)) →
    ∃ n : ℕ, ((n + 1 : ℕ) : ℕ∞) = min (firstGood good outcomes) (max attempts 1 : ℕ) ∧
      p.Run (paused interval parts n) (outcomes n)
  /-- A counter that goes up to the number of attempts allowed, or any further, does not run out. -/
  counts : ∀ limit, max attempts 1 ≤ limit →
    repeatNumbered (max attempts 1) interval good step 0 limit = some <$> p

theorem repeats_attempt (attempts : ℕ) (interval : Duration) (good : α → Bool) (step : Program α) :
    Repeats attempts interval good step (attempt attempts interval good step) := by
  have hmore : max attempts 1 = attempts - 1 + 1 := by omega
  have hiff : ∀ (t : Trace) (a : α), Program.Run (attempt attempts interval good step) t a ↔
      ∃ (n : ℕ) (outcomes : ℕ → α) (parts : ℕ → Trace),
        ((n + 1 : ℕ) : ℕ∞) = min (firstGood good outcomes) (max attempts 1 : ℕ) ∧
        (∀ i ≤ n, step.Run (parts i) (outcomes i)) ∧ t = paused interval parts n ∧ a = outcomes n := by
    intro t a
    simp only [hmore, ← stopsAt_iff]
    exact run_repeatUntil_iff
  refine ⟨hiff, fun outcomes parts hruns => ?_, fun limit hlimit => ?_⟩
  · obtain ⟨n, hstops⟩ := exists_stopsAt good outcomes (attempts - 1)
    rw [stopsAt_iff, ← hmore] at hstops
    exact ⟨n, hstops, (hiff _ _).mpr ⟨n, outcomes, parts, hstops, fun i _ => hruns i, rfl, rfl⟩⟩
  · have hallowed : max attempts 1 ≤ 0 + limit := by omega
    have hnumbered := repeatNumbered_eq interval good step (lt_max_of_lt_right Nat.one_pos) hallowed
    rwa [show max attempts 1 - (0 + 1) = attempts - 1 by omega] at hnumbered

/-- **Attempts are counted right**: a step that should succeed, and a check of replication that should meet
no error, are repeated as often as allowed and never once more; no attempts allowed are as good as one. -/
theorem attempts_counted :
    (∀ (α : Type) (attempts : ℕ) (interval : Duration) (step : Procedure α),
      Repeats attempts interval succeeded step.outcome
        (Procedure.outcome (retry attempts interval step))) ∧
    ∀ (session : Session) (attempts : ℕ) (interval : Duration),
      Repeats attempts interval (fun r => r.error.isNone) (Replication.checkOnce session)
        (Replication.check session attempts interval) :=
  ⟨fun _ attempts interval step => repeats_attempt attempts interval succeeded step.outcome,
    fun session attempts interval => repeats_attempt attempts interval _ (Replication.checkOnce session)⟩

/-- A counter of 32 bits does not run out either, where the number of attempts allowed has no more. -/
theorem Repeats.counts_word {attempts : ℕ} {interval : Duration} {step p : Program α}
    (h : Repeats attempts interval good step p) (hattempts : attempts < 4294967296) :
    repeatNumbered (max attempts 1) interval good step 0 4294967295 = some <$> p :=
  h.counts _ (by omega)

end RaftMysql
