import Mathlib.Algebra.Order.Floor.Div
import Mathlib.Data.List.Chain
import RaftMysql.Simulation.Look
import RaftMysql.Time.Span

/-!
# The schedule of a wait

A `Watch` is a clock that only looks and pauses move on, with a record of the looks. What each look would
find, and how long it would take, is laid down beforehand (`Checks`), so a wait under a watch has one
course (`Wait.Course`): it looks at once, then a pause after the end of each look, and for the last time
when the time is up. `poll_scheduled` says when these looks begin, how many there are and what becomes of
the wait; that a wait looks only so often ends none before its time (`Watch.course_polled`).

Two numbers may be too small for a wait. The clock goes on only so long, and a wait whose time would be up
later than that ends the program before its first look. A number that counts the looks, where one is kept
and watched over, ends it after the last look that it can count (`Watch.numbered`).
-/

namespace RaftMysql

/-- A look that was taken: when it began and ended, and what it found. -/
structure Glance where
  began : Duration
  ended : Duration
  found : Except Error Bool

/-- A clock that only looks and pauses move on, and the looks so far. -/
structure Watch where
  clock : Duration := 0
  glances : List Glance := []

/-- How a look would turn out: so many were taken before it, and it begins at a moment. -/
abbrev Checks := ℕ → Duration → Look Bool

/-- The look that begins at a moment, after so many others. -/
def Checks.glance (checks : Checks) (before : ℕ) (now : Duration) : Glance :=
  ⟨now, now + (checks before now).takes, (checks before now).outcome⟩

@[simp] theorem Checks.began_glance (checks : Checks) (before : ℕ) (now : Duration) :
    (checks.glance before now).began = now := rfl

theorem Checks.le_ended_glance (checks : Checks) (before : ℕ) (now : Duration) :
    now ≤ (checks.glance before now).ended :=
  Nat.le_add_right ..

namespace Watch

/-- A pause takes as long as it should. -/
instance : Timer (StateM Watch) where
  clock := do return (← get).clock
  sleep d := modify fun w => { w with clock := w.clock + d }

/-- The next look. -/
def look (checks : Checks) : ExceptT Error (StateM Watch) Bool := ExceptT.mk do
  let w ← get
  let g := checks.glance w.glances.length w.clock
  set { w with clock := g.ended, glances := w.glances ++ [g] }
  return g.found

/-- A wait under a watch that starts at zero: what becomes of it, and the watch. -/
def polled (what : String) (wait : Wait) (checks : Checks) : Except Error Unit × Watch :=
  (poll what wait (look checks)).run.run {}

/-- The same where looks are numbered, and the numbers end with a limit: 4294967295 for those of 32 bits. -/
def numbered (limit : ℕ) (what : String) (wait : Wait) (checks : Checks) : Except Error Unit × Watch :=
  (pollUntil what wait.interval wait.timeout .overflow (look checks).run limit).run {}

end Watch

variable {what : String} {interval deadline now : Duration} {checks : Checks} {before : ℕ}
  {glances : List Glance} {result : Except Error Unit}

/-! ### The course of a wait -/

/-- The looks of a wait from a moment on, after so many others, and what becomes of the wait. -/
inductive Wait.Course (what : String) (interval deadline : Duration) (checks : Checks) :
    ℕ → Duration → List Glance → Except Error Unit → Prop
  | decided {before : ℕ} {now : Duration} (h : (checks.glance before now).found ≠ .ok false) :
    Wait.Course what interval deadline checks before now [checks.glance before now]
      ((checks.glance before now).found.map fun _ => ())
  | late {before : ℕ} {now : Duration} (h : (checks.glance before now).found = .ok false)
    (hended : deadline ≤ (checks.glance before now).ended) :
    Wait.Course what interval deadline checks before now [checks.glance before now] (.error (.timeout what))
  | again {before : ℕ} {now : Duration} {glances : List Glance} {result : Except Error Unit}
    (h : (checks.glance before now).found = .ok false)
    (hended : (checks.glance before now).ended < deadline)
    (hs : Wait.Course what interval deadline checks (before + 1)
      (min ((checks.glance before now).ended + interval) deadline) glances result) :
    Wait.Course what interval deadline checks before now (checks.glance before now :: glances) result

theorem add_pause {ended : ℕ} (h : ended < deadline) :
    ended + min interval (deadline - ended) = min (ended + interval) deadline := by
  grind

theorem le_pause_add {ended intervals : ℕ} (h : now ≤ ended)
    (hintervals : deadline ≤ now + (intervals + 1) * interval) :
    deadline ≤ min (ended + interval) deadline + intervals * interval := by
  rw [Nat.succ_mul] at hintervals
  grind

namespace Watch

variable {spent : Error} {looks : ℕ} {w : Watch}

/-- What the next look would be like. -/
def glance (w : Watch) (checks : Checks) : Glance := checks.glance w.glances.length w.clock

/-- The watch after a look, at a moment. -/
def after (w : Watch) (g : Glance) (clock : Duration) : Watch := ⟨clock, w.glances ++ [g]⟩

theorem run_look : (look checks).run.run w =
    ((w.glance checks).found, w.after (w.glance checks) (w.glance checks).ended) := rfl

theorem run_pollUntil_decided (h : (w.glance checks).found ≠ .ok false) :
    (pollUntil what interval deadline spent (look checks).run (looks + 1)).run w =
      ((w.glance checks).found.map fun _ => (), w.after (w.glance checks) (w.glance checks).ended) := by
  rw [pollUntil, StateT.run_bind, run_look]
  match hfound : (w.glance checks).found with
  | .error e => rfl
  | .ok true => rfl
  | .ok false => exact absurd hfound h

theorem run_pollUntil_late (h : (w.glance checks).found = .ok false)
    (hended : deadline ≤ (w.glance checks).ended) :
    (pollUntil what interval deadline spent (look checks).run (looks + 1)).run w =
      (.error (.timeout what), w.after (w.glance checks) (w.glance checks).ended) := by
  rw [pollUntil, StateT.run_bind, run_look, h]
  change StateT.run (if deadline ≤ (w.glance checks).ended then _ else _) _ = _
  rw [if_pos hended]
  rfl

theorem run_pollUntil_again (h : (w.glance checks).found = .ok false)
    (hended : (w.glance checks).ended < deadline) :
    (pollUntil what interval deadline spent (look checks).run (looks + 1)).run w =
      (pollUntil what interval deadline spent (look checks).run looks).run
        (w.after (w.glance checks) (min ((w.glance checks).ended + interval) deadline)) := by
  rw [pollUntil, StateT.run_bind, run_look, h]
  change StateT.run (if deadline ≤ (w.glance checks).ended then _ else _) _ = _
  rw [if_neg (Nat.not_le.mpr hended), ← add_pause hended]
  rfl

end Watch

/-! ### What a course is like -/

namespace Wait.Course

theorem head (h : Course what interval deadline checks before now glances result) :
    glances.head? = some (checks.glance before now) := by
  cases h <;> rfl

theorem exists_of_late (what : String) (interval : Duration)
    (hended : deadline ≤ (checks.glance before now).ended) :
    ∃ glances result, Course what interval deadline checks before now glances result := by
  by_cases h : (checks.glance before now).found = .ok false
  · exact ⟨_, _, .late h hended⟩
  · exact ⟨_, _, .decided h⟩

/-- A wait has a course: at the latest it is over after as many intervals as its time has. -/
theorem exists_of_le (what : String) (checks : Checks) (intervals : ℕ)
    (hintervals : deadline ≤ now + intervals * interval) :
    ∃ glances result, Course what interval deadline checks before now glances result := by
  induction intervals generalizing before now with
  | zero =>
    have hlast : deadline ≤ now := by simpa using hintervals
    exact exists_of_late what interval (hlast.trans (checks.le_ended_glance before now))
  | succ intervals ih =>
    rcases Nat.lt_or_ge (checks.glance before now).ended deadline with hended | hended
    · by_cases h : (checks.glance before now).found = .ok false
      · have hrest := le_pause_add (checks.le_ended_glance before now) hintervals
        obtain ⟨glances, result, hs⟩ := @ih _ (before + 1) hrest
        exact ⟨_, _, .again h hended hs⟩
      · exact ⟨_, _, .decided h⟩
    · exact exists_of_late what interval hended

/-- **A wait takes its course** as far as its looks go: none begins after the time is up, and every pause
but the last has its full length. -/
theorem run_pollUntil {w : Watch}
    (h : Course what interval deadline checks w.glances.length w.clock glances result) (spent : Error)
    (looks : ℕ) :
    ∃ clock, (pollUntil what interval deadline spent (Watch.look checks).run looks).run w =
      (if glances.length ≤ looks then result else .error spent,
        ⟨clock, w.glances ++ glances.take looks⟩) := by
  induction looks generalizing w glances with
  | zero =>
    have hlooks : ¬glances.length ≤ 0 := by
      cases h <;> simp
    refine ⟨w.clock, ?_⟩
    rw [if_neg hlooks, List.take_zero, List.append_nil]
    rfl
  | succ looks ih =>
    cases h with
    | decided h =>
      exact ⟨_, by simpa [Watch.after, Watch.glance] using Watch.run_pollUntil_decided h⟩
    | late h hended =>
      exact ⟨_, by simpa [Watch.after, Watch.glance] using Watch.run_pollUntil_late h hended⟩
    | @again _ _ glances _ h hended hs =>
      let w' := w.after (w.glance checks) (min ((w.glance checks).ended + interval) deadline)
      have hrest : Course what interval deadline checks w'.glances.length w'.clock glances result := by
        simpa [w', Watch.after, Watch.glance] using hs
      obtain ⟨clock, hrun⟩ := ih hrest
      refine ⟨clock, ?_⟩
      rw [Watch.run_pollUntil_again h hended, hrun]
      simp [w', Watch.after, Watch.glance]

theorem isChain (h : Course what interval deadline checks before now glances result) :
    glances.IsChain fun g g' => g'.began = min (g.ended + interval) deadline := by
  induction h with
  | decided h => exact .singleton _
  | late h hended => exact .singleton _
  | again h hended hs ih =>
    refine List.isChain_cons.mpr ⟨fun g hg => ?_, ih⟩
    rw [hs.head] at hg
    obtain rfl := Option.some.inj hg
    rfl

theorem began_le (h : Course what interval deadline checks before now glances result)
    (hnow : now ≤ deadline) : ∀ g ∈ glances, g.began ≤ deadline := by
  induction h with
  | decided h => simpa using hnow
  | late h hended => simpa using hnow
  | again h hended hs ih =>
    exact List.forall_mem_cons.mpr ⟨hnow, ih (Nat.min_le_right ..)⟩

theorem getElem_eq (h : Course what interval deadline checks before now glances result) (i : ℕ)
    (hi : i < glances.length) : glances[i] = checks.glance (before + i) glances[i].began := by
  induction h generalizing i with
  | decided h =>
    obtain rfl : i = 0 := by simpa using hi
    rfl
  | late h hended =>
    obtain rfl : i = 0 := by simpa using hi
    rfl
  | @again before now glances result h hended hs ih =>
    cases i with
    | zero => rfl
    | succ i =>
      have hrest := ih i (by simpa using hi)
      rwa [Nat.add_right_comm] at hrest

theorem length_le (h : Course what interval deadline checks before now glances result) (intervals : ℕ)
    (hintervals : deadline ≤ now + intervals * interval) : glances.length ≤ intervals + 1 := by
  induction h generalizing intervals with
  | decided h => simp
  | late h hended => simp
  | @again before now glances result h hended hs ih =>
    have hpast := checks.le_ended_glance before now
    cases intervals with
    | zero =>
      have hlast : deadline ≤ now := by simpa using hintervals
      exact absurd (hlast.trans hpast) (Nat.not_le.mpr hended)
    | succ intervals => exact Nat.succ_le_succ (ih intervals (le_pause_add hpast hintervals))

/-- **How a course ends**: with the first look that found anything but that the condition does not hold
yet, or, without one, when the last look ended after the time was up. -/
theorem ends (h : Course what interval deadline checks before now glances result) :
    (∃ vain g, glances = vain ++ [g] ∧ (∀ v ∈ vain, v.found = .ok false) ∧ g.found ≠ .ok false ∧
      result = g.found.map fun _ => ()) ∨
    ((∀ g ∈ glances, g.found = .ok false) ∧ (∃ g ∈ glances.getLast?, deadline ≤ g.ended) ∧
      result = .error (.timeout what)) := by
  induction h with
  | decided h => exact .inl ⟨[], _, rfl, by simp, h, rfl⟩
  | late h hended => exact .inr ⟨by simpa using h, ⟨_, rfl, hended⟩, rfl⟩
  | @again before now glances result h hended hs ih =>
    obtain ⟨vain, g, rfl, hvain, hg, hresult⟩ | ⟨hvain, ⟨g, hlast, hg⟩, hresult⟩ := ih
    · exact .inl ⟨_ :: vain, g, rfl, List.forall_mem_cons.mpr ⟨h, hvain⟩, hg, hresult⟩
    · refine .inr ⟨List.forall_mem_cons.mpr ⟨h, hvain⟩, ⟨g, ?_, hg⟩, hresult⟩
      rw [List.getLast?_cons, hlast]
      rfl

end Wait.Course

/-! ### Waits on schedule -/

/-- Looks and result of a wait are as the wait and the checks prescribe. -/
structure Wait.Scheduled (wait : Wait) (what : String) (checks : Checks) (glances : List Glance)
    (result : Except Error Unit) : Prop where
  /-- There are only so many looks. -/
  few : glances.length ≤ wait.timeout ⌈/⌉ wait.interval + 1
  /-- The first one begins at once. -/
  first : glances.head?.map Glance.began = some 0
  /-- Every other one begins an interval after the end of the one before, or when the time is up. -/
  later : glances.IsChain fun g g' => g'.began = min (g.ended + wait.interval) wait.timeout
  /-- None begins after that. -/
  inTime : ∀ g ∈ glances, g.began ≤ wait.timeout
  /-- Each takes the time and finds what was laid down. -/
  found : ∀ (i : ℕ) (hi : i < glances.length), glances[i] = checks.glance i glances[i].began
  /-- The first look that finds the condition to hold, or fails, is the last one and decides. -/
  decided : ∀ vain g rest, glances = vain ++ g :: rest → (∀ v ∈ vain, v.found = .ok false) →
    g.found ≠ .ok false → rest = [] ∧ result = g.found.map fun _ => ()
  /-- Without such a look the last one ends when the time is up. -/
  undecided : (∀ g ∈ glances, g.found = .ok false) → ∃ g ∈ glances.getLast?, wait.timeout ≤ g.ended
  /-- The time is up if no look decided and the last one ended that late; a look can also say so. -/
  timedOut : result = .error (.timeout what) ↔
    ((∀ g ∈ glances, g.found = .ok false) ∧ ∃ g ∈ glances.getLast?, wait.timeout ≤ g.ended) ∨
      ∃ g ∈ glances, g.found = .error (.timeout what)

namespace Wait.Course

/-- The look that decides is the first that could. -/
theorem decided_of_split {vain rest : List Glance} {g : Glance}
    (h : Course what interval deadline checks before now (vain ++ g :: rest) result)
    (hvain : ∀ v ∈ vain, v.found = .ok false) (hg : g.found ≠ .ok false) :
    rest = [] ∧ result = g.found.map fun _ => () := by
  obtain ⟨vain', g', heq, hvain', hg', rfl⟩ | ⟨hvain', -, -⟩ := h.ends
  · obtain ⟨more, rfl, hmore⟩ | ⟨more, rfl, hmore⟩ := List.append_eq_append_iff.mp heq
    · cases more with
      | nil =>
        obtain ⟨rfl, rfl⟩ := List.cons.inj hmore
        exact ⟨rfl, rfl⟩
      | cons v more =>
        obtain ⟨rfl, -⟩ := List.cons.inj hmore
        exact absurd (hvain' g (by simp)) hg
    · cases more with
      | nil =>
        obtain ⟨rfl, rfl⟩ := List.cons.inj hmore
        exact ⟨rfl, rfl⟩
      | cons v more => simp at hmore
  · exact absurd (hvain' g (by simp)) hg

theorem timedOut_iff (h : Course what interval deadline checks before now glances result) :
    result = .error (.timeout what) ↔
      ((∀ g ∈ glances, g.found = .ok false) ∧ ∃ g ∈ glances.getLast?, deadline ≤ g.ended) ∨
        ∃ g ∈ glances, g.found = .error (.timeout what) := by
  obtain ⟨vain, g, rfl, hvain, hg, rfl⟩ | ⟨hvain, hlast, rfl⟩ := h.ends
  · have hfound : (g.found.map fun _ => ()) = .error (.timeout what) ↔
        g.found = .error (.timeout what) := by
      cases g.found <;> simp [Except.map]
    rw [hfound]
    constructor
    · exact fun hg' => .inr ⟨g, by simp, hg'⟩
    · rintro (⟨hall, -⟩ | ⟨g', hmem, hg'⟩)
      · exact absurd (hall g (by simp)) hg
      · obtain hmem | hmem := List.mem_append.mp hmem
        · rw [hvain g' hmem] at hg'
          cases hg'
        · rwa [← List.mem_singleton.mp hmem]
  · exact iff_of_true rfl (.inl ⟨hvain, hlast⟩)

/-- **Looks without delay meet a condition that begins to hold in time**: the last one falls on the end. -/
theorem ok_of_turn {turn : Duration}
    (h : Course what interval deadline checks before now glances result) (hturn : turn ≤ deadline)
    (hswift : ∀ n now, (checks n now).takes = 0)
    (hsound : ∀ n now e, (checks n now).outcome ≠ .error e)
    (hmet : ∀ n now, turn ≤ now → (checks n now).outcome = .ok true) : result = .ok () := by
  induction h with
  | @decided before now hfound =>
    match houtcome : (checks before now).outcome with
    | .error e => exact absurd houtcome (hsound before now e)
    | .ok true => simp [Checks.glance, houtcome, Except.map]
    | .ok false => exact absurd houtcome hfound
  | @late before now hfound hended =>
    have hnow : deadline ≤ now := by
      simpa [Checks.glance, hswift] using hended
    have htrue := hmet before now (hturn.trans hnow)
    exact absurd (htrue.symm.trans hfound) (by simp)
  | again hfound hended hs ih => exact ih

theorem scheduled {wait : Wait} (hinterval : wait.interval ≠ 0)
    (h : Course what wait.interval wait.timeout checks 0 0 glances result) :
    wait.Scheduled what checks glances result where
  few := by
    refine h.length_le _ ?_
    rw [Nat.zero_add, Nat.mul_comm]
    exact le_smul_ceilDiv (Nat.pos_of_ne_zero hinterval)
  first := by rw [h.head]; rfl
  later := h.isChain
  inTime := h.began_le (Nat.zero_le _)
  found i hi := by simpa using h.getElem_eq i hi
  decided := by
    rintro vain g rest rfl hvain hg
    exact h.decided_of_split hvain hg
  undecided hall := by
    obtain ⟨vain, g, rfl, -, hg, -⟩ | ⟨-, hlast, -⟩ := h.ends
    · exact absurd (hall g (by simp)) hg
    · exact hlast
  timedOut := h.timedOut_iff

end Wait.Course

namespace Watch

variable {wait : Wait}

/-- A wait whose time would be up after the end of the clock ends the program, without a look. -/
theorem polled_of_clockEnd_le (h : clockEnd ≤ wait.timeout) :
    polled what wait checks = (.error .overflow, {}) := by
  change StateT.run (if clockEnd ≤ 0 + wait.timeout then _ else _) _ = _
  rw [Nat.zero_add, if_pos h]
  rfl

theorem polled_eq (h : wait.timeout < clockEnd) : polled what wait checks =
    (pollUntil what wait.interval wait.timeout (.timeout what) (look checks).run wait.looks).run {} := by
  change StateT.run (if clockEnd ≤ 0 + wait.timeout then _ else _) _ = _
  rw [Nat.zero_add, if_neg (Nat.not_le.mpr h)]

theorem course_polled (hinterval : wait.interval ≠ 0) (hend : wait.timeout < clockEnd) :
    Wait.Course what wait.interval wait.timeout checks 0 0 (polled what wait checks).2.glances
      (polled what wait checks).1 := by
  have hintervals : wait.timeout ≤ 0 + (wait.timeout / wait.interval + 1) * wait.interval := by
    rw [Nat.zero_add, Nat.succ_mul]
    exact (Nat.lt_div_mul_add (Nat.pos_of_ne_zero hinterval)).le
  obtain ⟨glances, result, h⟩ : ∃ glances result,
      Wait.Course what wait.interval wait.timeout checks 0 0 glances result :=
    Wait.Course.exists_of_le what checks _ hintervals
  have hlooks : glances.length ≤ wait.looks := by
    rw [Wait.looks, Nat.max_eq_left (Nat.one_le_iff_ne_zero.mpr hinterval)]
    exact h.length_le _ hintervals
  obtain ⟨clock, hrun⟩ := h.run_pollUntil (w := {}) (.timeout what) wait.looks
  rw [polled_eq hend, hrun, if_pos hlooks, List.take_of_length_le hlooks]
  exact h

theorem scheduled_polled_iff (hinterval : wait.interval ≠ 0) :
    wait.Scheduled what checks (polled what wait checks).2.glances (polled what wait checks).1 ↔
      wait.timeout < clockEnd := by
  refine ⟨fun h => ?_, fun hend => (course_polled hinterval hend).scheduled hinterval⟩
  by_contra hend
  have hfirst := h.first
  rw [polled_of_clockEnd_le (Nat.not_lt.mp hend)] at hfirst
  cases hfirst

/-- **Numbered looks** are those of the wait, as far as the numbers go. -/
theorem numbered_spec (limit : ℕ) (hinterval : wait.interval ≠ 0) (hend : wait.timeout < clockEnd) :
    (numbered limit what wait checks).2.glances = (polled what wait checks).2.glances.take limit ∧
      (numbered limit what wait checks).1 =
        if (polled what wait checks).2.glances.length ≤ limit then (polled what wait checks).1
        else .error .overflow := by
  have h : Wait.Course what wait.interval wait.timeout checks 0 0 (polled what wait checks).2.glances
      (polled what wait checks).1 := course_polled hinterval hend
  obtain ⟨clock, hrun⟩ := h.run_pollUntil (w := {}) .overflow limit
  rw [numbered, hrun]
  exact ⟨rfl, rfl⟩

end Watch

/-! ### Waits that settings may ask for -/

theorem forM_eq_ok_iff {α : Type} {f : α → Except Error Unit} {l : List α} :
    l.forM f = .ok () ↔ ∀ x ∈ l, f x = .ok () := by
  induction l with
  | nil => exact iff_of_true rfl (by simp)
  | cons a l ih =>
    rw [List.forall_mem_cons, ← ih]
    show (f a >>= fun _ => l.forM f) = .ok () ↔ _
    cases f a with
    | error e => exact iff_of_false (by rintro ⟨⟩) (by rintro ⟨⟨⟩, -⟩)
    | ok u => exact (and_iff_right rfl).symm

theorem Wait.ne_zero_of_check {name : String} {w : Wait} (h : w.check name = .ok ()) :
    w.interval ≠ 0 ∧ w.timeout ≠ 0 := by
  unfold check at h
  split at h <;> rename_i hinterval
  · cases h
  · split at h <;> rename_i htimeout
    · cases h
    · exact ⟨hinterval, fun hzero => hinterval (by simpa [hzero] using htimeout)⟩

theorem Settings.check_waits {s : Settings} (h : s.check = .ok ()) :
    ∀ w ∈ s.waits, w.2.check w.1 = .ok () := by
  rw [← forM_eq_ok_iff]
  unfold check at h
  cases hwaits : s.waits.forM fun w => w.2.check w.1 with
  | ok u => rfl
  | error e =>
    rw [hwaits] at h
    by_cases hattempts : s.probe.attempts = 0
    · rw [if_pos hattempts] at h
      cases h
    · rw [if_neg hattempts] at h
      cases h

/-- Settings that are accepted have an interval and a time for every wait. -/
theorem Settings.ne_zero_of_check {s : Settings} (h : s.check = .ok ()) :
    ∀ wait ∈ [s.rollout.healthyWait, s.rollout.podWait, s.rollout.leaderTransfer, s.rollout.binlogDrain,
      s.rollout.generationWait, s.storage.resizeWait], wait.interval ≠ 0 ∧ wait.timeout ≠ 0 := by
  intro wait hwait
  have hmem : wait ∈ s.waits.map Prod.snd := hwait
  obtain ⟨w, hw, rfl⟩ := List.mem_map.mp hmem
  exact Wait.ne_zero_of_check (Settings.check_waits h w hw)

/-- **Waits keep to their schedule.** Whatever looks take and find, a wait looks at once, then an interval
after the end of each look, for the last time when the time is up, and at most once more than intervals
begin in that time. The first look that does not find the condition still failing to hold decides, and
otherwise the time is up when a look ends that late. Looks that take no time find out a condition that
begins to hold by then. All waits of accepted settings have an interval and a time.

That is so just when the time is up before the end of the clock. A wait for longer ends the program before
it looks, and one with more looks than there are numbers for them after the last number. -/
theorem poll_scheduled (what : String) (wait : Wait) (checks : Checks) :
    (wait.interval ≠ 0 →
      (wait.Scheduled what checks (Watch.polled what wait checks).2.glances
        (Watch.polled what wait checks).1 ↔ wait.timeout < clockEnd) ∧
      (wait.timeout < clockEnd → ∀ turn ≤ wait.timeout, (∀ n now, (checks n now).takes = 0) →
        (∀ n now e, (checks n now).outcome ≠ .error e) →
        (∀ n now, turn ≤ now → (checks n now).outcome = .ok true) →
        (Watch.polled what wait checks).1 = .ok ()) ∧
      (wait.timeout < clockEnd → ∀ limit,
        (Watch.numbered limit what wait checks).2.glances =
            (Watch.polled what wait checks).2.glances.take limit ∧
          (Watch.numbered limit what wait checks).1 =
            if (Watch.polled what wait checks).2.glances.length ≤ limit then
              (Watch.polled what wait checks).1
            else .error .overflow)) ∧
    (clockEnd ≤ wait.timeout → Watch.polled what wait checks = (.error .overflow, {})) ∧
    ∀ s : Settings, s.check = .ok () →
      ∀ w ∈ [s.rollout.healthyWait, s.rollout.podWait, s.rollout.leaderTransfer, s.rollout.binlogDrain,
        s.rollout.generationWait, s.storage.resizeWait], w.interval ≠ 0 ∧ w.timeout ≠ 0 := by
  refine ⟨fun hinterval => ⟨Watch.scheduled_polled_iff hinterval, fun hend turn hturn => ?_,
      fun hend limit => Watch.numbered_spec limit hinterval hend⟩,
    Watch.polled_of_clockEnd_le, fun _ h => Settings.ne_zero_of_check h⟩
  exact (Watch.course_polled hinterval hend).ok_of_turn hturn

/-- Looks without delay at a condition that holds from a moment on. -/
def holdsFrom (turn : Duration) : Checks := fun _ now => { outcome := .ok (decide (turn ≤ now)) }

/-- A condition that begins to hold at the very end is seen, with a shorter pause before the last look;
with numbers for two looks only, it is not. -/
theorem poll_scheduled_holdsFrom :
    let polled := Watch.polled "group" ⟨2, 5⟩ (holdsFrom 5)
    Wait.Scheduled ⟨2, 5⟩ "group" (holdsFrom 5) polled.2.glances polled.1 ∧ polled.1 = .ok () ∧
      polled.2.glances.map Glance.began = [0, 2, 4, 5] ∧
      (Watch.numbered 2 "group" ⟨2, 5⟩ (holdsFrom 5)).1 = .error .overflow ∧
      Settings.quick.rollout.healthyWait.interval ≠ 0 := by
  obtain ⟨hwait, -, hsettings⟩ := poll_scheduled "group" ⟨2, 5⟩ (holdsFrom 5)
  obtain ⟨hscheduled, hturn, hnumbered⟩ := hwait (by decide)
  have hend : (5 : Duration) < clockEnd := by decide
  refine ⟨hscheduled.mpr hend, ?_, by decide, (hnumbered hend 2).2.trans (by decide),
    (hsettings Settings.quick (by decide) _ (by simp)).1⟩
  exact hturn hend 5 le_rfl (fun _ _ => rfl) (fun _ _ _ => by simp [holdsFrom])
    fun _ now h => by simpa [holdsFrom] using h

/-- Settings that are accepted although a member is waited for longer than the clock goes on. -/
def endlessSettings : Settings :=
  { rollout := { healthyWait := ⟨Duration.ofSeconds 1, Duration.ofSeconds 10000000000000000000⟩ } }

/-- With them a wait for what holds from the first moment on ends the program. -/
theorem endlessSettings_overflow :
    endlessSettings.check = .ok () ∧
      Duration.read? "10000000000000000000s" = some endlessSettings.rollout.healthyWait.timeout ∧
      ∀ what, Watch.polled what endlessSettings.rollout.healthyWait (holdsFrom 0) =
        (.error .overflow, {}) :=
  ⟨by decide, by decide, fun _ => Watch.polled_of_clockEnd_le (by decide)⟩

end RaftMysql
