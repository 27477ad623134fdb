import RaftMysql.Program.Waiting
import Mathlib.Tactic.Common

/-!
# Traces of procedures

A `Trace` lists the requests of a run with what came back. `Program.Run p t a` says that `p` ends
with `a` when its requests are answered as in `t`. Every answer is allowed, so a statement about all
runs of a procedure holds whatever the world does between two of its requests.

A run of one procedure after the other splits into runs of the two (`Program.run_bind`,
`Procedure.run_bind`). `Asks` bounds what a procedure may ever ask for, whatever is answered, and a
wait ends well only right after a look that ended well (`Procedure.run_poll_ok`).
-/

namespace RaftMysql

/-- A request and what came back. -/
structure Event where
  request : Request
  answer : request.Answer

/-- The requests of a run in their order, with what came back. -/
abbrev Trace := List Event

/-- A place in two lists one after the other is a place in the first or in the second. -/
theorem append_eq_split {α : Type} {xs ys before after : List α} {a : α}
    (h : xs ++ ys = before ++ a :: after) :
    (∃ own, xs = before ++ a :: own ∧ after = own ++ ys) ∨
      ∃ own, before = xs ++ own ∧ ys = own ++ a :: after := by
  rcases List.append_eq_append_iff.mp h with ⟨own, rfl, heq⟩ | ⟨own, rfl, heq⟩
  · exact .inr ⟨own, rfl, heq⟩
  · cases own with
    | nil => exact .inr ⟨[], by simp, heq.symm⟩
    | cons b own =>
      obtain ⟨rfl, rfl⟩ := List.cons.inj heq
      exact .inl ⟨own, rfl, rfl⟩

namespace Program

variable {α β : Type}

/-! ### Runs -/

/-- The procedure ends with the result when its requests are answered as in the trace. -/
inductive Run : Program α → Trace → α → Prop
  | done (a : α) : Run (.done a) [] a
  | ask {q : Request} {next : q.Answer → Program α} {answer : q.Answer} {t : Trace} {a : α}
      (h : Run (next answer) t a) : Run (.ask q next) (⟨q, answer⟩ :: t) a

theorem run_pure {a b : α} {t : Trace} : Run (pure a : Program α) t b ↔ t = [] ∧ b = a := by
  constructor
  · intro h
    cases h
    exact ⟨rfl, rfl⟩
  · rintro ⟨rfl, rfl⟩
    exact .done _

theorem run_ask {q : Request} {next : q.Answer → Program α} {t : Trace} {a : α} :
    Run (.ask q next) t a ↔ ∃ answer t', t = ⟨q, answer⟩ :: t' ∧ Run (next answer) t' a := by
  constructor
  · intro h
    cases h with
    | ask h => exact ⟨_, _, rfl, h⟩
  · rintro ⟨answer, t', rfl, h⟩
    exact .ask h

theorem run_request {q : Request} {t : Trace} {answer : q.Answer} :
    Run (request q) t answer ↔ t = [⟨q, answer⟩] := by
  constructor
  · intro h
    obtain ⟨answer', t', rfl, h'⟩ := run_ask.mp h
    cases h'
    rfl
  · rintro rfl
    exact .ask (.done _)

/-- **A run of one procedure after the other** is a run of the first and then one of the second. -/
theorem run_bind {p : Program α} {f : α → Program β} {t : Trace} {b : β} :
    Run (p >>= f) t b ↔ ∃ t₁ t₂ a, t = t₁ ++ t₂ ∧ Run p t₁ a ∧ Run (f a) t₂ b := by
  induction p generalizing t with
  | done a =>
    constructor
    · exact fun h => ⟨[], t, a, rfl, .done a, h⟩
    · rintro ⟨t₁, t₂, a', rfl, h₁, h₂⟩
      cases h₁
      exact h₂
  | ask q next ih =>
    constructor
    · intro h
      obtain ⟨answer, t', rfl, h'⟩ := run_ask.mp h
      obtain ⟨t₁, t₂, a, rfl, h₁, h₂⟩ := (ih answer).mp h'
      exact ⟨⟨q, answer⟩ :: t₁, t₂, a, rfl, .ask h₁, h₂⟩
    · rintro ⟨t₁, t₂, a, rfl, h₁, h₂⟩
      obtain ⟨answer, t', rfl, h'⟩ := run_ask.mp h₁
      exact .ask ((ih answer).mpr ⟨t', t₂, a, rfl, h', h₂⟩)

section

variable {σ : Type} (answer : (q : Request) → σ → q.Answer × σ)

/-- The trace of a procedure that runs against something that answers from a state. -/
def traceOf : Program α → σ → Trace
  | done _, _ => []
  | ask q next, s => ⟨q, (answer q s).1⟩ :: traceOf (next (answer q s).1) (answer q s).2

theorem run_traceOf (p : Program α) (s : σ) : Run p (p.traceOf answer s) (p.run answer s).1 := by
  induction p generalizing s with
  | done a => exact .done a
  | ask q next ih => exact .ask (ih _ _)

theorem run_traceOf_of_eq {p : Program α} {s : σ} {a : α} (h : (p.run answer s).1 = a) :
    Run p (p.traceOf answer s) a := h ▸ run_traceOf answer p s

theorem exists_of_mem_traceOf {p : Program α} {s : σ} {e : Event} (he : e ∈ p.traceOf answer s) :
    ∃ s', e.answer = (answer e.request s').1 := by
  induction p generalizing s with
  | done a => cases he
  | ask q next ih =>
    rcases List.mem_cons.mp he with rfl | he
    · exact ⟨s, rfl⟩
    · exact ih _ he

end

/-! ### What a procedure may ask for -/

/-- Whatever is answered, the procedure asks for nothing but what `P` allows. -/
def Asks (P : Request → Prop) : Program α → Prop
  | done _ => True
  | ask q next => P q ∧ ∀ answer, Asks P (next answer)

variable {P : Request → Prop}

theorem asks_pure (a : α) : Asks P (pure a : Program α) := trivial

theorem asks_request {q : Request} (h : P q) : Asks P (request q) := ⟨h, fun _ => trivial⟩

theorem asks_bind {p : Program α} {f : α → Program β} (hp : p.Asks P) (hf : ∀ a, (f a).Asks P) :
    Asks P (p >>= f) := by
  induction p with
  | done a => exact hf a
  | ask q next ih => exact ⟨hp.1, fun answer => ih answer (hp.2 answer)⟩

theorem Asks.mono {Q : Request → Prop} {p : Program α} (hp : p.Asks P) (h : ∀ q, P q → Q q) :
    p.Asks Q := by
  induction p with
  | done a => trivial
  | ask q next ih => exact ⟨h q hp.1, fun answer => ih answer (hp.2 answer)⟩

theorem Run.asks {p : Program α} {t : Trace} {a : α} (h : Run p t a) (hp : p.Asks P) :
    ∀ e ∈ t, P e.request := by
  induction h with
  | done a => simp
  | ask h ih =>
    intro e he
    rcases List.mem_cons.mp he with rfl | he
    · exact hp.1
    · exact ih (hp.2 _) e he

end Program

namespace Procedure

variable {α β : Type}

/-! ### Runs that may fail -/

/-- The procedure ends with the result, or fails, when its requests are answered as in the trace. -/
def Run (p : Procedure α) (t : Trace) (r : Except Error α) : Prop := Program.Run p.outcome t r

theorem run_pure {a : α} {t : Trace} {r : Except Error α} :
    Run (pure a) t r ↔ t = [] ∧ r = .ok a := Program.run_pure

theorem run_throw {e : Error} {t : Trace} {r : Except Error α} :
    Run (throw e) t r ↔ t = [] ∧ r = .error e := Program.run_pure

theorem run_lift {x : Except Error α} {t : Trace} {r : Except Error α} :
    Run (liftM x) t r ↔ t = [] ∧ r = x := by
  match x with
  | .ok a => exact run_pure
  | .error e => exact run_throw

/-- **A run of one procedure after the other** fails in the first, or goes on to the second. -/
theorem run_bind {p : Procedure α} {f : α → Procedure β} {t : Trace} {r : Except Error β} :
    Run (p >>= f) t r ↔ (∃ e, Run p t (.error e) ∧ r = .error e) ∨
      ∃ t₁ t₂ a, t = t₁ ++ t₂ ∧ Run p t₁ (.ok a) ∧ Run (f a) t₂ r := by
  unfold Run
  rw [show (p >>= f).outcome = p.outcome >>= ExceptT.bindCont f from rfl, Program.run_bind]
  constructor
  · rintro ⟨t₁, t₂, x, rfl, h₁, h₂⟩
    cases x with
    | error e =>
      obtain ⟨rfl, rfl⟩ := Program.run_pure.mp h₂
      exact .inl ⟨e, by simpa using h₁, rfl⟩
    | ok a => exact .inr ⟨t₁, t₂, a, rfl, h₁, h₂⟩
  · rintro (⟨e, h, rfl⟩ | ⟨t₁, t₂, a, rfl, h₁, h₂⟩)
    · exact ⟨t, [], .error e, by simp, h, .done _⟩
    · exact ⟨t₁, t₂, .ok a, rfl, h₁, h₂⟩

theorem run_bind_ok {p : Procedure α} {f : α → Procedure β} {t : Trace} {b : β} :
    Run (p >>= f) t (.ok b) ↔ ∃ t₁ t₂ a, t = t₁ ++ t₂ ∧ Run p t₁ (.ok a) ∧ Run (f a) t₂ (.ok b) := by
  rw [run_bind]
  constructor
  · rintro (⟨e, -, he⟩ | h)
    · cases he
    · exact h
  · exact .inr

theorem run_step {p : Program α} {t : Trace} {r : Except Error α} :
    Run (.step p) t r ↔ ∃ a, Program.Run p t a ∧ r = .ok a := by
  unfold Run
  rw [show (Procedure.step p).outcome = p >>= fun a => pure (.ok a) from rfl, Program.run_bind]
  constructor
  · rintro ⟨t₁, t₂, a, rfl, h₁, h₂⟩
    obtain ⟨rfl, rfl⟩ := Program.run_pure.mp h₂
    exact ⟨a, by simpa using h₁, rfl⟩
  · rintro ⟨a, h, rfl⟩
    exact ⟨t, [], a, by simp, h, .done _⟩

theorem run_step_bind {p : Program α} {f : α → Procedure β} {t : Trace} {r : Except Error β} :
    Run (.step p >>= f) t r ↔ ∃ t₁ t₂ a, t = t₁ ++ t₂ ∧ Program.Run p t₁ a ∧ Run (f a) t₂ r := by
  rw [run_bind]
  constructor
  · rintro (⟨e, h, -⟩ | ⟨t₁, t₂, a, rfl, h₁, h₂⟩)
    · obtain ⟨_, -, he⟩ := run_step.mp h
      cases he
    · obtain ⟨a', h₁, ha⟩ := run_step.mp h₁
      obtain rfl := Except.ok.inj ha
      exact ⟨t₁, t₂, a, rfl, h₁, h₂⟩
  · rintro ⟨t₁, t₂, a, rfl, h₁, h₂⟩
    exact .inr ⟨t₁, t₂, a, rfl, run_step.mpr ⟨a, h₁, rfl⟩, h₂⟩

/-- Whatever is answered, the procedure asks for nothing but what `P` allows. -/
def Asks (P : Request → Prop) (p : Procedure α) : Prop := Program.Asks P p.outcome

variable {P : Request → Prop}

theorem asks_pure (a : α) : Asks P (pure a : Procedure α) := trivial

theorem asks_throw (e : Error) : Asks P (throw e : Procedure α) := trivial

theorem asks_step {p : Program α} (h : p.Asks P) : Asks P (.step p) :=
  Program.asks_bind h fun _ => trivial

theorem asks_bind {p : Procedure α} {f : α → Procedure β} (hp : p.Asks P)
    (hf : ∀ a, (f a).Asks P) : Asks P (p >>= f) := by
  refine Program.asks_bind hp fun x => ?_
  cases x with
  | error e => exact trivial
  | ok a => exact hf a

theorem Asks.mono {Q : Request → Prop} {p : Procedure α} (hp : p.Asks P) (h : ∀ q, P q → Q q) :
    p.Asks Q := Program.Asks.mono hp h

theorem Run.asks {p : Procedure α} {t : Trace} {r : Except Error α} (h : Run p t r)
    (hp : p.Asks P) : ∀ e ∈ t, P e.request := Program.Run.asks h hp

/-! ### Waits and repetitions -/

theorem asks_pollUntil {what : String} {interval deadline : Duration} {spent : Error}
    {look : Program (Except Error Bool)} (hclock : P .clock) (hsleep : ∀ d, P (.sleep d))
    (hlook : look.Asks P) :
    ∀ looks, (pollUntil what interval deadline spent look looks).Asks P
  | 0 => trivial
  | looks + 1 => by
    refine Program.asks_bind hlook fun x => ?_
    match x with
    | .error e => exact trivial
    | .ok true => exact trivial
    | .ok false =>
      refine Program.asks_bind (Program.asks_request hclock) fun now => ?_
      split
      · exact trivial
      · exact Program.asks_bind (Program.asks_request (hsleep _)) fun _ =>
          asks_pollUntil hclock hsleep hlook looks

theorem asks_poll {what : String} {wait : Wait} {look : Procedure Bool} (hclock : P .clock)
    (hsleep : ∀ d, P (.sleep d)) (hlook : look.Asks P) : Asks P (poll what wait look) := by
  refine Program.asks_bind (Program.asks_request hclock) fun start => ?_
  dsimp only
  split
  · exact trivial
  · exact asks_pollUntil hclock hsleep hlook _

/-- What comes before the last look is made up of looks that did not find the condition to hold, and
of the time and the pauses between them. Without a look that ends the wait, that is all. -/
theorem run_pollUntil {what : String} {interval deadline : Duration}
    {look : Program (Except Error Bool)} {P : Event → Prop} (hclock : ∀ now, P ⟨.clock, now⟩)
    (hsleep : ∀ d answer, P ⟨.sleep d, answer⟩)
    (hlook : ∀ t, Program.Run look t (.ok false) → ∀ e ∈ t, P e) :
    ∀ {looks : Nat} {t : Trace} {r : Except Error Unit},
      Program.Run (pollUntil what interval deadline (.timeout what) look looks) t r →
        (r = .error (.timeout what) ∧ ∀ e ∈ t, P e) ∨
          ∃ t₁ t₂ x, t = t₁ ++ t₂ ∧ (∀ e ∈ t₁, P e) ∧ Program.Run look t₂ x ∧ x ≠ .ok false ∧
            r = x.map fun _ => ()
  | 0, _, _, h => by
    obtain ⟨rfl, rfl⟩ := Program.run_pure.mp h
    exact .inl ⟨rfl, by simp⟩
  | looks + 1, _, r, h => by
    obtain ⟨t₁, t₂, x, rfl, h₁, h₂⟩ := Program.run_bind.mp h
    match x with
    | .error e =>
      obtain ⟨rfl, rfl⟩ := Program.run_pure.mp h₂
      exact .inr ⟨[], t₁, .error e, by simp, by simp, h₁, by simp, rfl⟩
    | .ok true =>
      obtain ⟨rfl, rfl⟩ := Program.run_pure.mp h₂
      exact .inr ⟨[], t₁, .ok true, by simp, by simp, h₁, by simp, rfl⟩
    | .ok false =>
      have hfruitless := hlook t₁ h₁
      obtain ⟨t₃, t₄, now, rfl, h₃, h₄⟩ := Program.run_bind.mp h₂
      obtain rfl := Program.run_request.mp h₃
      have htime : ∀ e ∈ t₁ ++ [⟨.clock, now⟩], P e :=
        List.forall_mem_append.mpr ⟨hfruitless, List.forall_mem_singleton.mpr (hclock now)⟩
      split at h₄
      · obtain ⟨rfl, rfl⟩ := Program.run_pure.mp h₄
        exact .inl ⟨rfl, by simpa using htime⟩
      · obtain ⟨t₅, t₆, answer, rfl, h₅, h₆⟩ := Program.run_bind.mp h₄
        obtain rfl := Program.run_request.mp h₅
        have hpause := List.forall_mem_append.mpr
          ⟨htime, List.forall_mem_singleton.mpr (hsleep (min interval (deadline - now)) answer)⟩
        rcases run_pollUntil hclock hsleep hlook h₆ with
          ⟨rfl, hrest⟩ | ⟨t₇, t₈, x, rfl, hrest, h₈, hx, rfl⟩
        · exact .inl ⟨rfl, by simpa using List.forall_mem_append.mpr ⟨hpause, hrest⟩⟩
        · exact .inr ⟨_, t₈, x, by simp, List.forall_mem_append.mpr ⟨hpause, hrest⟩, h₈, hx, rfl⟩

/-- A wait looks at the clock, and begins if the clock will show the moment at which the time is up. -/
theorem run_poll_cons {what : String} {wait : Wait} {look : Procedure Bool} {t : Trace}
    {r : Except Error Unit} (h : Run (poll what wait look) t r) :
    ∃ (start : Duration) (t' : Trace), t = ⟨.clock, start⟩ :: t' ∧
      (clockEnd ≤ start + wait.timeout ∧ t' = [] ∧ r = .error .overflow ∨
        start + wait.timeout < clockEnd ∧
          Program.Run (pollUntil what wait.interval (start + wait.timeout) (.timeout what) look.run
            wait.looks) t' r) := by
  obtain ⟨t₁, t', start, rfl, h₁, h₂⟩ := Program.run_bind.mp h
  obtain rfl := Program.run_request.mp h₁
  refine ⟨start, t', rfl, ?_⟩
  dsimp only at h₂
  split at h₂ <;> rename_i hend
  · obtain ⟨rfl, rfl⟩ := Program.run_pure.mp h₂
    exact .inl ⟨hend, rfl, rfl⟩
  · exact .inr ⟨Nat.lt_of_not_le hend, h₂⟩

/-- **How a wait ends**: its time is up, or a look found the condition to hold or failed. All looks
before did not find it to hold. A wait that cannot begin ends the program. -/
theorem run_poll {what : String} {wait : Wait} {look : Procedure Bool} {t : Trace}
    {r : Except Error Unit} {P : Event → Prop} (hclock : ∀ now, P ⟨.clock, now⟩)
    (hsleep : ∀ d answer, P ⟨.sleep d, answer⟩)
    (hlook : ∀ t, Run look t (.ok false) → ∀ e ∈ t, P e) (h : Run (poll what wait look) t r) :
    (r = .error .overflow ∧ ∃ start : Duration, t = [⟨.clock, start⟩]) ∨
      (r = .error (.timeout what) ∧ ∀ e ∈ t, P e) ∨
      ∃ t₁ t₂ x, t = t₁ ++ t₂ ∧ (∀ e ∈ t₁, P e) ∧ Run look t₂ x ∧ x ≠ .ok false ∧
        r = x.map fun _ => () := by
  obtain ⟨start, t', rfl, ⟨-, rfl, rfl⟩ | ⟨-, h'⟩⟩ := run_poll_cons h
  · exact .inl ⟨rfl, start, rfl⟩
  rcases run_pollUntil hclock hsleep hlook h' with
    ⟨rfl, hrest⟩ | ⟨t₃, t₄, x, rfl, hrest, h₄, hx, rfl⟩
  · exact .inr (.inl ⟨rfl, List.forall_mem_cons.mpr ⟨hclock start, hrest⟩⟩)
  · exact .inr (.inr ⟨⟨.clock, start⟩ :: t₃, t₄, x, rfl,
      List.forall_mem_cons.mpr ⟨hclock start, hrest⟩, h₄, hx, rfl⟩)

/-- **A wait that ends well** ends right after the first look that found the condition to hold. -/
theorem run_poll_ok_first {what : String} {wait : Wait} {look : Procedure Bool} {t : Trace}
    {P : Event → Prop} (hclock : ∀ now, P ⟨.clock, now⟩) (hsleep : ∀ d answer, P ⟨.sleep d, answer⟩)
    (hlook : ∀ t, Run look t (.ok false) → ∀ e ∈ t, P e)
    (h : Run (poll what wait look) t (.ok ())) :
    ∃ t₁ t₂, t = t₁ ++ t₂ ∧ (∀ e ∈ t₁, P e) ∧ Run look t₂ (.ok true) := by
  rcases run_poll hclock hsleep hlook h with
    ⟨hr, -⟩ | ⟨hr, -⟩ | ⟨t₁, t₂, x, rfl, hfruitless, h₂, hx, hr⟩
  · cases hr
  · cases hr
  · match x with
    | .error e => cases hr
    | .ok false => exact absurd rfl hx
    | .ok true => exact ⟨t₁, t₂, rfl, hfruitless, h₂⟩

theorem run_poll_ok {what : String} {wait : Wait} {look : Procedure Bool} {t : Trace}
    (h : Run (poll what wait look) t (.ok ())) :
    ∃ t₁ t₂, t = t₁ ++ t₂ ∧ Run look t₂ (.ok true) := by
  obtain ⟨t₁, t₂, rfl, -, h₂⟩ := run_poll_ok_first (P := fun _ => True) (fun _ => trivial)
    (fun _ _ => trivial) (fun _ _ _ _ => trivial) h
  exact ⟨t₁, t₂, rfl, h₂⟩

theorem asks_repeatUntil {interval : Duration} {good : α → Bool} {step : Program α}
    (hsleep : ∀ d, P (.sleep d)) (hstep : step.Asks P) :
    ∀ more, (repeatUntil interval good step more).Asks P
  | 0 => hstep
  | more + 1 => by
    refine Program.asks_bind hstep fun x => ?_
    split
    · exact trivial
    · exact Program.asks_bind (Program.asks_request (hsleep _)) fun _ =>
        asks_repeatUntil hsleep hstep more

theorem asks_retry {attempts : Nat} {interval : Duration} {step : Procedure α}
    (hsleep : ∀ d, P (.sleep d)) (hstep : step.Asks P) : Asks P (retry attempts interval step) :=
  asks_repeatUntil hsleep hstep _

theorem run_repeatUntil {interval : Duration} {good : α → Bool} {step : Program α} {a : α} :
    ∀ {more : Nat} {t : Trace}, Program.Run (repeatUntil interval good step more) t a →
      ∃ t₁ t₂, t = t₁ ++ t₂ ∧ Program.Run step t₂ a
  | 0, t, h => ⟨[], t, rfl, h⟩
  | more + 1, _, h => by
    obtain ⟨t₁, t₂, x, rfl, h₁, h₂⟩ := Program.run_bind.mp h
    split at h₂
    · obtain ⟨rfl, rfl⟩ := Program.run_pure.mp h₂
      exact ⟨[], t₁, by simp, h₁⟩
    · obtain ⟨t₃, t₄, -, rfl, -, h₄⟩ := Program.run_bind.mp h₂
      obtain ⟨t₅, t₆, rfl, h₆⟩ := run_repeatUntil h₄
      exact ⟨t₁ ++ (t₃ ++ t₅), t₆, by simp, h₆⟩

theorem run_retry {attempts : Nat} {interval : Duration} {step : Procedure α} {t : Trace}
    {r : Except Error α} (h : Run (retry attempts interval step) t r) :
    ∃ t₁ t₂, t = t₁ ++ t₂ ∧ Run step t₂ r := run_repeatUntil h

end Procedure

end RaftMysql
