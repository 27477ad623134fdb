import RaftMysql.Program.Basic
import RaftMysql.Settings.Basic

/-!
# Waiting and trying again

`poll` looks at a condition at once and then after every interval until it holds, a look fails, or
the time is up; no look begins after that. The last pause is cut short so that a last look falls on
the very end. A wait for longer than the clock goes on is not begun. `retry` repeats a step with pauses
in between until its outcome is good or its attempts are used up, and keeps the last outcome.

Both work in any monad with a `Timer`: procedures have one, and so has a model with a clock of its
own.
-/

namespace RaftMysql

/-- A clock that never runs backwards, and pauses. -/
class Timer (m : Type → Type) where
  clock : m Duration
  sleep : Duration → m Unit

instance : Timer Program where
  clock := Program.request .clock
  sleep d := Program.request (.sleep d)

section

variable {m : Type → Type} [Monad m] [Timer m] {α : Type}

/-- Looks until a moment of the clock, but at most `looks` more times: after these it ends with
`spent`. -/
def pollUntil (what : String) (interval deadline : Duration) (spent : Error)
    (look : m (Except Error Bool)) : Nat → m (Except Error Unit)
  | 0 => return .error spent
  | looks + 1 => do
    match ← look with
    | .error e => return .error e
    | .ok true => return .ok ()
    | .ok false =>
      let now ← Timer.clock
      if deadline ≤ now then return .error (.timeout what)
      else
        Timer.sleep (min interval (deadline - now))
        pollUntil what interval deadline spent look looks

/-- How many looks a wait can take when pauses have their full length. -/
def Wait.looks (w : Wait) : Nat := w.timeout / max w.interval 1 + 2

/-- The first moment that is too late for the clock, which counts seconds in 64 bits with sign. -/
def clockEnd : Duration := Duration.ofSeconds 9223372036854775808

/-- Waits for a condition. The looks are numbered in the log only. -/
def poll (what : String) (wait : Wait) (look : ExceptT Error m Bool) : ExceptT Error m Unit :=
  ExceptT.mk do
    let start ← Timer.clock
    let deadline := start + wait.timeout
    if clockEnd ≤ deadline then return .error .overflow
    else pollUntil what wait.interval deadline (.timeout what) look.run wait.looks

/-- Repeats a step until its outcome is good, at most so many times after the first. -/
def repeatUntil (interval : Duration) (good : α → Bool) (step : m α) : Nat → m α
  | 0 => step
  | more + 1 => do
    let outcome ← step
    if good outcome then return outcome
    else
      Timer.sleep interval
      repeatUntil interval good step more

/-- Repeats a step until its outcome is good, in at most so many attempts and at least one. -/
def attempt (attempts : Nat) (interval : Duration) (good : α → Bool) (step : m α) : m α :=
  repeatUntil interval good step (attempts - 1)

/-- The outcome is a success. -/
def succeeded (outcome : Except Error α) : Bool :=
  match outcome with
  | .ok _ => true
  | .error _ => false

/-- Repeats a step until it succeeds. -/
def retry (attempts : Nat) (interval : Duration) (step : ExceptT Error m α) : ExceptT Error m α :=
  ExceptT.mk (attempt attempts interval succeeded step.run)

end

end RaftMysql
