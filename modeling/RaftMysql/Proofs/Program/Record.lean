import RaftMysql.Proofs.Program.Trace

/-!
# What the world keeps track of

A trace leaves every answer open. A `Record` is a part of the world that some answers are read off,
and that some requests change: `Record.Answers R s t` says that the answers in the trace are those
of a world in which that part is `s` at first, and nobody else changes it.
-/

namespace RaftMysql

/-- A part of the world: what an event makes of it, and whether an answer agrees with it. -/
structure Record (σ : Type) where
  after : σ → Event → σ
  agrees : σ → Event → Bool

namespace Record

variable {σ : Type} {R : Record σ} {s : σ}

/-- What a trace makes of it. -/
def afterAll (R : Record σ) (s : σ) (t : Trace) : σ := t.foldl R.after s

/-- All answers agree with what is on record when they are given. -/
def Answers (R : Record σ) : σ → Trace → Prop
  | _, [] => True
  | s, e :: t => R.agrees s e = true ∧ R.Answers (R.after s e) t

instance decidableAnswers (R : Record σ) : ∀ (s : σ) (t : Trace), Decidable (R.Answers s t)
  | _, [] => isTrue trivial
  | s, e :: t =>
    have := decidableAnswers R (R.after s e) t
    inferInstanceAs (Decidable (R.agrees s e = true ∧ R.Answers (R.after s e) t))

theorem afterAll_append (t₁ t₂ : Trace) :
    R.afterAll s (t₁ ++ t₂) = R.afterAll (R.afterAll s t₁) t₂ := List.foldl_append

theorem answers_append {t₁ t₂ : Trace} :
    R.Answers s (t₁ ++ t₂) ↔ R.Answers s t₁ ∧ R.Answers (R.afterAll s t₁) t₂ := by
  induction t₁ generalizing s with
  | nil => simp [Answers, afterAll]
  | cons e t₁ ih =>
    show R.agrees s e = true ∧ R.Answers (R.after s e) (t₁ ++ t₂) ↔
      (R.agrees s e = true ∧ R.Answers (R.after s e) t₁) ∧
        R.Answers (R.afterAll (R.after s e) t₁) t₂
    rw [ih, and_assoc]

theorem afterAll_eq_of_forall {t : Trace} (h : ∀ e ∈ t, R.after s e = s) : R.afterAll s t = s := by
  induction t with
  | nil => rfl
  | cons e t ih =>
    show R.afterAll (R.after s e) t = s
    rw [h e (by simp)]
    exact ih fun e he => h e (List.mem_cons_of_mem _ he)

end Record

end RaftMysql
