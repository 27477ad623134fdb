import RaftMysql.Proofs.Program.Trace

/-!
# Two runs in one world

A `World` answers each request by what it has seen so far. In `AnsweredBy world hidden`, some requests
are hidden from the world: it sees nothing of them, and they may be answered in any way. Two runs of a
procedure that hide nothing are the same (`Program.Run.eq_of_answered`).

`Program.Alike` relates two procedures whose runs show the same to the world whatever comes back from
hidden requests, and come to related results. What follows such procedures may differ, as long as it
is alike for related results (`Program.Alike.bind`).
-/

namespace RaftMysql

/-- What answers requests: it may go by all that it has seen before. -/
abbrev World := Trace → (q : Request) → q.Answer

/-- The request is one to which nothing comes back. -/
def Request.isSilent : Request → Bool
  | .sleep _ | .record _ | .publish _ => true
  | _ => false

theorem Request.answer_eq {q : Request} (h : q.isSilent = true) (answer answer' : q.Answer) :
    answer = answer' := by
  cases q with
  | sleep _ | record _ | publish _ => rfl
  | _ => cases h

/-- A session that is opened is one on the host of the login. -/
def Event.opensInPlace : Event → Prop
  | ⟨.connect login, answer⟩ =>
    ∀ session, (answer : Except Error Session) = .ok session → session.host = login.host
  | _ => True

/-- The part of a trace that the world sees. -/
def seen (hidden : Request → Bool) (t : Trace) : Trace := t.filter fun e => !hidden e.request

/-- The world answers whatever is not hidden from it, by this past and by what it sees of the trace.
Sessions are opened in place. -/
def AnsweredBy (world : World) (hidden : Request → Bool) : Trace → Trace → Prop
  | _, [] => True
  | past, e :: t => e.opensInPlace ∧ (hidden e.request = false → e.answer = world past e.request) ∧
    AnsweredBy world hidden (past ++ seen hidden [e]) t

variable {world : World} {hidden : Request → Bool} {past t t₁ t₂ : Trace}

@[simp] theorem seen_append : seen hidden (t₁ ++ t₂) = seen hidden t₁ ++ seen hidden t₂ :=
  List.filter_append ..

theorem seen_cons (e : Event) : seen hidden (e :: t) = seen hidden [e] ++ seen hidden t :=
  List.filter_append [e] t

theorem answeredBy_append : AnsweredBy world hidden past (t₁ ++ t₂) ↔
    AnsweredBy world hidden past t₁ ∧ AnsweredBy world hidden (past ++ seen hidden t₁) t₂ := by
  induction t₁ generalizing past with
  | nil => simp [AnsweredBy, seen]
  | cons e t₁ ih =>
    have hseen : past ++ seen hidden (e :: t₁) = past ++ seen hidden [e] ++ seen hidden t₁ := by
      rw [seen_cons, List.append_assoc]
    rw [List.cons_append, AnsweredBy, AnsweredBy, ih, hseen, and_assoc, and_assoc]

theorem AnsweredBy.opensInPlace (h : AnsweredBy world hidden past t) : ∀ e ∈ t, e.opensInPlace := by
  induction t generalizing past with
  | nil => simp
  | cons e t ih => exact List.forall_mem_cons.mpr ⟨h.1, ih h.2.2⟩

/-- Whenever the two traces were the same so far, and the same is asked next, the same comes back. -/
def AnsweredAlike (t₁ t₂ : Trace) : Prop :=
  ∀ (before : Trace) (q : Request) (answer₁ answer₂ : q.Answer) (after₁ after₂ : Trace),
    t₁ = before ++ ⟨q, answer₁⟩ :: after₁ → t₂ = before ++ ⟨q, answer₂⟩ :: after₂ → answer₁ = answer₂

theorem AnsweredAlike.tail {e : Event} (h : AnsweredAlike (e :: t₁) (e :: t₂)) :
    AnsweredAlike t₁ t₂ := by
  rintro before q answer₁ answer₂ after₁ after₂ rfl rfl
  exact h (e :: before) q answer₁ answer₂ after₁ after₂ rfl rfl

namespace Program

variable {α β γ δ : Type}

/-- **A run that hides nothing** from the world is the only one in it. -/
theorem Run.eq_of_answered {p : Program α} {a₁ a₂ : α} (h₁ : Run p t₁ a₁) (h₂ : Run p t₂ a₂)
    (hopen : ∀ e ∈ t₁, hidden e.request = false ∨ e.request.isSilent = true)
    (hw₁ : AnsweredBy world hidden past t₁) (hw₂ : AnsweredBy world hidden past t₂) :
    t₁ = t₂ ∧ a₁ = a₂ := by
  induction h₁ generalizing past t₂ with
  | done a =>
    cases h₂
    exact ⟨rfl, rfl⟩
  | @ask q next answer t₁ a₁ h₁ ih =>
    obtain ⟨answer₂, t₂, rfl, hnext⟩ := run_ask.mp h₂
    obtain ⟨hq, hopen⟩ := List.forall_mem_cons.mp hopen
    -- Both runs have asked the same so far, so they ask this of the same world with the same past.
    have hsame : answer = answer₂ := by
      rcases hq with hq | hq
      · exact (hw₁.2.1 hq).trans (hw₂.2.1 hq).symm
      · exact Request.answer_eq hq _ _
    subst hsame
    obtain ⟨rfl, rfl⟩ := ih hnext hopen hw₁.2.2 hw₂.2.2
    exact ⟨rfl, rfl⟩

/-- In runs of the two procedures the world sees the same, and their results are related. -/
def Alike (world : World) (hidden : Request → Bool) (p₁ : Program α) (p₂ : Program β)
    (R : α → β → Prop) : Prop :=
  ∀ ⦃past t₁ t₂ : Trace⦄ ⦃a : α⦄ ⦃b : β⦄, Run p₁ t₁ a → Run p₂ t₂ b →
    AnsweredBy world hidden past t₁ → AnsweredBy world hidden past t₂ →
      seen hidden t₁ = seen hidden t₂ ∧ R a b

theorem alike_of_open {p : Program α} (h : ∀ t a, Run p t a → (∀ e ∈ t, e.opensInPlace) →
    ∀ e ∈ t, hidden e.request = false ∨ e.request.isSilent = true) : Alike world hidden p p Eq := by
  intro past t₁ t₂ a b h₁ h₂ hw₁ hw₂
  obtain ⟨rfl, rfl⟩ := h₁.eq_of_answered h₂ (h _ _ h₁ hw₁.opensInPlace) hw₁ hw₂
  exact ⟨rfl, rfl⟩

theorem alike_of_asks {p : Program α} (hp : p.Asks fun q => hidden q = false ∨ q.isSilent = true) :
    Alike world hidden p p Eq := alike_of_open fun _ _ h _ => h.asks hp

theorem alike_pure {a : α} {b : β} {R : α → β → Prop} (h : R a b) :
    Alike world hidden (pure a) (pure b) R := by
  intro past t₁ t₂ a' b' h₁ h₂ _ _
  obtain ⟨rfl, rfl⟩ := run_pure.mp h₁
  obtain ⟨rfl, rfl⟩ := run_pure.mp h₂
  exact ⟨rfl, h⟩

/-- Procedures that hide all that they ask for are alike. -/
theorem alike_of_hidden {p₁ : Program α} {p₂ : Program β}
    (h₁ : ∀ t a, Run p₁ t a → (∀ e ∈ t, e.opensInPlace) → ∀ e ∈ t, hidden e.request = true)
    (h₂ : ∀ t b, Run p₂ t b → (∀ e ∈ t, e.opensInPlace) → ∀ e ∈ t, hidden e.request = true) :
    Alike world hidden p₁ p₂ fun _ _ => True := by
  intro past t₁ t₂ a b hrun₁ hrun₂ hw₁ hw₂
  have hnone : ∀ {t : Trace}, (∀ e ∈ t, hidden e.request = true) → seen hidden t = [] :=
    fun h => List.filter_eq_nil_iff.mpr fun e he => by simp [h e he]
  rw [hnone (h₁ _ _ hrun₁ hw₁.opensInPlace), hnone (h₂ _ _ hrun₂ hw₂.opensInPlace)]
  exact ⟨rfl, trivial⟩

theorem alike_of_asks_hidden {p₁ : Program α} {p₂ : Program β}
    (h₁ : p₁.Asks fun q => hidden q = true) (h₂ : p₂.Asks fun q => hidden q = true) :
    Alike world hidden p₁ p₂ fun _ _ => True :=
  alike_of_hidden (fun _ _ h _ => h.asks h₁) fun _ _ h _ => h.asks h₂

namespace Alike

variable {p₁ : Program α} {p₂ : Program β} {R : α → β → Prop}

theorem mono {S : α → β → Prop} (h : Alike world hidden p₁ p₂ R) (hRS : ∀ a b, R a b → S a b) :
    Alike world hidden p₁ p₂ S := fun _ _ _ _ _ h₁ h₂ hw₁ hw₂ =>
  (h h₁ h₂ hw₁ hw₂).imp_right (hRS _ _)

theorem bind {f₁ : α → Program γ} {f₂ : β → Program δ} {S : γ → δ → Prop}
    (h : Alike world hidden p₁ p₂ R) (hf : ∀ a b, R a b → Alike world hidden (f₁ a) (f₂ b) S) :
    Alike world hidden (p₁ >>= f₁) (p₂ >>= f₂) S := by
  intro past t₁ t₂ c d h₁ h₂ hw₁ hw₂
  obtain ⟨u₁, v₁, a, rfl, hu₁, hv₁⟩ := run_bind.mp h₁
  obtain ⟨u₂, v₂, b, rfl, hu₂, hv₂⟩ := run_bind.mp h₂
  obtain ⟨hwu₁, hwv₁⟩ := answeredBy_append.mp hw₁
  obtain ⟨hwu₂, hwv₂⟩ := answeredBy_append.mp hw₂
  obtain ⟨hseen, hR⟩ := h hu₁ hu₂ hwu₁ hwu₂
  -- What has been seen of the two runs so far is the same past for what follows.
  rw [← hseen] at hwv₂
  obtain ⟨hseen', hS⟩ := hf a b hR hv₁ hv₂ hwv₁ hwv₂
  rw [seen_append, seen_append, hseen, hseen']
  exact ⟨rfl, hS⟩

theorem bind_eq {p : Program α} {f₁ : α → Program γ} {f₂ : α → Program δ} {S : γ → δ → Prop}
    (h : Alike world hidden p p Eq) (hf : ∀ a, Alike world hidden (f₁ a) (f₂ a) S) :
    Alike world hidden (p >>= f₁) (p >>= f₂) S := by
  refine h.bind fun a b hab => ?_
  subst hab
  exact hf a

end Alike

/-- What answers each request by itself is a world without a memory, also where some of its answers are
changed that are hidden. -/
theorem answeredBy_traceOf {answer answer' : (q : Request) → q.Answer} {p : Program α}
    (hplace : ∀ login session, answer (.connect login) = .ok session → session.host = login.host)
    (hsame : ∀ q, hidden q = false → answer q = answer' q) :
    AnsweredBy (fun _ => answer') hidden past (p.traceOf (fun q _ => (answer q, ())) ()) := by
  induction p generalizing past with
  | done a => trivial
  | ask q next ih =>
    refine ⟨?_, hsame q, ih _⟩
    cases q with
    | connect login => exact hplace login
    | _ => trivial

end Program

namespace Procedure

variable {α β γ δ : Type}

/-- Two outcomes are the same error, or related results. -/
def OutcomesRelated (R : α → β → Prop) : Except Error α → Except Error β → Prop
  | .ok a, .ok b => R a b
  | .error e, .error e' => e = e'
  | _, _ => False

/-- In runs of the two procedures the world sees the same, and they fail alike or come to related
results. -/
def Alike (world : World) (hidden : Request → Bool) (p₁ : Procedure α) (p₂ : Procedure β)
    (R : α → β → Prop) : Prop :=
  p₁.outcome.Alike world hidden p₂.outcome (OutcomesRelated R)

theorem alike_of_asks {p : Procedure α} (hp : p.Asks fun q => hidden q = false ∨ q.isSilent = true) :
    Alike world hidden p p Eq :=
  (Program.alike_of_asks hp).mono fun x y h => by
    subst h
    cases x <;> rfl

theorem alike_pure {a : α} {b : β} {R : α → β → Prop} (h : R a b) :
    Alike world hidden (pure a) (pure b) R := Program.alike_pure h

theorem alike_step {p₁ : Program α} {p₂ : Program β} {R : α → β → Prop}
    (h : p₁.Alike world hidden p₂ R) : Alike world hidden (.step p₁) (.step p₂) R :=
  h.bind fun _ _ hR => Program.alike_pure (R := OutcomesRelated R) hR

theorem Alike.bind {p₁ : Procedure α} {p₂ : Procedure β} {R : α → β → Prop}
    {f₁ : α → Procedure γ} {f₂ : β → Procedure δ} {S : γ → δ → Prop}
    (h : Alike world hidden p₁ p₂ R) (hf : ∀ a b, R a b → Alike world hidden (f₁ a) (f₂ b) S) :
    Alike world hidden (p₁ >>= f₁) (p₂ >>= f₂) S := by
  refine Program.Alike.bind h fun x y hR => ?_
  match x, y, hR with
  | .ok a, .ok b, hR => exact hf a b hR
  | .error e, .error _, rfl => exact Program.alike_pure (R := OutcomesRelated S) rfl

theorem Alike.bind_eq {p : Procedure α} {f₁ : α → Procedure γ} {f₂ : α → Procedure δ}
    {S : γ → δ → Prop} (h : Alike world hidden p p Eq)
    (hf : ∀ a, Alike world hidden (f₁ a) (f₂ a) S) :
    Alike world hidden (p >>= f₁) (p >>= f₂) S := by
  refine h.bind fun a b hab => ?_
  subst hab
  exact hf a

end Procedure

end RaftMysql
