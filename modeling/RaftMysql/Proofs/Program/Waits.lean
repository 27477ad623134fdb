import RaftMysql.Proofs.Program.Trace

/-!
# The looks of a wait

`Awaits` describes a wait by its trace: it looks at once and then after every pause, and each look but
the last found the condition not to hold. It ends when its time is up, or with a look that began in time
(`AwaitsUntil.ends`). A wait for longer than the clock goes on does not look at all.
-/

namespace RaftMysql

variable {what : String} {interval deadline : Duration}
  {Look : Trace → Except Error Bool → Prop} {looks : ℕ} {t : Trace} {r : Except Error Unit}

/-- At most so many looks, none of which begins when the time is up: the trace and how it ends. -/
inductive AwaitsUntil (what : String) (interval deadline : Duration)
    (Look : Trace → Except Error Bool → Prop) : ℕ → Trace → Except Error Unit → Prop
  | spent : AwaitsUntil what interval deadline Look 0 [] (.error (.timeout what))
  | met {looks : ℕ} {t : Trace} (h : Look t (.ok true)) :
    AwaitsUntil what interval deadline Look (looks + 1) t (.ok ())
  | failed {looks : ℕ} {t : Trace} {e : Error} (h : Look t (.error e)) :
    AwaitsUntil what interval deadline Look (looks + 1) t (.error e)
  | late {looks : ℕ} {t : Trace} {now : Duration} (h : Look t (.ok false)) (hnow : deadline ≤ now) :
    AwaitsUntil what interval deadline Look (looks + 1) (t ++ [⟨.clock, now⟩]) (.error (.timeout what))
  | again {looks : ℕ} {t t' : Trace} {now : Duration} {r : Except Error Unit} (h : Look t (.ok false))
    (hnow : now < deadline) (hs : AwaitsUntil what interval deadline Look looks t' r) :
    AwaitsUntil what interval deadline Look (looks + 1)
      (t ++ ⟨.clock, now⟩ :: ⟨.sleep (min interval (deadline - now)), ()⟩ :: t') r

/-- The trace of a wait and how it ends: the time is counted from the beginning. Where the clock does not
show the moment at which it is up, there is no wait. -/
inductive Awaits (what : String) (wait : Wait) (Look : Trace → Except Error Bool → Prop) :
    Trace → Except Error Unit → Prop
  | unbegun {start : Duration} (h : clockEnd ≤ start + wait.timeout) :
    Awaits what wait Look [⟨.clock, start⟩] (.error .overflow)
  | begun {start : Duration} {t : Trace} {r : Except Error Unit} (h : start + wait.timeout < clockEnd)
    (hs : AwaitsUntil what wait.interval (start + wait.timeout) Look wait.looks t r) :
    Awaits what wait Look (⟨.clock, start⟩ :: t) r

theorem awaitsUntil_of_run {look : Program (Except Error Bool)}
    (hlook : ∀ t x, Program.Run look t x → Look t x)
    (h : Program.Run (pollUntil what interval deadline (.timeout what) look looks) t r) :
    AwaitsUntil what interval deadline Look looks t r := by
  induction looks generalizing t with
  | zero =>
    obtain ⟨rfl, rfl⟩ := Program.run_pure.mp h
    exact .spent
  | succ looks ih =>
    obtain ⟨t₁, t₂, x, rfl, h₁, h₂⟩ := Program.run_bind.mp h
    have hx := hlook t₁ x h₁
    match x with
    | .error e =>
      obtain ⟨rfl, rfl⟩ := Program.run_pure.mp h₂
      rw [List.append_nil]
      exact .failed hx
    | .ok true =>
      obtain ⟨rfl, rfl⟩ := Program.run_pure.mp h₂
      rw [List.append_nil]
      exact .met hx
    | .ok false =>
      obtain ⟨t₃, t₄, now, rfl, h₃, h₄⟩ := Program.run_bind.mp h₂
      obtain rfl := Program.run_request.mp h₃
      split at h₄ <;> rename_i hnow
      · obtain ⟨rfl, rfl⟩ := Program.run_pure.mp h₄
        exact .late hx hnow
      · obtain ⟨t₅, t₆, _, rfl, h₅, h₆⟩ := Program.run_bind.mp h₄
        obtain rfl := Program.run_request.mp h₅
        exact .again hx (Nat.lt_of_not_le hnow) (ih h₆)

theorem awaits_of_run {wait : Wait} {look : Procedure Bool} (hlook : ∀ t x, look.Run t x → Look t x)
    (h : (poll what wait look).Run t r) : Awaits what wait Look t r := by
  obtain ⟨start, t', rfl, ⟨hend, rfl, rfl⟩ | ⟨hend, h'⟩⟩ := Procedure.run_poll_cons h
  · exact .unbegun hend
  · exact .begun hend (awaitsUntil_of_run hlook h')

/-! ### What a wait is made of -/

variable {P : Event → Prop}

theorem AwaitsUntil.forall_mem (hclock : ∀ now, P ⟨.clock, now⟩) (hsleep : ∀ d answer, P ⟨.sleep d, answer⟩)
    (hlook : ∀ t x, Look t x → ∀ e ∈ t, P e)
    (h : AwaitsUntil what interval deadline Look looks t r) : ∀ e ∈ t, P e := by
  induction h with
  | spent => simp
  | met h => exact hlook _ _ h
  | failed h => exact hlook _ _ h
  | late h hnow =>
    exact List.forall_mem_append.mpr ⟨hlook _ _ h, List.forall_mem_singleton.mpr (hclock _)⟩
  | again h hnow hs ih =>
    refine List.forall_mem_append.mpr ⟨hlook _ _ h, ?_⟩
    exact List.forall_mem_cons.mpr ⟨hclock _, List.forall_mem_cons.mpr ⟨hsleep _ _, ih⟩⟩

theorem Awaits.forall_mem {wait : Wait} (hclock : ∀ now, P ⟨.clock, now⟩)
    (hsleep : ∀ d answer, P ⟨.sleep d, answer⟩) (hlook : ∀ t x, Look t x → ∀ e ∈ t, P e)
    (h : Awaits what wait Look t r) : ∀ e ∈ t, P e := by
  cases h with
  | unbegun => exact List.forall_mem_singleton.mpr (hclock _)
  | begun h hs => exact List.forall_mem_cons.mpr ⟨hclock _, hs.forall_mem hclock hsleep hlook⟩

/-- **How a wait ends**: its time is up, or a look that began in time found the condition to hold or
failed. `P` is what holds of the looks that did not. -/
theorem AwaitsUntil.ends (hclock : ∀ now, P ⟨.clock, now⟩) (hsleep : ∀ d answer, P ⟨.sleep d, answer⟩)
    (hlook : ∀ t, Look t (.ok false) → ∀ e ∈ t, P e ∧ e.request ≠ .clock)
    (h : AwaitsUntil what interval deadline Look looks t r) :
    (r = .error (.timeout what) ∧ ∀ e ∈ t, P e) ∨
      ∃ before own x, t = before ++ own ∧ (∀ e ∈ before, P e) ∧
        (∀ now : Duration, ⟨.clock, now⟩ ∈ before → now < deadline) ∧
        Look own x ∧ x ≠ .ok false ∧ r = x.map fun _ => () := by
  induction h with
  | spent => exact .inl ⟨rfl, by simp⟩
  | met h => exact .inr ⟨[], _, _, rfl, by simp, by simp, h, by simp, rfl⟩
  | failed h => exact .inr ⟨[], _, _, rfl, by simp, by simp, h, by simp, rfl⟩
  | late h hnow =>
    refine .inl ⟨rfl, List.forall_mem_append.mpr ⟨fun e he => (hlook _ h e he).1, ?_⟩⟩
    exact List.forall_mem_singleton.mpr (hclock _)
  | @again looks t t' now r h hnow hs ih =>
    have hfruitless : ∀ rest : Trace, (∀ e ∈ rest, P e) → ∀ e ∈ t ++ ⟨.clock, now⟩ ::
        ⟨.sleep (min interval (deadline - now)), ()⟩ :: rest, P e := by
      intro rest hrest
      refine List.forall_mem_append.mpr ⟨fun e he => (hlook _ h e he).1, ?_⟩
      exact List.forall_mem_cons.mpr ⟨hclock _, List.forall_mem_cons.mpr ⟨hsleep _ _, hrest⟩⟩
    rcases ih with ⟨rfl, hrest⟩ | ⟨before, own, x, rfl, hrest, hearly, hown, hx, rfl⟩
    · exact .inl ⟨rfl, hfruitless _ hrest⟩
    · refine .inr ⟨_, own, x, by simp, hfruitless before hrest, fun now' hmem => ?_, hown, hx, rfl⟩
      rcases List.mem_append.mp hmem with hmem | hmem
      · exact absurd rfl (hlook _ h _ hmem).2
      · rcases List.mem_cons.mp hmem with heq | hmem
        · have hsame : now' = now := by simpa using heq
          rwa [hsame]
        · exact hearly now' ((List.mem_cons.mp hmem).resolve_left (by simp))

end RaftMysql
