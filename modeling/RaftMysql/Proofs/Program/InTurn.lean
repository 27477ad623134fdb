import RaftMysql.Proofs.Program.Trace

/-!
# One thing after the other

`InTurn R as t r` says that the trace is made of a part for each of several things, in their order,
until one of them fails: its error is the outcome and nothing comes after it. `R` says what the part
of a thing may look like and how it may end.

`InTurn.split` finds the thing that an event belongs to: all before it have ended well by then.
-/

namespace RaftMysql

variable {α : Type} {R Q : α → Trace → Except Error Unit → Prop}

/-- The trace has a part for each thing in turn, up to the first that fails. -/
inductive InTurn (R : α → Trace → Except Error Unit → Prop) :
    List α → Trace → Except Error Unit → Prop
  | nil : InTurn R [] [] (.ok ())
  | failed {a : α} {as : List α} {t : Trace} {e : Error} (h : R a t (.error e)) :
    InTurn R (a :: as) t (.error e)
  | cons {a : α} {as : List α} {t₁ t₂ : Trace} {r : Except Error Unit} (h : R a t₁ (.ok ()))
    (hs : InTurn R as t₂ r) : InTurn R (a :: as) (t₁ ++ t₂) r

theorem inTurn_singleton {a : α} {t : Trace} {r : Except Error Unit} :
    InTurn R [a] t r ↔ R a t r := by
  constructor
  · intro h
    cases h with
    | failed h => exact h
    | cons h hs =>
      cases hs
      rwa [List.append_nil]
  · intro h
    match r with
    | .error e => exact .failed h
    | .ok () => simpa using InTurn.cons h .nil

theorem inTurn_append {xs ys : List α} {t : Trace} {r : Except Error Unit} :
    InTurn R (xs ++ ys) t r ↔ (∃ e, r = .error e ∧ InTurn R xs t (.error e)) ∨
      ∃ t₁ t₂, t = t₁ ++ t₂ ∧ InTurn R xs t₁ (.ok ()) ∧ InTurn R ys t₂ r := by
  induction xs generalizing t with
  | nil =>
    constructor
    · exact fun h => .inr ⟨[], t, rfl, .nil, h⟩
    · rintro (⟨e, -, h⟩ | ⟨t₁, t₂, rfl, h₁, h₂⟩)
      · cases h
      · cases h₁
        exact h₂
  | cons x xs ih =>
    constructor
    · intro h
      cases h with
      | failed h => exact .inl ⟨_, rfl, .failed h⟩
      | cons hx hxs =>
        rcases ih.mp hxs with ⟨e, rfl, h₁⟩ | ⟨t₁, t₂, rfl, h₁, h₂⟩
        · exact .inl ⟨e, rfl, .cons hx h₁⟩
        · exact .inr ⟨_, t₂, (List.append_assoc ..).symm, .cons hx h₁, h₂⟩
    · rintro (⟨e, rfl, h⟩ | ⟨t₁, t₂, rfl, h₁, h₂⟩)
      · cases h with
        | failed hx => exact .failed hx
        | cons hx hxs => exact .cons hx (ih.mpr (.inl ⟨e, rfl, hxs⟩))
      · cases h₁ with
        | cons hx hxs =>
          rw [List.append_assoc]
          exact .cons hx (ih.mpr (.inr ⟨_, t₂, rfl, hxs, h₂⟩))

theorem InTurn.mono {as : List α} {t : Trace} {r : Except Error Unit} (h : InTurn R as t r)
    (hRQ : ∀ a ∈ as, ∀ t r, R a t r → Q a t r) : InTurn Q as t r := by
  induction h with
  | nil => exact .nil
  | failed h => exact .failed (hRQ _ (by simp) _ _ h)
  | cons h hs ih =>
    exact .cons (hRQ _ (by simp) _ _ h) (ih fun a ha => hRQ a (List.mem_cons_of_mem _ ha))

theorem InTurn.forall_mem {P : Event → Prop} {as : List α} {t : Trace} {r : Except Error Unit}
    (h : InTurn R as t r) (hpart : ∀ a ∈ as, ∀ t r, R a t r → ∀ e ∈ t, P e) : ∀ e ∈ t, P e := by
  induction h with
  | nil => simp
  | failed h => exact hpart _ (by simp) _ _ h
  | cons h hs ih =>
    refine List.forall_mem_append.mpr ⟨hpart _ (by simp) _ _ h, ?_⟩
    exact ih fun a ha => hpart a (List.mem_cons_of_mem _ ha)

/-- A thing among several that all end well has its part of the trace. -/
theorem InTurn.part {done rest : List α} {a : α} {t : Trace}
    (h : InTurn R (done ++ a :: rest) t (.ok ())) :
    ∃ before own after, t = before ++ own ++ after ∧ InTurn R done before (.ok ()) ∧
      R a own (.ok ()) ∧ InTurn R rest after (.ok ()) := by
  rcases inTurn_append.mp h with ⟨e, he, -⟩ | ⟨t₁, t₂, rfl, h₁, h₂⟩
  · cases he
  · cases h₂ with
    | cons ha has => exact ⟨t₁, _, _, (List.append_assoc ..).symm, h₁, ha, has⟩

theorem InTurn.last {as : List α} {t : Trace} {e : Error} (h : InTurn R as t (.error e)) :
    ∃ done a rest before own, as = done ++ a :: rest ∧ t = before ++ own ∧
      InTurn R done before (.ok ()) ∧ R a own (.error e) := by
  generalize hr : Except.error e = r at h
  induction h with
  | nil => cases hr
  | @failed a as t e' h =>
    obtain rfl := Except.error.inj hr
    exact ⟨[], a, as, [], t, rfl, rfl, .nil, h⟩
  | @cons a as t₁ t₂ r h hs ih =>
    obtain ⟨done, a', rest, before, own, rfl, rfl, hdone, hlast⟩ := ih hr
    exact ⟨a :: done, a', rest, t₁ ++ before, own, rfl, by simp, .cons h hdone, hlast⟩

/-- **An event belongs to one of the things**, and the ones before it have ended well by then. -/
theorem InTurn.split {as : List α} {t before after : Trace} {r : Except Error Unit} {e : Event}
    (h : InTurn R as t r) (ht : t = before ++ e :: after) :
    ∃ done a rest earlier own own' later r', as = done ++ a :: rest ∧ before = earlier ++ own ∧
      after = own' ++ later ∧ InTurn R done earlier (.ok ()) ∧ R a (own ++ e :: own') r' := by
  induction h generalizing before with
  | nil => cases before <;> cases ht
  | failed h =>
    subst ht
    exact ⟨[], _, _, [], before, after, [], _, rfl, rfl, by simp, .nil, h⟩
  | @cons a as t₁ t₂ r h hs ih =>
    rcases append_eq_split ht with ⟨own', rfl, rfl⟩ | ⟨own, rfl, ht₂⟩
    · exact ⟨[], a, as, [], before, own', t₂, _, rfl, rfl, rfl, .nil, h⟩
    · obtain ⟨done, a', rest, earlier, own, own', later, r', rfl, rfl, rfl, hdone, ha⟩ := ih ht₂
      exact ⟨a :: done, a', rest, t₁ ++ earlier, own, own', later, r', rfl, by simp, rfl,
        .cons h hdone, ha⟩

end RaftMysql
