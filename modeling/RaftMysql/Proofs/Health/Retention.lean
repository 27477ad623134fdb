import RaftMysql.Proofs.Health.Passes
import Mathlib.Data.List.Destutter

/-!
# What a history retains

A history that began empty is the end of the list of all conditions that it accepted:
`History.Retains` says so, with what follows for the conditions that are still there.

Which conditions are accepted does not depend on what was trimmed, since only the latest one is
asked. So `History.accepted` is the greedy chain of the table of transitions through all candidates
(`History.accepted_eq_destutter`), and trimming as one goes is trimming once at the end
(`History.foldl_append`). `Status.retains_foldl_append` puts this together, also for runs of passes.
-/

namespace RaftMysql

/-- The cluster is being changed: its members, or their number. -/
def State.isChange : State → Bool
  | .updating | .scaleIn | .scaleOut => true
  | _ => false

/-- The second condition may follow the first. -/
def Condition.Precedes (last next : Condition) : Prop := last.mayFollow next = true

instance : DecidableRel Condition.Precedes := fun last next =>
  inferInstanceAs (Decidable (last.mayFollow next = true))

theorem Condition.Precedes.settled {last next : Condition} (h : last.Precedes next)
    (hnext : next.state.isChange = true) : last.state = .ready ∨ last.state = .closed := by
  unfold Precedes mayFollow at h
  cases hl : last.state <;> cases hn : next.state <;> simp_all [State.isChange]

namespace History

variable {h : History}

/-! ### Trimming -/

theorem length_trim (kept : History) : kept.trim.length = min capacity kept.length := by
  unfold trim
  rw [List.length_drop]
  omega

theorem trim_append (kept more : History) : trim (kept.trim ++ more) = trim (kept ++ more) := by
  have hle : kept.length - capacity ≤ kept.length := Nat.sub_le ..
  unfold trim
  rw [← List.drop_append_of_le_length hle, List.drop_drop]
  congr 1
  simp only [List.length_drop, List.length_append]
  omega

/-! ### The accepted conditions -/

/-- The candidates that are accepted when they come one after the other. -/
def accepted : History → List Condition → List Condition
  | _, [] => []
  | h, c :: cs => if h.accepts c then c :: accepted (h.append c) cs else accepted (h.append c) cs

/-- **Trimming at every step is trimming once**: the history is the end of what it held untrimmed
and of all that it accepted. -/
theorem foldl_append {kept : History} {cs : List Condition} (hkept : h = kept.trim) :
    cs.foldl append h = trim (kept ++ accepted h cs) := by
  induction cs generalizing h kept with
  | nil => simpa [accepted] using hkept
  | cons c cs ih =>
    rw [List.foldl_cons]
    by_cases ha : h.accepts c = true
    · have hnext : h.append c = trim (kept ++ [c]) := by
        rw [append_of_accepts ha, hkept, trim_append]
      rw [ih hnext]
      simp only [accepted, if_pos ha, List.append_assoc, List.singleton_append]
    · have hsame : h.append c = h := append_of_rejects (by simpa using ha)
      rw [hsame, ih hkept]
      simp only [accepted, if_neg ha, hsame]

theorem cons_accepted {last : Condition} {cs : List Condition} (hl : h.getLast? = some last) :
    last :: accepted h cs = cs.destutter' Condition.Precedes last := by
  induction cs generalizing h last with
  | nil => rfl
  | cons c cs ih =>
    have hiff : h.accepts c = true ↔ last.Precedes c := by
      unfold accepts Condition.Precedes
      rw [hl]
    by_cases ha : h.accepts c = true
    · rw [List.destutter'_cons_pos (h := hiff.mp ha), ← ih (getLast?_append_of_accepts ha)]
      simp only [accepted, if_pos ha]
    · rw [List.destutter'_cons_neg (h := fun hp => ha (hiff.mpr hp)), ← ih hl]
      have hsame : h.append c = h := append_of_rejects (by simpa using ha)
      simp only [accepted, if_neg ha, hsame]

/-- **What a history accepts** from the beginning is the greedy chain through the candidates: every
one that may follow the one accepted before it. -/
theorem accepted_eq_destutter (cs : List Condition) :
    accepted [] cs = cs.destutter Condition.Precedes := by
  match cs with
  | [] => rfl
  | c :: cs =>
    have ha : accepts [] c = true := rfl
    rw [List.destutter_cons', ← cons_accepted (getLast?_append_of_accepts ha)]
    simp only [accepted, if_pos ha]

/-! ### What is retained -/

/-- The history is the last of the accepted conditions: at most ten, each allowed to follow the one
before it, and settled between two changes. -/
structure Retains (h : History) (accepted : List Condition) : Prop where
  eq_drop : h = accepted.drop (accepted.length - capacity)
  length_eq : h.length = min capacity accepted.length
  isChain : h.IsChain Condition.Precedes
  settled_between : ∀ {before between after : List Condition} {x y : Condition},
    h = before ++ x :: between ++ y :: after → x.state.isChange = true → y.state.isChange = true →
      ∃ z ∈ between, z.state = .ready ∨ z.state = .closed

/-- Two changes do not stand side by side, and only a settled cluster lets a change follow. -/
theorem exists_settled_between {before between after : List Condition} {x y : Condition}
    (hchain : (before ++ x :: between ++ y :: after).IsChain Condition.Precedes)
    (hx : x.state.isChange = true) (hy : y.state.isChange = true) :
    ∃ z ∈ between, z.state = .ready ∨ z.state = .closed := by
  rcases List.eq_nil_or_concat between with rfl | ⟨init, z, rfl⟩
  · have hprec : x.Precedes y :=
      (List.isChain_append_cons_cons.mp (by simpa using hchain)).2.1
    rcases hprec.settled hy with hs | hs <;> rw [hs] at hx <;> cases hx
  · have hprec : z.Precedes y := by
      have hsplit : before ++ x :: (init ++ [z]) ++ y :: after =
          (before ++ x :: init) ++ z :: y :: after := by simp
      rw [List.concat_eq_append, hsplit] at hchain
      exact (List.isChain_append_cons_cons.mp hchain).2.1
    exact ⟨z, by simp, hprec.settled hy⟩

theorem retains_foldl (cs : List Condition) : Retains (cs.foldl append []) (accepted [] cs) := by
  have hstart : ([] : History) = trim [] := rfl
  have heq : cs.foldl append [] = trim ([] ++ accepted [] cs) := foldl_append hstart
  rw [List.nil_append] at heq
  have hchain : (cs.foldl append []).IsChain Condition.Precedes := by
    rw [heq, accepted_eq_destutter]
    exact (List.isChain_destutter _ cs).drop _
  refine ⟨heq, by rw [heq, length_trim], hchain, fun hsplit hx hy => ?_⟩
  exact exists_settled_between (hsplit ▸ hchain) hx hy

end History

namespace Status

variable {s : StatusSettings}

/-! ### Statuses -/

theorem foldl_append (status : Status) (cs : List Condition) :
    cs.foldl append status = { status with conditions := cs.foldl History.append status.conditions } := by
  induction cs generalizing status with
  | nil => rfl
  | cons c cs ih => rw [List.foldl_cons, ih]; rfl

theorem append_of_rejects {status : Status} {c : Condition}
    (hr : status.conditions.accepts c = false) : status.append c = status := by
  unfold append
  rw [History.append_of_rejects hr]

/-- The conditions that a run of passes proposes. -/
def proposed (s : StatusSettings) : Status → List Pass → List Condition
  | _, [] => []
  | status, p :: ps =>
    (p.proposal status).condition p.moment :: proposed s (p.apply s status) ps

theorem conditions_foldl_apply (status : Status) (passes : List Pass) :
    (passes.foldl (Pass.apply s) status).conditions =
      (proposed s status passes).foldl History.append status.conditions := by
  induction passes generalizing status with
  | nil => rfl
  | cons p ps ih => rw [List.foldl_cons, ih, Pass.conditions_apply]; rfl

/-- **What a history retains.** Conditions added to an empty history change nothing else of the
status. A candidate that is turned away changes nothing at all. What is left are the last ten of the
accepted ones, and those are the greedy chain through the candidates. The same holds of the history
after a run of passes, whose candidates are what the passes propose. -/
theorem retains_foldl_append {status : Status} (hempty : status.conditions = [])
    (cs : List Condition) :
    (∃ conditions, cs.foldl append status = { status with conditions := conditions } ∧
      conditions.Retains (History.accepted [] cs)) ∧
    (∀ (before : List Condition) (c : Condition),
      (before.foldl append status).conditions.accepts c = false →
        (before ++ [c]).foldl append status = before.foldl append status) ∧
    History.accepted [] cs = cs.destutter Condition.Precedes ∧
    ∀ (s : StatusSettings) (passes : List Pass), (passes.foldl (Pass.apply s) status).conditions.Retains
      (History.accepted [] (proposed s status passes)) := by
  refine ⟨⟨_, foldl_append status cs, ?_⟩, ?_, History.accepted_eq_destutter cs, ?_⟩
  · rw [hempty]
    exact History.retains_foldl cs
  · intro before c hr
    rw [List.foldl_append]
    exact append_of_rejects hr
  · intro s passes
    rw [conditions_foldl_apply, hempty]
    exact History.retains_foldl _

/-- A cluster that becomes ready and is updated again and again, while a change of its size is
proposed in the middle of each update. -/
def repeatedChanges : List Condition :=
  (List.range 12).flatMap fun n =>
    if n % 2 = 0 then [{ state := .ready, since := ⟨n, 0⟩ }]
    else [{ state := .updating, since := ⟨n, 0⟩ }, { state := .scaleIn, since := ⟨n, 1⟩ }]

/-- Of eighteen candidates twelve are accepted, and the last ten of them retained. -/
theorem retains_repeatedChanges :
    ∃ conditions, repeatedChanges.foldl append ({} : Status) = { conditions := conditions } ∧
      conditions.map (·.since.seconds) = [2, 3, 4, 5, 6, 7, 8, 9, 10, 11] := by
  have hempty : ({} : Status).conditions = [] := rfl
  obtain ⟨⟨conditions, heq, hretains⟩, -⟩ := retains_foldl_append hempty repeatedChanges
  refine ⟨conditions, heq, ?_⟩
  rw [hretains.eq_drop]
  decide

end Status

end RaftMysql
