import RaftMysql.Member.Handoffs
import RaftMysql.Proofs.Json.Members
import RaftMysql.Proofs.Program.Trace
import Mathlib.Data.List.Induction

/-!
# Moves that are held

Moves of leadership are held under names, and several may be held for one cluster at the same time.
`HeldHandoffs.Holds` reads off the actions which name holds a move of which cluster. The record of
moves has one mark for each cluster, so letting go of any move of a cluster ends them all: a cluster
counts as moving just when none of its moves was let go of since the latest one began
(`HeldHandoffs.moving_iff_undisturbed`). As long as the moves of a cluster are held one after the other,
it does so just when one is held.
-/

namespace RaftMysql

namespace Handoffs

variable {h : Handoffs} {cluster other : String}

theorem inProgress_start_iff :
    (h.start cluster).inProgress other = true ↔ other = cluster ∨ h.inProgress other = true := by
  unfold start
  split <;> rename_i hmoving
  · constructor
    · exact .inr
    · rintro (rfl | hother)
      · exact hmoving
      · exact hother
  · simp [inProgress]

theorem inProgress_stop_iff :
    (h.stop cluster).inProgress other = true ↔ other ≠ cluster ∧ h.inProgress other = true := by
  simp [inProgress, stop, and_comm]

end Handoffs

namespace HeldHandoffs

/-! ### Actions -/

/-- What is done about moves: one begins and is held under a name, or the name is let go of. -/
inductive Action where
  | hold (name cluster : String)
  | release (name : String)
  deriving DecidableEq

/-- The name that an action is about. Whatever was held under it is let go of. -/
def Action.name : Action → String
  | hold name _ => name
  | release name => name

/-- The action begins a move of the cluster. -/
def Action.Begins (a : Action) (cluster : String) : Prop := ∃ name, a = .hold name cluster

/-- The moves after an action. -/
def act (h : HeldHandoffs) : Action → HeldHandoffs
  | .hold name cluster => h.hold name cluster
  | .release name => h.release name

/-- The moves after some actions, with none at first. -/
def after (actions : List Action) : HeldHandoffs := actions.foldl act {}

theorem after_concat (actions : List Action) (a : Action) :
    after (actions ++ [a]) = (after actions).act a := List.foldl_append

variable {h : HeldHandoffs} {actions : List Action} {a : Action} {name other cluster : String}

theorem inProgress_act : (h.act a).moves.inProgress cluster = true ↔
    h.held.get? a.name ≠ some cluster ∧ (a.Begins cluster ∨ h.moves.inProgress cluster = true) := by
  have hstop : ∀ (moves : Handoffs) (name : String),
      (HeldHandoffs.release ⟨moves, h.held⟩ name).moves.inProgress cluster = true ↔
        h.held.get? name ≠ some cluster ∧ moves.inProgress cluster = true := by
    intro moves name
    unfold release
    split <;> rename_i hheld
    · have hsome : h.held.get? name = some _ := hheld
      rw [Handoffs.inProgress_stop_iff, hsome, ne_eq, ne_eq, Option.some.injEq, eq_comm]
    · have hnone : h.held.get? name = none := hheld
      simp [hnone]
  match a with
  | .hold name other =>
    have hbegins : (Action.hold name other).Begins cluster ↔ cluster = other := by
      constructor
      · rintro ⟨name', heq⟩
        cases heq
        rfl
      · rintro rfl
        exact ⟨name, rfl⟩
    have hact := hstop (h.moves.start other) name
    rw [Handoffs.inProgress_start_iff] at hact
    rw [hbegins]
    exact hact
  | .release name =>
    have hbegins : ¬(Action.release name).Begins cluster := fun ⟨_, heq⟩ => by cases heq
    rw [or_iff_right hbegins]
    exact hstop h.moves name

theorem ordered_held_release (h : HeldHandoffs) (hordered : h.held.Ordered) :
    (h.release name).held.Ordered := by
  unfold release
  split
  · exact hordered.erase
  · exact hordered

theorem ordered_held : (after actions).held.Ordered := by
  induction actions using List.reverseRecOn with
  | nil => exact List.Pairwise.nil
  | append_singleton actions a ih =>
    rw [after_concat]
    match a with
    | .hold name cluster =>
      have hreleased : (HeldHandoffs.release
          ⟨(after actions).moves.start cluster, (after actions).held⟩ name).held.Ordered :=
        ordered_held_release _ ih
      exact Table.sorted_insert hreleased ..
    | .release name => exact ordered_held_release _ ih

theorem held_release (hordered : h.held.Ordered) :
    (h.release name).held.get? other = if name = other then none else h.held.get? other := by
  unfold release
  split <;> rename_i hheld
  · split <;> rename_i hname
    · subst hname
      exact Table.get?_erase_self hordered
    · exact Table.get?_erase_of_ne hname
  · split <;> rename_i hname
    · subst hname
      exact hheld
    · rfl

/-! ### Moves that are held -/

/-- After the actions the name holds a move of the cluster: the last action about the name began it. -/
def Holds (actions : List Action) (name cluster : String) : Prop :=
  ∃ before since, actions = before ++ .hold name cluster :: since ∧ ∀ a ∈ since, a.name ≠ name

theorem not_holds_nil : ¬Holds [] name cluster := by
  rintro ⟨before, since, heq, -⟩
  cases before <;> cases heq

theorem holds_concat : Holds (actions ++ [a]) name cluster ↔
    a = .hold name cluster ∨ (a.name ≠ name ∧ Holds actions name cluster) := by
  constructor
  · rintro ⟨before, since, heq, hsince⟩
    rcases append_eq_split heq with ⟨own, rfl, rfl⟩ | ⟨own, -, hlast⟩
    · refine .inr ⟨hsince a (by simp), before, own, rfl, fun b hb => ?_⟩
      exact hsince b (List.mem_append_left _ hb)
    · cases own with
      | nil => exact .inl (List.cons.inj hlast).1
      | cons => simp at hlast
  · rintro (rfl | ⟨hname, before, since, rfl, hsince⟩)
    · exact ⟨actions, [], rfl, by simp⟩
    · refine ⟨before, since ++ [a], by simp, fun b hb => ?_⟩
      rcases List.mem_append.mp hb with hb | hb
      · exact hsince b hb
      · exact List.mem_singleton.mp hb ▸ hname

theorem held_after : (after actions).held.get? name = some cluster ↔ Holds actions name cluster := by
  induction actions using List.reverseRecOn with
  | nil =>
    constructor
    · intro h
      cases h
    · intro h
      exact absurd h not_holds_nil
  | append_singleton actions a ih =>
    rw [after_concat, holds_concat, ← ih]
    have hordered : (after actions).held.Ordered := ordered_held
    match a with
    | .release other =>
      show ((after actions).release other).held.get? name = _ ↔ _
      rw [held_release hordered]
      by_cases hname : other = name <;> simp [Action.name, hname]
    | .hold other cluster' =>
      have hkept : ((after actions).act (.hold other cluster')).held.get? name =
          if other = name then some cluster' else (after actions).held.get? name := by
        have hreleased : (HeldHandoffs.release ⟨(after actions).moves.start cluster', _⟩
            other).held.get? name = if other = name then none else _ := held_release hordered
        show (Table.insert (HeldHandoffs.release ⟨_, (after actions).held⟩ other).held _ _).get? _ = _
        rw [Table.get?_insert, hreleased]
        split <;> rfl
      rw [hkept]
      by_cases hname : other = name <;> simp [Action.name, hname]

/-- A move of the cluster is held. -/
def IsHeld (actions : List Action) (cluster : String) : Prop := ∃ name, Holds actions name cluster

/-- A move of the cluster was begun, and from then on no action let go of one. -/
def Undisturbed (actions : List Action) (cluster : String) : Prop :=
  ∃ n name, actions[n]? = some (.hold name cluster) ∧
    ∀ m a, n ≤ m → actions[m]? = some a → ¬Holds (actions.take m) a.name cluster

/-- No move of the cluster begins while another one is held. -/
def Apart (actions : List Action) (cluster : String) : Prop :=
  ∀ n name, actions[n]? = some (.hold name cluster) → ¬IsHeld (actions.take n) cluster

/-! ### One action -/

theorem inProgress_concat : (after (actions ++ [a])).moves.inProgress cluster = true ↔
    ¬Holds actions a.name cluster ∧
      (a.Begins cluster ∨ (after actions).moves.inProgress cluster = true) := by
  rw [after_concat, inProgress_act, ne_eq, held_after]

theorem getElem?_concat_iff {n : ℕ} {b : Action} : (actions ++ [a])[n]? = some b ↔
    actions[n]? = some b ∨ (n = actions.length ∧ b = a) := by
  rcases lt_trichotomy n actions.length with hn | rfl | hn
  · rw [List.getElem?_append_left hn]
    exact ⟨.inl, fun h => h.resolve_right fun h => absurd h.1 (Nat.ne_of_lt hn)⟩
  · simp [eq_comm]
  · have hshort : ∀ {xs : List Action}, xs.length ≤ n → xs[n]? = none :=
      fun hle => List.getElem?_eq_none hle
    have hlong : (actions ++ [a]).length ≤ n := by
      rw [List.length_append, List.length_singleton]
      exact hn
    rw [hshort hlong, hshort (Nat.le_of_lt hn)]
    constructor
    · intro h
      cases h
    · rintro (h | ⟨rfl, -⟩)
      · cases h
      · exact absurd hn (Nat.lt_irrefl _)

theorem undisturbed_concat : Undisturbed (actions ++ [a]) cluster ↔
    ¬Holds actions a.name cluster ∧ (a.Begins cluster ∨ Undisturbed actions cluster) := by
  have hlast : (actions ++ [a])[actions.length]? = some a := by simp
  have htake : ∀ {m : ℕ} {b : Action}, actions[m]? = some b →
      (actions ++ [a]).take m = actions.take m := by
    intro m b hb
    obtain ⟨hm, -⟩ := List.getElem?_eq_some_iff.mp hb
    exact List.take_append_of_le_length (Nat.le_of_lt hm)
  constructor
  · rintro ⟨n, name, hn, hsince⟩
    have hle : n ≤ actions.length := by
      obtain ⟨hlt, -⟩ := List.getElem?_eq_some_iff.mp hn
      exact Nat.le_of_lt_succ (by simpa using hlt)
    refine ⟨by simpa using hsince _ a hle hlast, ?_⟩
    rcases getElem?_concat_iff.mp hn with hn | ⟨-, rfl⟩
    · refine .inr ⟨n, name, hn, fun m b hm hb => ?_⟩
      have hkept := hsince m b hm (getElem?_concat_iff.mpr (.inl hb))
      rwa [htake hb] at hkept
    · exact .inl ⟨name, rfl⟩
  · rintro ⟨hkept, ⟨name, rfl⟩ | ⟨n, name, hn, hsince⟩⟩
    · refine ⟨actions.length, name, hlast, fun m b hm hb => ?_⟩
      rcases getElem?_concat_iff.mp hb with hb | ⟨rfl, rfl⟩
      · obtain ⟨hlt, -⟩ := List.getElem?_eq_some_iff.mp hb
        exact absurd hm (Nat.not_le_of_lt hlt)
      · simpa using hkept
    · refine ⟨n, name, getElem?_concat_iff.mpr (.inl hn), fun m b hm hb => ?_⟩
      rcases getElem?_concat_iff.mp hb with hb | ⟨rfl, rfl⟩
      · rw [htake hb]
        exact hsince m b hm hb
      · simpa using hkept

/-! ### All actions -/

theorem inProgress_after_iff :
    (after actions).moves.inProgress cluster = true ↔ Undisturbed actions cluster := by
  induction actions using List.reverseRecOn with
  | nil =>
    constructor
    · intro h
      cases h
    · rintro ⟨n, name, hn, -⟩
      cases hn
  | append_singleton actions a ih => rw [inProgress_concat, undisturbed_concat, ih]

theorem isHeld_of_inProgress (h : (after actions).moves.inProgress cluster = true) :
    IsHeld actions cluster := by
  induction actions using List.reverseRecOn with
  | nil => cases h
  | append_singleton actions a ih =>
    obtain ⟨hkept, ⟨name, rfl⟩ | hmoving⟩ := inProgress_concat.mp h
    · exact ⟨name, holds_concat.mpr (.inl rfl)⟩
    · obtain ⟨name, hholds⟩ := ih hmoving
      have hname : a.name ≠ name := by
        rintro rfl
        exact hkept hholds
      exact ⟨name, holds_concat.mpr (.inr ⟨hname, hholds⟩)⟩

theorem Apart.of_concat (h : Apart (actions ++ [a]) cluster) : Apart actions cluster := by
  intro n name hn
  have hlt := (List.getElem?_eq_some_iff.mp hn).1
  have hkept := h n name (getElem?_concat_iff.mpr (.inl hn))
  rwa [List.take_append_of_le_length (Nat.le_of_lt hlt)] at hkept

theorem Apart.last (h : Apart (actions ++ [.hold name cluster]) cluster) :
    ¬IsHeld actions cluster := by
  have hkept := h actions.length name (by simp)
  simpa using hkept

theorem Apart.name_unique (h : Apart actions cluster) (hname : Holds actions name cluster)
    (hother : Holds actions other cluster) : name = other := by
  induction actions using List.reverseRecOn with
  | nil => exact absurd hname not_holds_nil
  | append_singleton actions a ih =>
    rcases holds_concat.mp hname with rfl | ⟨-, hname'⟩
    · rcases holds_concat.mp hother with heq | ⟨-, hother'⟩
      · cases heq
        rfl
      · exact absurd ⟨other, hother'⟩ h.last
    · rcases holds_concat.mp hother with rfl | ⟨-, hother'⟩
      · exact absurd ⟨name, hname'⟩ h.last
      · exact ih h.of_concat hname' hother'

theorem Apart.inProgress_of_isHeld (h : Apart actions cluster) (hheld : IsHeld actions cluster) :
    (after actions).moves.inProgress cluster = true := by
  induction actions using List.reverseRecOn with
  | nil => exact absurd hheld.choose_spec not_holds_nil
  | append_singleton actions a ih =>
    obtain ⟨name, hholds⟩ := hheld
    rw [inProgress_concat]
    rcases holds_concat.mp hholds with rfl | ⟨hne, hbefore⟩
    · exact ⟨fun hother => h.last ⟨_, hother⟩, .inl ⟨name, rfl⟩⟩
    · refine ⟨fun hother => hne ?_, .inr (ih h.of_concat ⟨name, hbefore⟩)⟩
      exact h.of_concat.name_unique hother hbefore

/-- **When a cluster counts as moving**, after any actions: a move of it was begun, and since then none
of its moves was let go of. So some move of it is held then; the converse holds where its moves are
held one after the other. Actions that begin and let go of moves of other clusters make no difference. -/
theorem moving_iff_undisturbed (actions : List Action) (cluster : String) :
    ((after actions).moves.inProgress cluster = true ↔ Undisturbed actions cluster) ∧
      ((after actions).moves.inProgress cluster = true → IsHeld actions cluster) ∧
      (Apart actions cluster →
        ((after actions).moves.inProgress cluster = true ↔ IsHeld actions cluster)) ∧
      ∀ a : Action, ¬a.Begins cluster → ¬Holds actions a.name cluster →
        (after (actions ++ [a])).moves.inProgress cluster =
          (after actions).moves.inProgress cluster := by
  refine ⟨inProgress_after_iff, isHeld_of_inProgress, fun hapart => ?_, fun a hbegins hkept => ?_⟩
  · exact ⟨isHeld_of_inProgress, hapart.inProgress_of_isHeld⟩
  · rw [Bool.eq_iff_iff, inProgress_concat, or_iff_right hbegins, and_iff_right hkept]

/-- Of two moves of a cluster one is let go of: the other is still held, and the cluster does not count
as moving any more. -/
theorem exists_held_unnoticed :
    ∃ actions cluster, IsHeld actions cluster ∧
      (after actions).moves.inProgress cluster = false := by
  refine ⟨[.hold "a" "db/sample", .hold "b" "db/sample", .release "a"], "db/sample", ⟨"b", ?_⟩, ?_⟩
  · exact ⟨[.hold "a" "db/sample"], [.release "a"], rfl, by decide⟩
  · decide

end HeldHandoffs

end RaftMysql
