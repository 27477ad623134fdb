import RaftMysql.Proofs.Health.Labelling
import Mathlib.Data.List.Induction

/-!
# Since when an answer has been given

A slot keeps the time at which its answer began to be given. After several answers that is the moment of
the first in the row of equal ones at the end (`Slot.begins_of_foldl`). `Node.since_of_reports` says so of
the four answers about a member, of which none has to do with another.
-/

namespace RaftMysql

/-- What a report answers to a question. -/
def Report.about (r : Report) : Aspect → Verdict
  | .lagged => r.lagged
  | .leader => r.leader
  | .readOnly => r.readOnly
  | .replicating => r.replicating

/-! ### One answer -/

namespace Slot

variable {α : Type} {verdict : α → Verdict} {moment : α → Time} {slot : Slot} {created : Time}
  {given : List α}

/-- The time of the slot is that of the first in the longest row at the end of what was given that all
answers what the slot says; or, if that is all there is and nothing is known, the time at which the slot
was created. -/
def Begins (verdict : α → Verdict) (moment : α → Time) (slot : Slot) (created : Time) (given : List α) :
    Prop :=
  ∃ earlier first row, given = earlier ++ first :: row ∧ (∀ p ∈ first :: row, verdict p = slot.verdict) ∧
    (∀ p ∈ earlier.getLast?, verdict p ≠ slot.verdict) ∧
    slot.since = if earlier = [] ∧ slot.verdict = .unknown then created else moment first

theorem begins_first (p : α) :
    ((⟨.unknown, created⟩ : Slot).record (verdict p) (moment p)).Begins verdict moment created [p] := by
  refine ⟨[], p, [], rfl, by simp, by simp, ?_⟩
  unfold record
  by_cases hp : verdict p = .unknown
  · simp [hp]
  · simp [hp, Ne.symm hp]

/-- **One more answer**: the same one goes on with the row, and another one begins a new row. -/
theorem Begins.record (h : slot.Begins verdict moment created given) (p : α) :
    (slot.record (verdict p) (moment p)).Begins verdict moment created (given ++ [p]) := by
  obtain ⟨earlier, first, row, rfl, hrow, hearlier, hsince⟩ := h
  unfold Slot.record
  split <;> rename_i hp
  · refine ⟨earlier, first, row ++ [p], by simp, ?_, hearlier, hsince⟩
    rw [← List.cons_append]
    exact List.forall_mem_append.mpr ⟨hrow, by simp [hp]⟩
  · refine ⟨earlier ++ first :: row, p, [], rfl, by simp, fun q hq => ?_, by simp⟩
    rw [List.getLast?_append_cons] at hq
    rw [hrow q (List.mem_of_getLast? hq)]
    exact hp

/-- **Since when an answer has been given**, after some answers. -/
theorem begins_of_foldl (h : given ≠ []) :
    (given.foldl (fun (slot : Slot) p => slot.record (verdict p) (moment p)) ⟨.unknown, created⟩).Begins
      verdict moment created given := by
  induction given using List.reverseRecOn with
  | nil => exact absurd rfl h
  | append_singleton given p ih =>
    rw [List.foldl_append]
    by_cases hnil : given = []
    · subst hnil
      exact begins_first p
    · exact (ih hnil).record p

end Slot

/-! ### The answers about a member -/

namespace Node

variable {name : String} {created : Time} {reports : List (Report × Time)}

/-- The entry of a member of which nothing was known, after several reports. -/
def afterReports (name : String) (created : Time) (reports : List (Report × Time)) : Node :=
  reports.foldl (fun n p => n.record p.1 p.2) (.unknown name created)

theorem get_conditions_record (n : Node) (r : Report) (now : Time) (a : Aspect) :
    (n.record r now).conditions.get a = (n.conditions.get a).record (r.about a) now := by
  unfold record NodeConditions.record
  simp only [NodeConditions.get_put]
  cases a <;> rfl

theorem get_conditions_afterReports (a : Aspect) : (afterReports name created reports).conditions.get a =
    reports.foldl (fun (slot : Slot) p => slot.record (p.1.about a) p.2) ⟨.unknown, created⟩ := by
  unfold afterReports
  induction reports using List.reverseRecOn with
  | nil => cases a <;> rfl
  | append_singleton reports p ih =>
    rw [List.foldl_append, List.foldl_append, ← ih]
    exact get_conditions_record ..

theorem verdict_afterReports (name : String) (created : Time) (reports : List (Report × Time))
    (last : Report) (now : Time) (a : Aspect) :
    ((afterReports name created (reports ++ [(last, now)])).conditions.get a).verdict = last.about a := by
  rw [get_conditions_afterReports, List.foldl_append]
  exact Slot.verdict_record ..

theorem begins_afterReports (name : String) (created : Time) (a : Aspect) (h : reports ≠ []) :
    ((afterReports name created reports).conditions.get a).Begins (fun p : Report × Time => p.1.about a)
      Prod.snd created reports := by
  rw [get_conditions_afterReports]
  exact Slot.begins_of_foldl h

/-- **Since when the answers about a member have been given.** After one report or more, each of the four
answers is that of the last report, and its time is the moment of the first in the longest row of reports
at the end that all give this answer; where these are all reports, and nothing is known, it is the time at
which the entry was created. To record one answer changes nothing about another. -/
theorem since_of_reports (name : String) (created : Time) (reports : List (Report × Time))
    (last : Report) (now : Time) :
    (∀ a, ((afterReports name created (reports ++ [(last, now)])).conditions.get a).verdict =
        last.about a ∧
      ∃ earlier first row, reports ++ [(last, now)] = earlier ++ first :: row ∧
        (∀ p ∈ first :: row, p.1.about a = last.about a) ∧
        (∀ p ∈ earlier.getLast?, p.1.about a ≠ last.about a) ∧
        ((afterReports name created (reports ++ [(last, now)])).conditions.get a).since =
          if earlier = [] ∧ last.about a = .unknown then created else first.2) ∧
    ∀ (c : NodeConditions) (a b : Aspect) (v : Verdict) (now : Time),
      (c.record a v now).get b = if a = b then (c.get b).record v now else c.get b := by
  constructor
  · intro a
    have hlast := verdict_afterReports name created reports last now a
    have hgiven : reports ++ [(last, now)] ≠ [] := by simp
    have hbegins := begins_afterReports name created a hgiven
    unfold Slot.Begins at hbegins
    rw [hlast] at hbegins
    exact ⟨hlast, hbegins⟩
  · intro c a b v now
    unfold NodeConditions.record
    rw [NodeConditions.get_put]
    by_cases hab : a = b
    · subst hab
      rw [if_pos rfl]
    · rw [if_neg hab, if_neg hab]

/-- A member that is found to lag, then to keep up for two looks, has done so since the second one. -/
example : ((afterReports "m" ⟨0, 0⟩ [({ host := "m", lagged := .yes }, ⟨1, 0⟩),
    ({ host := "m", lagged := .no }, ⟨2, 0⟩), ({ host := "m", lagged := .no }, ⟨3, 0⟩)]).conditions.get
      .lagged) = ⟨.no, ⟨2, 0⟩⟩ := by decide

end Node

end RaftMysql
