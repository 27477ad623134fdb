import RaftMysql.Cluster.Status
import RaftMysql.Proofs.Cluster.History

/-!
# What a later status keeps of an earlier one

`History.Continues` says that conditions were only added to a history, and that those missing from
its front were trimmed when it was full. `Status.Continues` adds that no entry was taken out.
-/

namespace RaftMysql

namespace History

variable {h h₁ h₂ h₃ : History}

/-- The later history is the earlier one with conditions added, without some at its front if it is
full. -/
def Continues (earlier later : History) : Prop :=
  ∃ added trimmed, later = (earlier ++ added).drop trimmed ∧ (trimmed = 0 ∨ capacity ≤ later.length)

theorem Continues.refl (h : History) : h.Continues h := ⟨[], 0, by simp, .inl rfl⟩

theorem Continues.trans (h₁₂ : h₁.Continues h₂) (h₂₃ : h₂.Continues h₃) : h₁.Continues h₃ := by
  obtain ⟨added₁, trimmed₁, rfl, hfull₁⟩ := h₁₂
  obtain ⟨added₂, trimmed₂, rfl, hfull₂⟩ := h₂₃
  have hle : trimmed₁ ≤ (h₁ ++ added₁).length := by
    rcases hfull₁ with rfl | hfull₁
    · exact Nat.zero_le _
    · rw [List.length_drop] at hfull₁
      unfold capacity at hfull₁
      omega
  have hdrop : ((h₁ ++ added₁).drop trimmed₁ ++ added₂).drop trimmed₂ =
      (h₁ ++ (added₁ ++ added₂)).drop (trimmed₁ + trimmed₂) := by
    rw [← List.drop_append_of_le_length hle, List.drop_drop, List.append_assoc]
  refine ⟨added₁ ++ added₂, trimmed₁ + trimmed₂, hdrop, ?_⟩
  rcases hfull₂ with rfl | hfull₂
  · rcases hfull₁ with rfl | hfull₁
    · exact .inl rfl
    · refine .inr ?_
      rw [List.drop_zero, List.length_append]
      omega
  · exact .inr hfull₂

theorem continues_append (h : History) (c : Condition) : h.Continues (h.append c) := by
  rcases ha : h.accepts c with _ | _
  · rw [append_of_rejects ha]
    exact .refl h
  · rw [append_of_accepts ha]
    refine ⟨[c], _, rfl, ?_⟩
    unfold trim
    rw [List.length_drop]
    omega

end History

namespace Status

/-! ### Entries -/

theorem map_name_updateFirst {change : Node → Node} (hchange : ∀ n, (change n).name = n.name)
    (nodes : List Node) (name : String) :
    (updateFirst nodes name change).map Node.name = nodes.map Node.name := by
  induction nodes with
  | nil => rfl
  | cons n nodes ih =>
    unfold updateFirst
    split
    · rw [List.map_cons, List.map_cons, hchange]
    · rw [List.map_cons, List.map_cons, ih]

theorem find?_updateFirst {change : Node → Node} (hchange : ∀ n, (change n).name = n.name)
    (nodes : List Node) (name : String) :
    (updateFirst nodes name change).find? (fun n => n.name == name) =
      (nodes.find? fun n => n.name == name).map change := by
  induction nodes with
  | nil => rfl
  | cons n nodes ih =>
    unfold updateFirst
    split <;> rename_i hn
    · simp only [List.find?_cons, hchange, hn, Option.map_some]
    · simp only [List.find?_cons, hn, ih]

theorem find?_withNode (nodes : List Node) (name : String) (now : Time) :
    (withNode nodes name now).find? (fun n => n.name == name) =
      some ((nodes.find? fun n => n.name == name).getD (.unknown name now)) := by
  unfold withNode
  split <;> rename_i hany
  · obtain ⟨n, hn⟩ := Option.isSome_iff_exists.mp (List.find?_isSome.mpr (List.any_eq_true.mp hany))
    rw [hn, Option.getD_some]
  · have hnone : (nodes.find? fun n => n.name == name) = none := by simpa using hany
    rw [List.find?_append, hnone, Option.none_or, Option.getD_none]
    exact List.find?_cons_of_pos (by simp [Node.unknown])

theorem withNode_of_find? {nodes : List Node} {name : String} {n : Node}
    (h : nodes.find? (fun n => n.name == name) = some n) (now : Time) :
    withNode nodes name now = nodes :=
  if_pos (List.any_eq_true.mpr (List.find?_isSome.mp (by rw [h]; rfl)))

theorem updateFirst_of_eq {nodes : List Node} {name : String} {change : Node → Node} {n : Node}
    (h : nodes.find? (fun n => n.name == name) = some n) (hsame : change n = n) :
    updateFirst nodes name change = nodes := by
  induction nodes with
  | nil => rfl
  | cons m nodes ih =>
    unfold updateFirst
    split <;> rename_i hm
    · simp only [List.find?_cons, hm, Option.some.injEq] at h
      rw [h, hsame]
    · simp only [List.find?_cons, hm] at h
      rw [ih h]

/-- The entries of other hosts stay as they are. -/
theorem find?_updateFirst_of_ne {change : Node → Node} (hchange : ∀ n, (change n).name = n.name)
    (nodes : List Node) {name other : String} (hne : name ≠ other) :
    (updateFirst nodes name change).find? (fun n => n.name == other) =
      nodes.find? fun n => n.name == other := by
  induction nodes with
  | nil => rfl
  | cons n nodes ih =>
    unfold updateFirst
    split <;> rename_i hn
    · have hother : (n.name == other) = false := by
        rw [beq_iff_eq.mp hn]
        exact beq_eq_false_iff_ne.mpr hne
      simp only [List.find?_cons, hchange, hother]
    · simp only [List.find?_cons, ih]

theorem find?_withNode_of_ne (nodes : List Node) {name other : String} (hne : name ≠ other)
    (now : Time) : (withNode nodes name now).find? (fun n => n.name == other) =
      nodes.find? fun n => n.name == other := by
  unfold withNode
  split
  · rfl
  · have hother : ((Node.unknown name now).name == other) = false := beq_eq_false_iff_ne.mpr hne
    simp only [List.find?_append, List.find?_cons, hother, List.find?_nil, Option.or_none]

/-- An entry that was brought up to date is found under its name. -/
theorem node?_updateNode {status : Status} {name : String} {now : Time} {change : Node → Node}
    (hchange : ∀ n, (change n).name = n.name) :
    (status.updateNode name now change).node? name =
      some (change ((status.node? name).getD (.unknown name now))) := by
  unfold updateNode node?
  dsimp only
  rw [find?_updateFirst hchange, find?_withNode, Option.map_some]

theorem names_updateNode {status : Status} {name : String} {now : Time} {change : Node → Node}
    (hchange : ∀ n, (change n).name = n.name) :
    status.nodes.map Node.name <+: (status.updateNode name now change).nodes.map Node.name := by
  unfold updateNode
  dsimp only
  rw [map_name_updateFirst hchange]
  unfold withNode
  split
  · exact List.prefix_refl _
  · rw [List.map_append]
    exact List.prefix_append ..

/-! ### Statuses -/

/-- The later status has all that the earlier one recorded: its conditions, as far as they were not
trimmed, and an entry for each member in the same place. -/
structure Continues (earlier later : Status) : Prop where
  conditions : earlier.conditions.Continues later.conditions
  names : earlier.nodes.map Node.name <+: later.nodes.map Node.name

theorem Continues.refl (status : Status) : status.Continues status :=
  ⟨.refl _, List.prefix_refl _⟩

theorem Continues.trans {s₁ s₂ s₃ : Status} (h₁₂ : s₁.Continues s₂) (h₂₃ : s₂.Continues s₃) :
    s₁.Continues s₃ :=
  ⟨h₁₂.conditions.trans h₂₃.conditions, h₁₂.names.trans h₂₃.names⟩

instance : IsTrans Status Continues := ⟨fun _ _ _ => Continues.trans⟩

end Status

end RaftMysql
