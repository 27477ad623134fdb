import RaftMysql.Topology.Rollout
import Mathlib.Data.List.Sort

/-!
# The order of a rolling update

`Topology.membersOf` is a stable sort by ordinal of the listed pods that have to move
(`membersOf_perm`, `membersOf_ascending`), and `Topology.turns` the order in which they have their
turn: the first one that is labelled leader comes last.
-/

namespace RaftMysql

namespace Topology

/-! ### Ordinals -/

/-- The first pod does not come after the second. -/
def PodLe (p q : Pod) : Prop := ordinalLe (ordinal? p.name) (ordinal? q.name) = true

instance : DecidableRel PodLe := fun p q => by unfold PodLe; infer_instance

theorem ordinalLe_total (a b : Option Int) : ordinalLe a b = true ∨ ordinalLe b a = true := by
  rcases a with _ | a <;> rcases b with _ | b <;> simp [ordinalLe, Int.le_total]

theorem ordinalLe_trans {a b d : Option Int} (hab : ordinalLe a b = true)
    (hbd : ordinalLe b d = true) : ordinalLe a d = true := by
  rcases a with _ | a <;> rcases b with _ | b <;> rcases d with _ | d <;>
    simp_all [ordinalLe]
  omega

instance : Std.Total PodLe := ⟨fun p q => ordinalLe_total (ordinal? p.name) (ordinal? q.name)⟩

instance : IsTrans Pod PodLe := ⟨fun _ _ _ h₁ h₂ => ordinalLe_trans h₁ h₂⟩

/-! ### Sorting -/

theorem insertByOrdinal_eq (pod : Pod) (pods : List Pod) :
    insertByOrdinal pod pods = pods.orderedInsert PodLe pod := by
  induction pods with
  | nil => rfl
  | cons p ps ih =>
    unfold insertByOrdinal
    rw [ih, List.orderedInsert_cons]
    rfl

theorem sortByOrdinal_eq (pods : List Pod) : sortByOrdinal pods = pods.insertionSort PodLe := by
  induction pods with
  | nil => rfl
  | cons p ps ih =>
    rw [List.insertionSort_cons, ← ih, ← insertByOrdinal_eq]
    rfl

variable {c : Cluster} {pods members : List Pod}

theorem membersOf_perm : (membersOf c pods).Perm (pods.filter fun pod => !isExempt c pod.name) := by
  unfold membersOf
  rw [sortByOrdinal_eq]
  exact List.perm_insertionSort ..

theorem membersOf_ascending : (membersOf c pods).Pairwise PodLe := by
  unfold membersOf
  rw [sortByOrdinal_eq]
  exact List.pairwise_insertionSort ..

theorem mem_membersOf {pod : Pod} :
    pod ∈ membersOf c pods ↔ pod ∈ pods ∧ isExempt c pod.name = false := by
  rw [membersOf_perm.mem_iff, List.mem_filter]
  simp

theorem nodup_membersOf (h : (pods.map Manifest.name).Nodup) :
    ((membersOf c pods).map Manifest.name).Nodup :=
  (membersOf_perm.map _).nodup_iff.mpr (h.sublist (List.filter_sublist.map _))

/-! ### Turns -/

/-- The members in the order in which they have their turn. -/
def turns (members : List Pod) : List Pod := followersOf members ++ (leaderOf members).toList

theorem name_ne_of_nodup {xs ys : List Pod} {pod : Pod}
    (h : ((xs ++ pod :: ys).map Manifest.name).Nodup) : ∀ p ∈ xs ++ ys, p.name ≠ pod.name := by
  rw [List.map_append, List.map_cons, List.nodup_middle, List.nodup_cons, ← List.map_append] at h
  exact fun p hp heq => h.1 (heq ▸ List.mem_map_of_mem hp)

theorem filter_name_eq {pod : Pod} (h : (members.map Manifest.name).Nodup) (hmem : pod ∈ members) :
    members.filter (fun p => !(p.name != pod.name)) = [pod] := by
  obtain ⟨xs, ys, rfl⟩ := List.append_of_mem hmem
  have hnil : (xs ++ ys).filter (fun p => !(p.name != pod.name)) = [] := by
    rw [List.filter_eq_nil_iff]
    intro p hp hname
    exact name_ne_of_nodup h p hp (by simpa using hname)
  rw [List.filter_append, List.append_eq_nil_iff] at hnil
  rw [List.filter_append, List.filter_cons_of_pos (by simp), hnil.1, hnil.2]
  rfl

theorem turns_perm (h : (members.map Manifest.name).Nodup) : (turns members).Perm members := by
  unfold turns followersOf
  rcases hl : leaderOf members with _ | leader
  · simp
  · have hperm := List.filter_append_perm (fun pod : Pod => pod.name != leader.name) members
    rw [filter_name_eq h (List.mem_of_find?_eq_some hl)] at hperm
    exact hperm

theorem mem_turns (h : (members.map Manifest.name).Nodup) {pod : Pod} :
    pod ∈ turns members ↔ pod ∈ members := (turns_perm h).mem_iff

theorem mem_of_mem_turns {pod : Pod} (h : pod ∈ turns members) : pod ∈ members := by
  unfold turns followersOf at h
  rcases hl : leaderOf members with _ | leader
  · simpa [hl] using h
  · rw [hl] at h
    rcases List.mem_append.mp h with hfollower | hleader
    · exact List.mem_of_mem_filter hfollower
    · obtain rfl : pod = leader := by simpa using hleader
      exact List.mem_of_find?_eq_some hl

theorem nodup_turns (h : (members.map Manifest.name).Nodup) :
    ((turns members).map Manifest.name).Nodup := ((turns_perm h).map _).nodup_iff.mpr h

/-- A name tells which turn it is. -/
theorem split_unique {xs ys xs' ys' : List Pod} {p p' : Pod}
    (hnodup : ((xs ++ p :: ys).map Manifest.name).Nodup)
    (h : xs ++ p :: ys = xs' ++ p' :: ys') (hname : p.name = p'.name) :
    xs = xs' ∧ p = p' ∧ ys = ys' := by
  induction xs generalizing xs' with
  | nil =>
    cases xs' with
    | nil =>
      obtain ⟨rfl, rfl⟩ := List.cons.inj h
      exact ⟨rfl, rfl, rfl⟩
    | cons x' xs' =>
      obtain ⟨rfl, rfl⟩ := List.cons.inj h
      simp [hname] at hnodup
  | cons x xs ih =>
    cases xs' with
    | nil =>
      obtain ⟨rfl, rfl⟩ := List.cons.inj h
      simp [hname] at hnodup
    | cons x' xs' =>
      obtain ⟨rfl, htail⟩ := List.cons.inj h
      rw [List.cons_append, List.map_cons, List.nodup_cons] at hnodup
      obtain ⟨rfl, rfl, rfl⟩ := ih hnodup.2 htail
      exact ⟨rfl, rfl, rfl⟩

end Topology

end RaftMysql
