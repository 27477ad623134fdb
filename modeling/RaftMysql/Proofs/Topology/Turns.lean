import RaftMysql.Proofs.Program.InTurn
import RaftMysql.Proofs.Topology.Handover
import RaftMysql.Proofs.Topology.Order

/-!
# The turns of a rolling update

`Topology.Handled` is what the turn of one member looks like, and `run_replaceMembers` that the
members have their turn one after the other. From this follow the two facts about all turns that the
trace of a rolling update is made of: `removals_inTurn`, which pods are removed, and `turn_of_visit`,
what has happened by the time that a member is visited.
-/

namespace RaftMysql

namespace Topology

variable {c : Cluster} {settings : Settings} {revision : String} {members : List Pod} {t : Trace}
  {r : Except Error Unit}

/-! ### One turn -/

/-- What is done in the turn of a member. -/
def handle (c : Cluster) (settings : Settings) (revision : String) (members : List Pod)
    (pod : Pod) : Procedure Unit :=
  if (leaderOf members).map Manifest.name = some pod.name then
    replaceLeader c settings revision pod ((followersOf members).getLast?.map Manifest.name)
  else replaceMember c settings pod revision

/-- What the turn of a member looks like. -/
structure Handled (c : Cluster) (revision : String) (members : List Pod) (pod : Pod) (t : Trace)
    (r : Except Error Unit) : Prop where
  visits_eq : ∀ name ∈ visits t, name = pod.name
  removals_prefix : removals t <+: ([pod].filter (isDue revision)).map Manifest.name
  removals_eq : r = .ok () → removals t = ([pod].filter (isDue revision)).map Manifest.name
  confirmed : r = .ok () → Confirmed revision pod t
  /-- Before anything else is done to the leader, the last follower leads. -/
  handedOver : ∀ {before after : Trace} {e : Event} {follower : Pod},
    t = before ++ e :: after → e.request.removed? = some pod.name → leaderOf members = some pod →
      (followersOf members).getLast? = some follower → HandedOver c pod.name follower.name before

theorem run_replaceLeader {leader : Pod} {lastFollower : Option String}
    (h : (replaceLeader c settings revision leader lastFollower).Run t r) :
    ((lastFollower = none ∨ leader.isAt revision = true) ∧
      (replaceMember c settings leader revision).Run t r) ∨
    ∃ follower, lastFollower = some follower ∧ leader.isAt revision = false ∧
      ((∃ e, (transferLeadership c settings leader.name follower).Run t (.error e) ∧
        r = .error e) ∨
      ∃ t₁ t₂, t = t₁ ++ t₂ ∧ (transferLeadership c settings leader.name follower).Run t₁ (.ok ()) ∧
        (replaceMember c settings leader revision).Run t₂ r) := by
  unfold replaceLeader at h
  match lastFollower with
  | none => exact .inl ⟨.inl rfl, h⟩
  | some follower =>
    dsimp only at h
    split at h <;> rename_i hat
    · refine .inr ⟨follower, rfl, by simpa using hat, ?_⟩
      rcases Procedure.run_bind.mp h with ⟨e, h₁, rfl⟩ | ⟨t₁, t₂, _, rfl, h₁, h₂⟩
      · exact .inl ⟨e, h₁, rfl⟩
      · exact .inr ⟨t₁, t₂, rfl, h₁, h₂⟩
    · exact .inl ⟨.inr (by simpa using hat), h⟩

theorem names_of_due (revision : String) (pod : Pod) :
    (if isDue revision pod then [pod.name] else []) =
      ([pod].filter (isDue revision)).map Manifest.name := by
  rcases hdue : isDue revision pod with _ | _ <;> simp [hdue]

/-- A turn that is only a replacement. Nothing has to be handed over before it. -/
theorem handled_of_replaceMember {pod : Pod} (hin : isExempt c pod.name = false)
    (h : (replaceMember c settings pod revision).Run t r)
    (halone : leaderOf members = some pod → isDue revision pod = true →
      (followersOf members).getLast? = none) : Handled c revision members pod t r := by
  obtain ⟨hvisits, hremovals, hconfirmed⟩ := run_replaceMember hin h
  have hown := hremovals.trans (names_of_due revision pod)
  refine ⟨hvisits, hown ▸ List.prefix_refl _, fun _ => hown, hconfirmed, ?_⟩
  rintro before after e follower rfl hremoved hleader hfollower
  have hmem := mem_removals_of_event hremoved before after
  rw [hremovals] at hmem
  have hdue : isDue revision pod = true := by
    by_contra hdue
    rw [if_neg hdue] at hmem
    cases hmem
  rw [halone hleader hdue] at hfollower
  cases hfollower

/-- **The turn of a member**, however it ends. -/
theorem run_handle {pod : Pod} (hin : isExempt c pod.name = false)
    (h : (handle c settings revision members pod).Run t r) :
    Handled c revision members pod t r := by
  unfold handle at h
  split at h <;> rename_i hleader
  · rcases run_replaceLeader h with ⟨hlast, h⟩ | ⟨follower, hlast, hat, htransfer⟩
    · refine handled_of_replaceMember hin h fun _ hdue => ?_
      rcases hlast with hlast | hat
      · simpa using hlast
      · simp [isDue, hat] at hdue
    · rcases htransfer with ⟨e, h₁, rfl⟩ | ⟨t₁, t₂, rfl, h₁, h₂⟩
      · have hvisits := visits_transferLeadership h₁
        have hremovals := removals_eq_nil_of_visits hvisits
        refine ⟨by simp [hvisits], by simp [hremovals], by simp, by simp, ?_⟩
        rintro before after e' f rfl hremoved - -
        have hmem := mem_removals_of_event hremoved before after
        rw [hremovals] at hmem
        cases hmem
      · have hvisits₁ := visits_transferLeadership h₁
        have hremovals₁ := removals_eq_nil_of_visits hvisits₁
        obtain ⟨hvisits, hremovals, hconfirmed⟩ := run_replaceMember hin h₂
        have hown : removals (t₁ ++ t₂) = ([pod].filter (isDue revision)).map Manifest.name := by
          rw [removals_append, hremovals₁, List.nil_append, hremovals, names_of_due]
        refine ⟨by simpa [hvisits₁] using hvisits, hown ▸ List.prefix_refl _, fun _ => hown,
          fun hr => (hconfirmed hr).append_left t₁, ?_⟩
        intro before after e f ht hremoved _ hf
        rw [hf, Option.map_some, Option.some.injEq] at hlast
        rw [hlast]
        obtain ⟨b, rfl, -⟩ := exists_append_of_removal hremovals₁ ht hremoved
        exact (run_transferLeadership h₁).mono (List.sublist_append_left ..)
  · refine handled_of_replaceMember hin h fun hl _ => ?_
    rw [hl] at hleader
    exact absurd rfl hleader

/-- What fails in a turn is the transfer, before which nothing is done, or the replacement. -/
theorem run_handle_error {pod : Pod} {e : Error}
    (h : (handle c settings revision members pod).Run t (.error e)) :
    (∃ follower, (transferLeadership c settings pod.name follower).Run t (.error e)) ∨
      ∃ t₁ t₂, t = t₁ ++ t₂ ∧ (replaceMember c settings pod revision).Run t₂ (.error e) := by
  unfold handle at h
  split at h
  · rcases run_replaceLeader h with ⟨-, h⟩ | ⟨follower, -, -, ⟨e', h₁, he⟩ | ⟨t₁, t₂, rfl, -, h₂⟩⟩
    · exact .inr ⟨[], t, rfl, h⟩
    · obtain rfl := Except.error.inj he
      exact .inl ⟨follower, h₁⟩
    · exact .inr ⟨t₁, t₂, rfl, h₂⟩
  · exact .inr ⟨[], t, rfl, h⟩

/-! ### All turns -/

theorem run_forEach {f : Pod → Procedure Unit} {pods : List Pod} :
    (forEach f pods).Run t r ↔ InTurn (fun pod => (f pod).Run) pods t r := by
  induction pods generalizing t r with
  | nil =>
    constructor
    · intro h
      obtain ⟨rfl, rfl⟩ := Procedure.run_pure.mp h
      exact .nil
    · intro h
      cases h
      exact Procedure.run_pure.mpr ⟨rfl, rfl⟩
  | cons pod pods ih =>
    unfold forEach
    rw [Procedure.run_bind]
    constructor
    · rintro (⟨e, h, rfl⟩ | ⟨t₁, t₂, _, rfl, h₁, h₂⟩)
      · exact .failed h
      · exact .cons h₁ (ih.mp h₂)
    · intro h
      cases h with
      | failed h => exact .inl ⟨_, h, rfl⟩
      | cons h hs => exact .inr ⟨_, _, (), rfl, h, ih.mpr hs⟩

theorem run_replaceMembers (h : (replaceMembers c settings revision members).Run t r) :
    InTurn (fun pod => (handle c settings revision members pod).Run) (turns members) t r := by
  unfold replaceMembers at h
  unfold turns
  have hfollowers : ∀ {t : Trace} {r : Except Error Unit},
      (forEach (fun pod => replaceMember c settings pod revision) (followersOf members)).Run t r →
        InTurn (fun pod => (handle c settings revision members pod).Run) (followersOf members) t r := by
    intro t r hf
    refine (run_forEach.mp hf).mono fun pod hpod t r hpodrun => ?_
    have hnot : (leaderOf members).map Manifest.name ≠ some pod.name := by
      unfold followersOf at hpod
      split at hpod <;> rename_i hl
      · rw [hl]
        intro heq
        simp [Option.some.inj heq] at hpod
      · simp [hl]
    unfold handle
    rwa [if_neg hnot]
  rw [inTurn_append]
  rcases Procedure.run_bind.mp h with ⟨e, h₁, rfl⟩ | ⟨t₁, t₂, _, rfl, h₁, h₂⟩
  · exact .inl ⟨e, rfl, hfollowers h₁⟩
  · refine .inr ⟨t₁, t₂, rfl, hfollowers h₁, ?_⟩
    rcases hl : leaderOf members with _ | leader
    · rw [hl] at h₂
      obtain ⟨rfl, rfl⟩ := Procedure.run_pure.mp h₂
      exact .nil
    · rw [hl] at h₂
      refine inTurn_singleton.mpr ?_
      unfold handle
      rwa [if_pos (by rw [hl]; rfl)]

theorem visits_inTurn {R : Pod → Trace → Except Error Unit → Prop} {order : List Pod}
    (h : InTurn R order t r) (hR : ∀ {pod t r}, R pod t r → ∀ name ∈ visits t, name = pod.name)
    {name : String} (hname : name ∈ visits t) : ∃ pod ∈ order, pod.name = name := by
  induction h with
  | nil => cases hname
  | failed h => exact ⟨_, by simp, (hR h name hname).symm⟩
  | cons h hs ih =>
    rw [visits_append, List.mem_append] at hname
    rcases hname with hname | hname
    · exact ⟨_, by simp, (hR h name hname).symm⟩
    · obtain ⟨pod, hpod, rfl⟩ := ih hname
      exact ⟨pod, by simp [hpod], rfl⟩

/-- **Which pods are removed** is known from the listing: those that were due then, in the order of
their turns, up to the end of the update. -/
theorem removals_inTurn {order : List Pod} (h : InTurn (Handled c revision members) order t r) :
    removals t <+: (order.filter (isDue revision)).map Manifest.name ∧
      (r = .ok () → removals t = (order.filter (isDue revision)).map Manifest.name) := by
  induction h with
  | nil => simp
  | @failed pod order t e h =>
    rw [← List.singleton_append, List.filter_append, List.map_append]
    exact ⟨h.removals_prefix.trans (List.prefix_append ..), by simp⟩
  | @cons pod order t₁ t₂ r h hs ih =>
    rw [← List.singleton_append, List.filter_append, List.map_append, removals_append,
      h.removals_eq rfl, List.prefix_append_right_inj]
    exact ⟨ih.1, fun hr => by rw [ih.2 hr]⟩

/-- Members that have had their turn are confirmed. -/
theorem confirmed_inTurn {order : List Pod}
    (h : InTurn (Handled c revision members) order t (.ok ()))
    (hnodup : (order.map Manifest.name).Nodup) {pod : Pod} (hpod : pod ∈ order) :
    Confirmed revision pod t := by
  obtain ⟨xs, ys, rfl⟩ := List.append_of_mem hpod
  obtain ⟨before, own, after, rfl, -, hown, hafter⟩ := h.part
  refine ((hown.confirmed rfl).append_left before).append_right fun hname => ?_
  obtain ⟨p, hp, heq⟩ := visits_inTurn hafter Handled.visits_eq hname
  exact name_ne_of_nodup hnodup p (List.mem_append_right _ hp) heq

/-- **A visit of a member happens in its turn**: the earlier ones have had theirs, and the later
ones have not been visited. -/
theorem turn_of_visit {order : List Pod} {t₁ t₂ : Trace} {e : Event} {name : String}
    (h : InTurn (Handled c revision members) order (t₁ ++ e :: t₂) r)
    (hnodup : (order.map Manifest.name).Nodup) (hname : e.request.visited? = some name) :
    ∃ earlier pod later u v w r', order = earlier ++ pod :: later ∧ pod.name = name ∧
      t₁ = u ++ v ∧ (∀ m ∈ earlier, Confirmed revision m u ∧ m.name ∉ visits v) ∧
      (∀ m ∈ later, m.name ∉ visits t₁) ∧ Handled c revision members pod (v ++ e :: w) r' := by
  obtain ⟨earlier, pod, later, u, v, w, z, r', rfl, rfl, rfl, hdone, hpod⟩ := h.split rfl
  have hpodname := hpod.visits_eq name (mem_visits.mpr ⟨e, by simp, hname⟩)
  have hv : ∀ name ∈ visits v, name = pod.name := fun name hmem =>
    hpod.visits_eq name (by rw [visits_append]; exact List.mem_append_left _ hmem)
  rw [List.map_append, List.map_cons] at hnodup
  obtain ⟨hearlier, hrest, hdisjoint⟩ := List.nodup_append.mp hnodup
  have hlater := (List.nodup_cons.mp hrest).1
  refine ⟨earlier, pod, later, u, v, w, r', rfl, hpodname.symm, rfl, ?_, ?_, hpod⟩
  · intro m hm
    refine ⟨confirmed_inTurn hdone hearlier hm, fun hmem => ?_⟩
    exact hdisjoint _ (List.mem_map_of_mem hm) _ List.mem_cons_self (hv _ hmem)
  · intro m hm hmem
    have hmname := List.mem_map_of_mem (f := Manifest.name) hm
    rw [visits_append, List.mem_append] at hmem
    rcases hmem with hmem | hmem
    · obtain ⟨p, hp, heq⟩ := visits_inTurn hdone Handled.visits_eq hmem
      exact hdisjoint _ (List.mem_map_of_mem hp) _ (List.mem_cons_of_mem _ hmname) heq
    · exact hlater (hv _ hmem ▸ hmname)

theorem Handled.isDue_of_removed {pod : Pod} {e : Event} {before after : Trace}
    (h : Handled c revision members pod (before ++ e :: after) r)
    (he : e.request.removed? = some pod.name) : isDue revision pod = true := by
  have hmem := h.removals_prefix.mem (mem_removals_of_event he before after)
  simp only [List.mem_map, List.mem_filter, List.mem_singleton] at hmem
  obtain ⟨p, ⟨rfl, hdue⟩, -⟩ := hmem
  exact hdue

end Topology

end RaftMysql
