import RaftMysql.Proofs.Topology.Rolling

/-!
# What a rolling update goes by

A rolling update removes pods by the listing that it began with, although it looks at them again
while it waits (`Topology.removals_decided`). Which member a transfer moves leadership away from is
known from the listing too (`Topology.leaderOf_of_handedOver`). So a removal fits what was last
heard of the pod, `Topology.FitsLatest`, just when the latest copy still says what the listed one
did.
-/

namespace RaftMysql

namespace Topology

variable {c : Cluster} {settings : Settings} {revision : String} {members pods : List Pod}
  {t : Trace} {r : Except Error Unit}

/-! ### Whom leadership is moved away from -/

/-- Sessions are opened on the leader of the listing only. -/
def OnLeader (c : Cluster) (members : List Pod) (q : Request) : Prop :=
  ∀ login, q = .connect login →
    ∃ leader, leaderOf members = some leader ∧ login.host = c.hostOf leader.name

theorem RollRequest.onLeader {q : Request} (h : RollRequest c members q) :
    OnLeader c members q := by
  rintro login rfl
  cases h with
  | replace hpod h =>
    cases h with
    | wait h => cases h
  | transfer hleader h =>
    cases h with
    | connect h => exact ⟨_, hleader, h⟩

theorem hostOf_inj {name name' : String} (h : c.hostOf name = c.hostOf name') : name = name' := by
  unfold Cluster.hostOf at h
  simpa only [String.append_left_inj] using h

theorem leaderOf_of_handedOver {name follower : String}
    (hall : ∀ e ∈ t, OnLeader c members e.request) (h : HandedOver c name follower t) :
    ∃ leader, leaderOf members = some leader ∧ leader.name = name := by
  obtain ⟨login, session, rows, password, view, hhost, -, -, hsub⟩ := h
  have hmem : (⟨.connect login, .ok session⟩ : Event) ∈ t := hsub.mem List.mem_cons_self
  obtain ⟨leader, hleader, hhost'⟩ := hall _ hmem login rfl
  exact ⟨leader, hleader, hostOf_inj (hhost'.symm.trans hhost)⟩

theorem onLeader_gate (h : Gate t) {e : Event} (he : e ∈ t) : OnLeader c members e.request := by
  rintro login hq
  cases (h e he).symm.trans hq

/-- Whatever comes before and after the listing, sessions are opened on its leader only. -/
theorem onLeader_of_rollMembers {gate rest : Trace} (hgate : Gate gate)
    (h : (rollMembers settings c revision (membersOf c pods)).Run rest r) :
    ∀ e ∈ gate ++ ⟨.list .pod c.selector, .ok pods⟩ :: rest,
      OnLeader c (membersOf c pods) e.request := by
  have hasks := h.asks (asks_rollMembers.mono fun _ h => h.onLeader)
  intro e he
  rcases List.mem_append.mp he with he | he
  · exact onLeader_gate hgate he
  · rcases List.mem_cons.mp he with rfl | he
    · rintro login hq
      cases hq
    · exact hasks e he

/-- A pod that is removed after a listing that it is in has a latest copy. -/
theorem exists_latestCopy_of_removal {gate rest before after : Trace} {e : Event} {listed : Pod}
    (hgate : Gate gate) (hlisted : listed ∈ pods)
    (ht : gate ++ ⟨.list .pod c.selector, .ok pods⟩ :: rest = before ++ e :: after)
    (hname : e.request.removed? = some listed.name) :
    ∃ copy, latestCopy? listed.name before = some copy := by
  have hnil : removals (gate ++ [⟨.list .pod c.selector, .ok pods⟩]) = [] := by
    rw [removals_append, removals_eq_nil_of_visits (visits_gate hgate)]
    rfl
  rw [List.append_cons] at ht
  obtain ⟨b, rfl, -⟩ := exists_append_of_removal hnil ht hname
  obtain ⟨pod, hpod⟩ : ∃ pod, pods.find? (fun pod => pod.name == listed.name) = some pod := by
    rw [← Option.isSome_iff_exists, List.find?_isSome]
    exact ⟨listed, hlisted, by simp⟩
  have hlisting : (⟨.list .pod c.selector, .ok pods⟩ : Event) ∈
      gate ++ [⟨.list .pod c.selector, .ok pods⟩] ++ b := by simp
  exact exists_latestCopy listed.name hlisting hpod

/-! ### What a removal goes by -/

/-- The removal of a member fits its latest copy: that one is due too, and is not labelled leader,
unless leadership was moved away from it or there is no other member. -/
def FitsLatest (c : Cluster) (revision : String) (members : List Pod) (listed copy : Pod)
    (t : Trace) : Prop :=
  isDue revision copy = true ∧ (copy.isLeader = true →
    (∃ follower, HandedOver c listed.name follower t) ∨ members = [listed])

theorem eq_singleton_of_leader {leader : Pod} (hnodup : (members.map Manifest.name).Nodup)
    (hleader : leaderOf members = some leader) (hnone : (followersOf members).getLast? = none) :
    members = [leader] := by
  have hturns : turns members = [leader] := by
    unfold turns
    rw [List.getLast?_eq_none_iff.mp hnone, hleader]
    rfl
  have hperm := turns_perm hnodup
  rw [hturns] at hperm
  exact (List.singleton_perm.mp hperm).symm

/-- **What a removal goes by.** The pods that are removed are those that were due when listed, in
the order of their turns and up to the end of the update. The removal of one fits its latest copy
just when that one is still due and, if it is labelled leader, the pod is the leader of the listing
or the only member. -/
theorem removals_decided {workload : Workload} (h : (rollout c settings workload).Run t r)
    (hnodup : ∀ pods, Listed c pods t → (pods.map Manifest.name).Nodup) :
    (removals t = [] ∧ ∀ pods, ¬ Listed c pods t) ∨
      ∃ revision pods members, workload.updateRevision? = some revision ∧ Listed c pods t ∧
        members = membersOf c pods ∧
        removals t <+: ((turns members).filter (isDue revision)).map Manifest.name ∧
        (r = .ok () → removals t = ((turns members).filter (isDue revision)).map Manifest.name) ∧
        ∀ {before after : Trace} {e : Event} {name : String}, t = before ++ e :: after →
          e.request.removed? = some name →
            ∃ listed copy, listed ∈ members ∧ listed.name = name ∧
              latestCopy? name before = some copy ∧
              (FitsLatest c revision members listed copy before ↔
                isDue revision copy = true ∧ (copy.isLeader = true →
                  leaderOf members = some listed ∨ members = [listed])) := by
  rcases orderly_of_run h hnodup with
    ⟨hvisits, hnone⟩ | ⟨revision, pods, gate, rest, hrev, rfl, hgate, hrun, horderly⟩
  · exact .inl ⟨removals_eq_nil_of_visits hvisits, hnone⟩
  have hlisted : Listed c pods (gate ++ ⟨.list .pod c.selector, .ok pods⟩ :: rest) := by
    simp [Listed]
  have hnames := nodup_membersOf (c := c) (hnodup pods hlisted)
  refine .inr ⟨revision, pods, membersOf c pods, hrev, hlisted, rfl, horderly.planned.1,
    horderly.planned.2, ?_⟩
  intro before after e name ht hname
  obtain ⟨earlier, listed, later, hturns, rfl, -, -⟩ := horderly.removed ht hname
  have hmem : listed ∈ membersOf c pods :=
    (mem_turns hnames).mp (hturns ▸ List.mem_append_right _ List.mem_cons_self)
  obtain ⟨copy, hcopy⟩ := exists_latestCopy_of_removal hgate (mem_membersOf.mp hmem).1 ht hname
  refine ⟨listed, copy, hmem, rfl, hcopy, ?_⟩
  refine and_congr_right fun _ => imp_congr_right fun _ => ?_
  constructor
  · rintro (⟨follower, hover⟩ | hone)
    · have hall : ∀ e' ∈ before, OnLeader c (membersOf c pods) e'.request := fun e' he' =>
        onLeader_of_rollMembers hgate hrun e' (ht ▸ List.mem_append_left _ he')
      obtain ⟨leader, hleader, heq⟩ := leaderOf_of_handedOver hall hover
      obtain rfl := List.inj_on_of_nodup_map hnames (List.mem_of_find?_eq_some hleader) hmem heq
      exact .inl hleader
    · exact .inr hone
  · rintro (hleader | hone)
    · rcases hfollower : (followersOf (membersOf c pods)).getLast? with _ | follower
      · exact .inr (eq_singleton_of_leader hnames hleader hfollower)
      · obtain ⟨u, v, rfl, -, hover⟩ := horderly.handedOver ht hleader hfollower hname
        exact .inl ⟨follower.name, hover.mono (List.sublist_append_right u v)⟩
    · exact .inr hone

/-! ### A pod that was replaced after the listing -/

/-- The pods of the group of two when someone else replaced the follower after the listing. -/
def staleCopy (name : String) (removed : Bool) : Option Pod :=
  if name = "sample-mysql-1" then some (memberPod name "follower" "b" "w") else groupCopy name removed

/-- The removals of the group are decided by its listing. -/
theorem group_decided :
    removals (groupTrace groupPods staleCopy) = ["sample-mysql-1", "sample-mysql-0"] ∧
      removals (groupTrace groupPods staleCopy) <+:
        ((turns (membersOf groupCluster groupPods)).filter (isDue "b")).map Manifest.name := by
  have hremovals : removals (groupTrace groupPods staleCopy) = ["sample-mysql-1", "sample-mysql-0"] := by
    decide +kernel
  refine ⟨hremovals, ?_⟩
  obtain ⟨r, hrun⟩ := run_groupTrace groupPods staleCopy
  rcases removals_decided hrun fun pods h => by rw [listed_groupTrace h]; decide with
    ⟨hnil, -⟩ | ⟨revision, pods, members, hrev, hlisted, rfl, hprefix, -⟩
  · rw [hremovals] at hnil
    cases hnil
  · obtain rfl : "b" = revision := Option.some.inj hrev
    obtain rfl := listed_groupTrace hlisted
    exact hprefix

/-- A pod is removed although the latest copy of it is at the revision. -/
theorem exists_removal_at_revision :
    ∃ before e after copy, groupTrace groupPods staleCopy = before ++ e :: after ∧
      e.request.removed? = some "sample-mysql-1" ∧ latestCopy? "sample-mysql-1" before = some copy ∧
      copy.isAt "b" = true := by
  have hcopy : (latestCopy? "sample-mysql-1" ((groupTrace groupPods staleCopy).take 6)).map (Pod.isAt · "b") =
      some true := by decide +kernel
  have hremoved : ((groupTrace groupPods staleCopy).drop 6).head?.bind
      (fun e => e.request.removed?) = some "sample-mysql-1" := by decide +kernel
  obtain ⟨e, after, ht, he⟩ := exists_split_of_removal hremoved
  obtain ⟨copy, hlatest, hat⟩ := Option.map_eq_some_iff.mp hcopy
  exact ⟨_, e, after, copy, ht, he, hlatest, hat⟩

end Topology

end RaftMysql
