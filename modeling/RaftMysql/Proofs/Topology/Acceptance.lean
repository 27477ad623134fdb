import RaftMysql.Proofs.Topology.Rolling

/-!
# What the wait for a member accepts

A rolling update goes on to the next member when it has accepted a copy of the last one.
`Topology.Accepts` says which copy that is: the first that replaces the listed pod, in the sense of
`Topology.Replaces`. Nothing else is looked at, so a copy that is on its way out is accepted like any
other. `Topology.rollout_inTurn` is about all members of an update.
-/

namespace RaftMysql

namespace Topology

variable {c : Cluster} {settings : Settings} {revision : String} {members : List Pod} {listed : Pod}
  {t : Trace} {r : Except Error Unit}

/-! ### One look -/

theorem isReplaced_iff {podName : String} {copy : Pod} :
    isReplaced podName revision (if listed.isAt revision then none else listed.metadata.uid)
        (some copy) = .ok true ↔ Replaces revision listed copy := by
  rw [isReplaced_eq_true]
  constructor
  · rintro ⟨copy', heq, huid, hfailed, hhealthy, hat⟩
    obtain rfl := Option.some.inj heq
    refine ⟨hhealthy, hfailed, hat, fun hold hsome huid' => huid ?_⟩
    rw [if_neg (by simp [hold])]
    exact ⟨hsome, huid'⟩
  · rintro ⟨hhealthy, hfailed, hat, huid⟩
    refine ⟨copy, rfl, ?_, hfailed, hhealthy, hat⟩
    split <;> rename_i hold
    · simp
    · rintro ⟨hsome, heq⟩
      exact huid (by simpa using hold) hsome heq

/-- The event is no look that found a copy which replaces the listed pod. -/
def Fruitless (revision : String) (listed : Pod) (e : Event) : Prop :=
  ∀ copy, e = ⟨.get .pod listed.name, .ok (some copy)⟩ → ¬ Replaces revision listed copy

theorem fruitless_of_request {e : Event} (h : e.request ≠ .get .pod listed.name) :
    Fruitless revision listed e := by
  rintro copy rfl
  exact absurd rfl h

theorem fruitless_of_visits {t : Trace} (h : listed.name ∉ visits t) :
    ∀ e ∈ t, Fruitless revision listed e := by
  intro e he copy heq
  exact absurd (mem_visits.mpr ⟨e, he, by rw [heq]; rfl⟩) h

/-! ### Acceptance -/

/-- The trace ends with a look at this copy, which replaces the listed pod, and no event before it is
a look at one that does. -/
structure Accepts (revision : String) (listed copy : Pod) (t : Trace) : Prop where
  replaces : Replaces revision listed copy
  first : ∃ before, t = before ++ [⟨.get .pod listed.name, .ok (some copy)⟩] ∧
    ∀ e ∈ before, Fruitless revision listed e

theorem Accepts.append_left {copy : Pod} (h : Accepts revision listed copy t) {t₀ : Trace}
    (ht₀ : ∀ e ∈ t₀, Fruitless revision listed e) : Accepts revision listed copy (t₀ ++ t) := by
  obtain ⟨before, rfl, hbefore⟩ := h.first
  exact ⟨h.replaces, t₀ ++ before, (List.append_assoc ..).symm,
    List.forall_mem_append.mpr ⟨ht₀, hbefore⟩⟩

/-- What a look at a pod asks for and how it ends. -/
theorem run_look {podName : String} {replacedUid : Option String} {x : Except Error Bool}
    (h : (do
      let current : Option Pod ← Store.get .pod podName
      isReplaced podName revision replacedUid current : Procedure Bool).Run t x)
    (hx : ∀ e, x ≠ .error e) :
    ∃ current, t = [⟨.get .pod podName, .ok current⟩] ∧
      x = isReplaced podName revision replacedUid current := by
  rcases Procedure.run_bind.mp h with ⟨e, -, rfl⟩ | ⟨t₁, t₂, current, rfl, h₁, h₂⟩
  · exact absurd rfl (hx e)
  · obtain rfl := Store.run_get.mp h₁
    obtain ⟨rfl, rfl⟩ := Procedure.run_lift.mp h₂
    exact ⟨current, rfl, rfl⟩

/-- A wait for a replacement that ends well accepts a copy. -/
theorem accepts_of_awaitReplacement
    (h : (awaitReplacement settings listed.name revision
      (if listed.isAt revision then none else listed.metadata.uid)).Run t (.ok ())) :
    ∃ copy, Accepts revision listed copy t := by
  obtain ⟨t₁, t₂, rfl, hbefore, h₂⟩ := Procedure.run_poll_ok_first
    (P := Fruitless revision listed) (fun _ => fruitless_of_request (by simp))
    (fun _ _ => fruitless_of_request (by simp))
    (fun t hlook => by
      obtain ⟨current, rfl, hr⟩ := run_look hlook (by simp)
      refine List.forall_mem_singleton.mpr fun copy heq hcopy => ?_
      obtain rfl : current = some copy := by simpa using heq
      rw [isReplaced_iff.mpr hcopy] at hr
      cases hr) h
  obtain ⟨current, rfl, hr⟩ := run_look h₂ (by simp)
  obtain ⟨copy, rfl, -⟩ := isReplaced_eq_true.mp hr.symm
  exact ⟨copy, isReplaced_iff.mp hr.symm, t₁, rfl, hbefore⟩

/-! ### Turns -/

/-- The turn of a member: no other pod is visited, and if it ends well then with the acceptance of a
copy. -/
structure Turn (revision : String) (listed : Pod) (t : Trace) (r : Except Error Unit) : Prop where
  visits_eq : ∀ name ∈ visits t, name = listed.name
  accepts : r = .ok () → ∃ copy, Accepts revision listed copy t

theorem turn_of_replaceMember (hin : isExempt c listed.name = false)
    (h : (replaceMember c settings listed revision).Run t r) : Turn revision listed t r := by
  refine ⟨(run_replaceMember hin h).1, ?_⟩
  rintro rfl
  rw [replaceMember_eq hin] at h
  obtain ⟨t₁, t₂, uid, rfl, h₁, h₂⟩ := Procedure.run_bind_ok.mp h
  obtain rfl := (run_takeDown h₁).2 uid rfl
  obtain ⟨copy, hcopy⟩ := accepts_of_awaitReplacement h₂
  have hdown : (takeDown c listed revision).Asks (· ≠ .get .pod listed.name) :=
    asks_takeDown (by simp) (by simp)
  exact ⟨copy, hcopy.append_left fun e he => fruitless_of_request (h₁.asks hdown e he)⟩

theorem turn_of_handle (hin : isExempt c listed.name = false)
    (h : (handle c settings revision members listed).Run t r) : Turn revision listed t r := by
  unfold handle at h
  split at h
  · rcases run_replaceLeader h with ⟨-, h⟩ | ⟨follower, -, -, ⟨e, h₁, rfl⟩ | ⟨t₁, t₂, rfl, h₁, h₂⟩⟩
    · exact turn_of_replaceMember hin h
    · exact ⟨by simp [visits_transferLeadership h₁], by simp⟩
    · have hvisits := visits_transferLeadership h₁
      obtain ⟨hown, haccepts⟩ := turn_of_replaceMember hin h₂
      refine ⟨by simpa [hvisits] using hown, fun hr => ?_⟩
      obtain ⟨copy, hcopy⟩ := haccepts hr
      exact ⟨copy, hcopy.append_left (fruitless_of_visits (by simp [hvisits]))⟩
  · exact turn_of_replaceMember hin h

/-- **The turns of a rolling update.** Unless it never lists the pods or its opening fails, its
members have their turn one after the other, each after the one before accepted a copy. -/
theorem rollout_inTurn {workload : Workload} (h : (rollout c settings workload).Run t r) :
    (visits t = [] ∧ ∀ pods, ¬ Listed c pods t) ∨
      ∃ revision pods, workload.updateRevision? = some revision ∧
        ((∃ e, r = .error e ∧ removals t = [] ∧
            Opening c settings pods (membersOf c pods) t (.error e)) ∨
          ∃ opening rolling, t = opening ++ rolling ∧ removals opening = [] ∧
            Opening c settings pods (membersOf c pods) opening (.ok ()) ∧
            InTurn (Turn revision) (turns (membersOf c pods)) rolling r) := by
  rcases run_rollout h with hnone | ⟨revision, pods, gate, rest, hrev, rfl, hgate, hrun⟩
  · exact .inl hnone
  refine .inr ⟨revision, pods, hrev, ?_⟩
  rcases Procedure.run_bind.mp hrun with ⟨e, h₁, rfl⟩ | ⟨waits, rolling, _, rfl, h₁, h₂⟩
  · have hopening : Opening c settings pods (membersOf c pods)
        (gate ++ ⟨.list .pod c.selector, .ok pods⟩ :: rest) (.error e) := ⟨gate, rest, rfl, hgate, h₁⟩
    exact .inl ⟨e, rfl, removals_opening hopening, hopening⟩
  · have hopening : Opening c settings pods (membersOf c pods)
        (gate ++ ⟨.list .pod c.selector, .ok pods⟩ :: waits) (.ok ()) := ⟨gate, waits, rfl, hgate, h₁⟩
    refine .inr ⟨_, rolling, by simp, removals_opening hopening, hopening, ?_⟩
    refine (run_replaceMembers h₂).mono fun pod hpod t r hturn => turn_of_handle ?_ hturn
    exact (mem_membersOf.mp (mem_of_mem_turns hpod)).2

/-- The members of the group of two have their turn, the follower first. -/
theorem group_inTurn :
    ∃ opening rolling, groupTrace groupPods groupCopy = opening ++ rolling ∧
      removals opening = [] ∧ InTurn (Turn "b") groupPods.reverse rolling (.ok ()) := by
  have hrun : (rollout groupCluster {} groupWorkload).Run (groupTrace groupPods groupCopy) (.ok ()) :=
    Program.run_traceOf_of_eq _ (by decide +kernel)
  have hremovals : removals (groupTrace groupPods groupCopy) = ["sample-mysql-1", "sample-mysql-0"] := by
    decide +kernel
  have hturns : turns (membersOf groupCluster groupPods) = groupPods.reverse := rfl
  rcases rollout_inTurn hrun with
    ⟨hvisits, -⟩ | ⟨revision, pods, hrev, ⟨e, he, -⟩ | ⟨opening, rolling, ht, hnil, hopening, hinTurn⟩⟩
  · rw [removals_eq_nil_of_visits hvisits] at hremovals
    cases hremovals
  · cases he
  · obtain rfl : "b" = revision := Option.some.inj hrev
    obtain ⟨gate, waits, rfl, -⟩ := hopening
    have hlisted : Listed groupCluster pods (groupTrace groupPods groupCopy) := by
      rw [ht]
      simp [Listed]
    obtain rfl := listed_groupTrace hlisted
    exact ⟨_, rolling, ht, hnil, hturns ▸ hinTurn⟩

/-! ### A copy that is going -/

/-- A pod of the group: after the old one was removed, a new one that is going already. -/
def goingCopy (name : String) (removed : Bool) : Option Pod :=
  if removed then some { memberPod name "follower" "b" "z" with
    metadata := { (memberPod name "follower" "b" "z").metadata with deletedAt := some ⟨0, 0⟩ } }
  else groupPods.find? fun pod => pod.name == name

/-- A copy that is going is accepted: the leader is removed while the copy of the follower that came
back last, and that the update has waited for, is on its way out. -/
theorem exists_removal_while_going :
    ∃ before e after copy, groupTrace groupPods goingCopy = before ++ e :: after ∧
      e.request.removed? = some "sample-mysql-0" ∧ latestCopy? "sample-mysql-1" before = some copy ∧
      copy.metadata.isTerminating = true := by
  have hcopy : (latestCopy? "sample-mysql-1" ((groupTrace groupPods goingCopy).take 20)).map
      (fun copy => copy.metadata.isTerminating) = some true := by decide +kernel
  have hremoved : ((groupTrace groupPods goingCopy).drop 20).head?.bind
      (fun e => e.request.removed?) = some "sample-mysql-0" := by decide +kernel
  obtain ⟨e, after, ht, he⟩ := exists_split_of_removal hremoved
  obtain ⟨copy, hlatest, hgoing⟩ := Option.map_eq_some_iff.mp hcopy
  exact ⟨_, e, after, copy, ht, he, hlatest, hgoing⟩

end Topology

end RaftMysql
