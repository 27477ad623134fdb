import RaftMysql.Proofs.Topology.Turns
import RaftMysql.Simulation.Nowhere

/-!
# The trace of a rolling update

A rolling update opens with requests that remove nothing: it looks for backups, lists the pods and
waits for each member to be vouched for (`Topology.Opening`). Then the members have their turn one
after the other, and the first turn that fails is the last. `Topology.Orderly` is what that makes of
the whole trace, whatever is answered, and `Topology.rollout_orderly` that every trace is so.
-/

namespace RaftMysql

namespace Topology

variable {c : Cluster} {settings : Settings} {revision : String} {members : List Pod} {t : Trace}
  {r : Except Error Unit}

/-! ### The whole trace -/

theorem asks_waitHealthy {podName : String} :
    (waitHealthy settings podName).Asks (WaitRequest podName) := by
  refine Program.asks_bind ?_ fun outcome => ?_
  · refine Procedure.asks_poll .clock .sleep ?_
    exact Procedure.asks_bind (Program.asks_request .get) fun _ => Procedure.asks_pure _
  · split
    · exact Program.asks_pure _
    · exact Program.asks_pure _

theorem asks_forEach {P : Request → Prop} {f : Pod → Procedure Unit} {pods : List Pod}
    (hf : ∀ pod ∈ pods, (f pod).Asks P) : (forEach f pods).Asks P := by
  induction pods with
  | nil => exact Procedure.asks_pure _
  | cons pod pods ih =>
    refine Procedure.asks_bind (hf pod (by simp)) fun _ => ?_
    exact ih fun pod hpod => hf pod (List.mem_cons_of_mem _ hpod)

/-- The members of a listing have their turn once each of them was vouched for. -/
def rollMembers (settings : Settings) (c : Cluster) (revision : String) (members : List Pod) :
    Procedure Unit := do
  forEach (fun pod => waitHealthy settings pod.name) members
  replaceMembers c settings revision members

/-- What the turns of members may ask for. -/
inductive RollRequest (c : Cluster) (members : List Pod) : Request → Prop
  | replace {pod : Pod} {q : Request} (hpod : pod ∈ members) (h : ReplaceRequest pod.name q) :
    RollRequest c members q
  | transfer {leader : Pod} {follower : String} {q : Request}
    (hleader : leaderOf members = some leader) (h : TransferRequest c leader.name follower q) :
    RollRequest c members q

theorem RollRequest.visited? {q : Request} {name : String} (h : RollRequest c members q)
    (hname : q.visited? = some name) : ∃ pod ∈ members, pod.name = name := by
  cases h with
  | replace hpod h => exact ⟨_, hpod, (h.eq_of_visited? hname).symm⟩
  | transfer hleader h =>
    rw [h.visited?] at hname
    cases hname

theorem asks_replaceLeader {leader : Pod} {lastFollower : Option String}
    (hleader : leaderOf members = some leader) :
    (replaceLeader c settings revision leader lastFollower).Asks (RollRequest c members) := by
  have hreplace : (replaceMember c settings leader revision).Asks (RollRequest c members) :=
    asks_replaceMember.mono fun _ => .replace (List.mem_of_find?_eq_some hleader)
  unfold replaceLeader
  match lastFollower with
  | none => exact hreplace
  | some follower =>
    dsimp only
    split
    · exact Procedure.asks_bind (asks_transferLeadership.mono fun _ => .transfer hleader)
        fun _ => hreplace
    · exact hreplace

theorem asks_rollMembers :
    (rollMembers settings c revision members).Asks (RollRequest c members) := by
  refine Procedure.asks_bind (asks_forEach fun pod hpod => ?_) fun _ => ?_
  · exact asks_waitHealthy.mono fun _ h => .replace hpod (.wait h)
  · refine Procedure.asks_bind (asks_forEach fun pod hpod => ?_) fun _ => ?_
    · refine asks_replaceMember.mono fun _ => .replace ?_
      unfold followersOf at hpod
      split at hpod
      · exact List.mem_of_mem_filter hpod
      · exact hpod
    · split
      · rename_i hleader
        exact asks_replaceLeader hleader
      · exact Procedure.asks_pure _

theorem asks_refuseBackup : (refuseBackup c).Asks (· = .list .backup []) := by
  refine Procedure.asks_bind (Program.asks_request rfl) fun backups => ?_
  split
  · exact Procedure.asks_throw _
  · exact Procedure.asks_pure _

/-- A rolling update asks for backups, for pods and for what the turns of members ask for. -/
theorem asks_rollout {P : Request → Prop} {workload : Workload} (hbackup : P (.list .backup []))
    (hlist : P (.list .pod c.selector))
    (hroll : ∀ pods q, RollRequest c (membersOf c pods) q → P q) :
    (rollout c settings workload).Asks P := by
  have hgate : (refuseBackup c).Asks P := asks_refuseBackup.mono fun q hq => hq ▸ hbackup
  unfold rollout
  split
  · exact Procedure.asks_pure _
  split
  · exact Procedure.asks_pure _
  · refine Procedure.asks_bind hgate fun _ => ?_
    refine Procedure.asks_bind (Program.asks_request hlist) fun pods => ?_
    exact Procedure.Asks.mono asks_rollMembers (hroll pods)

/-- The listing of the pods came back with these. -/
def Listed (c : Cluster) (pods : List Pod) (t : Trace) : Prop :=
  (⟨.list .pod c.selector, .ok pods⟩ : Event) ∈ t

/-- Nothing was asked for but the backups. -/
def Gate (t : Trace) : Prop := ∀ e ∈ t, e.request = .list .backup []

theorem visits_gate (h : Gate t) : visits t = [] :=
  visits_eq_nil fun e he => by rw [h e he]; rfl

/-- The ways in which a rolling update can begin, by its trace and outcome: only with enough ready
members, a revision, no running backup and a listing of the pods do the members have their turn. -/
inductive Enters (c : Cluster) (settings : Settings) (workload : Workload) :
    Trace → Except Error Unit → Prop
  | deferred (h : workload.readyReplicas < c.replicas ∨ workload.updateRevision? = none) :
    Enters c settings workload [] (.ok ())
  | unlooked {e : Error} : Enters c settings workload [⟨.list .backup [], .error e⟩] (.error e)
  | refused {backups : List Backup} (h : backups.any (·.isRunningFor c.name) = true) :
    Enters c settings workload [⟨.list .backup [], .ok backups⟩] (.error (.backupRunning c.name))
  | unlisted {backups : List Backup} {e : Error}
    (h : backups.any (·.isRunningFor c.name) = false) :
    Enters c settings workload
      [⟨.list .backup [], .ok backups⟩, ⟨.list .pod c.selector, .error e⟩] (.error e)
  | rolls {revision : String} {backups : List Backup} {pods : List Pod} {rest : Trace}
    {r : Except Error Unit} (hready : c.replicas ≤ workload.readyReplicas)
    (hrevision : workload.updateRevision? = some revision)
    (h : backups.any (·.isRunningFor c.name) = false)
    (hrun : (rollMembers settings c revision (membersOf c pods)).Run rest r) :
    Enters c settings workload
      (⟨.list .backup [], .ok backups⟩ :: ⟨.list .pod c.selector, .ok pods⟩ :: rest) r

theorem run_refuseBackup (h : (refuseBackup c).Run t r) :
    (∃ e, t = [⟨.list .backup [], .error e⟩] ∧ r = .error e) ∨
      ∃ backups : List Backup, t = [⟨.list .backup [], .ok backups⟩] ∧
        r = if backups.any (·.isRunningFor c.name) then .error (.backupRunning c.name) else .ok () := by
  rcases Procedure.run_bind.mp h with ⟨e, h₁, rfl⟩ | ⟨t₁, t₂, backups, rfl, h₁, h₂⟩
  · obtain rfl := Store.run_list.mp h₁
    exact .inl ⟨e, rfl, rfl⟩
  · obtain rfl := Store.run_list.mp h₁
    refine .inr ⟨backups, ?_⟩
    split at h₂ <;> rename_i hrunning
    · obtain ⟨rfl, rfl⟩ := Procedure.run_throw.mp h₂
      exact ⟨rfl, (if_pos hrunning).symm⟩
    · obtain ⟨rfl, rfl⟩ := Procedure.run_pure.mp h₂
      exact ⟨rfl, (if_neg hrunning).symm⟩

/-- **The ways in which a rolling update can begin** are all there are. -/
theorem enters_of_run {workload : Workload} (h : (rollout c settings workload).Run t r) :
    Enters c settings workload t r := by
  unfold rollout at h
  split at h <;> rename_i hready
  · obtain ⟨rfl, rfl⟩ := Procedure.run_pure.mp h
    exact .deferred (.inl hready)
  split at h <;> rename_i hrevision
  · obtain ⟨rfl, rfl⟩ := Procedure.run_pure.mp h
    exact .deferred (.inr hrevision)
  rcases Procedure.run_bind.mp h with ⟨e, h₁, rfl⟩ | ⟨t₁, t₂, _, rfl, h₁, h₂⟩
  · rcases run_refuseBackup h₁ with ⟨e', rfl, he⟩ | ⟨backups, rfl, he⟩
    · obtain rfl := Except.error.inj he
      exact .unlooked
    · split at he <;> rename_i hrunning
      · obtain rfl := Except.error.inj he
        exact .refused hrunning
      · cases he
  · rcases run_refuseBackup h₁ with ⟨e', -, he⟩ | ⟨backups, rfl, he⟩
    · cases he
    split at he <;> rename_i hrunning
    · cases he
    have hidle : backups.any (·.isRunningFor c.name) = false := by simpa using hrunning
    rcases Procedure.run_bind.mp h₂ with ⟨e, h₃, rfl⟩ | ⟨t₃, t₄, pods, rfl, h₃, h₄⟩
    · obtain rfl := Store.run_list.mp h₃
      exact .unlisted hidle
    · obtain rfl := Store.run_list.mp h₃
      exact .rolls (not_lt.mp hready) hrevision hidle h₄

/-- Only backups are looked for before the pods are listed. -/
theorem run_rollout {workload : Workload} (h : (rollout c settings workload).Run t r) :
    (visits t = [] ∧ ∀ pods, ¬ Listed c pods t) ∨
      ∃ revision pods gate rest, workload.updateRevision? = some revision ∧
        t = gate ++ ⟨.list .pod c.selector, .ok pods⟩ :: rest ∧ Gate gate ∧
        (rollMembers settings c revision (membersOf c pods)).Run rest r := by
  cases enters_of_run h with
  | deferred | unlooked | refused | unlisted => exact .inl ⟨rfl, by simp [Listed]⟩
  | @rolls revision backups pods rest r hready hrevision hidle hrun =>
    exact .inr ⟨revision, pods, [⟨.list .backup [], .ok backups⟩], rest, hrevision, rfl,
      List.forall_mem_singleton.mpr rfl, hrun⟩

/-- The opening of a rolling update: backups are looked for, the pods are listed, and then each of the
members is waited for until it is vouched for. -/
def Opening (c : Cluster) (settings : Settings) (pods members : List Pod) (t : Trace)
    (r : Except Error Unit) : Prop :=
  ∃ gate waits, t = gate ++ ⟨.list .pod c.selector, .ok pods⟩ :: waits ∧ Gate gate ∧
    (forEach (fun pod => waitHealthy settings pod.name) members).Run waits r

/-- The trace of a rolling update that gives the members of a listing their turn. -/
structure Orderly (c : Cluster) (settings : Settings) (revision : String) (pods members : List Pod)
    (t : Trace) (r : Except Error Unit) : Prop where
  /-- After an opening that removes nothing only members are visited, each when the earlier ones are
  confirmed and none of the later ones has been visited. If the opening fails, so does the update. -/
  inOrder : ∃ opening rolling outcome, t = opening ++ rolling ∧
    Opening c settings pods members opening outcome ∧ removals opening = [] ∧
    (outcome = .ok () ∨ rolling = [] ∧ r = outcome) ∧
    ∀ {before after : Trace} {e : Event} {name : String}, rolling = before ++ e :: after →
      e.request.visited? = some name →
        ∃ earlier pod later, turns members = earlier ++ pod :: later ∧ pod.name = name ∧
          (∀ m ∈ earlier, Confirmed revision m before) ∧ ∀ m ∈ later, m.name ∉ visits before
  /-- A pod is removed only when it is due and all earlier ones are confirmed. -/
  removed : ∀ {before after : Trace} {e : Event} {name : String}, t = before ++ e :: after →
    e.request.removed? = some name →
      ∃ earlier pod later, turns members = earlier ++ pod :: later ∧ pod.name = name ∧
        isDue revision pod = true ∧ ∀ m ∈ earlier, Confirmed revision m before
  /-- The leader is removed only when the last follower was confirmed and took over from it. -/
  handedOver : ∀ {before after : Trace} {e : Event} {leader follower : Pod},
    t = before ++ e :: after → leaderOf members = some leader →
      (followersOf members).getLast? = some follower → e.request.removed? = some leader.name →
        ∃ u v, before = u ++ v ∧ Confirmed revision follower u ∧
          HandedOver c leader.name follower.name v
  /-- The pods that are removed are those that were due when listed, in the order of their turns and
  up to the end of the update; none of them is removed twice. -/
  planned : removals t <+: ((turns members).filter (isDue revision)).map Manifest.name ∧
    (r = .ok () → removals t = ((turns members).filter (isDue revision)).map Manifest.name)
  once : (removals t).Nodup
  /-- A transfer or a replacement that fails ends the update with its error: no later pod is removed,
  and neither is a leader that was not handed over. -/
  stops : ∀ {error : Error}, r = .error error → removals t = [] ∨
    ∃ earlier pod later before own, turns members = earlier ++ pod :: later ∧ t = before ++ own ∧
      (∀ m ∈ later, m.name ∉ removals t) ∧
      ((pod.name ∉ removals t ∧ ∃ follower,
        (transferLeadership c settings pod.name follower).Run own (.error error)) ∨
      (replaceMember c settings pod revision).Run own (.error error))
  /-- An update that ends well has confirmed every member. -/
  completed : r = .ok () → ∀ m ∈ members, Confirmed revision m t

theorem removals_of_waits
    (h : (forEach (fun pod => waitHealthy settings pod.name) members).Run t r) : removals t = [] :=
  removals_eq_nil (h.asks (asks_forEach fun _ _ =>
    asks_waitHealthy.mono fun _ => WaitRequest.removed?))

theorem removals_opening {pods : List Pod} (h : Opening c settings pods members t r) :
    removals t = [] := by
  obtain ⟨gate, waits, rfl, hgate, hwaits⟩ := h
  have hnil := removals_of_waits hwaits
  rw [removals_append, removals_eq_nil_of_visits (visits_gate hgate), List.nil_append]
  exact hnil

theorem orderly_of_opening {pods : List Pod} {e : Error}
    (h : Opening c settings pods members t (.error e)) :
    Orderly c settings revision pods members t (.error e) where
  inOrder := ⟨t, [], _, by simp, h, removals_opening h, .inr ⟨rfl, rfl⟩,
    fun {before after e name} h => by cases before <;> cases h⟩
  removed {before after e name} ht he := by
    subst ht
    have hmem := mem_removals_of_event he before after
    rw [removals_opening h] at hmem
    cases hmem
  handedOver {before after e leader follower} ht _ _ he := by
    subst ht
    have hmem := mem_removals_of_event he before after
    rw [removals_opening h] at hmem
    cases hmem
  planned := by rw [removals_opening h]; exact ⟨List.nil_prefix, by simp⟩
  once := by rw [removals_opening h]; exact List.nodup_nil
  stops _ := .inl (removals_opening h)
  completed h := by cases h

theorem handled_of_inTurn {order : List Pod} (hin : ∀ pod ∈ order, isExempt c pod.name = false)
    (h : InTurn (fun pod => (handle c settings revision members pod).Run) order t r) :
    InTurn (Handled c revision members) order t r :=
  h.mono fun pod hpod _ _ hrun => run_handle (hin pod hpod) hrun

/-- When the leader is removed, the last follower is confirmed and took over from it after that. -/
theorem handedOver_of_inTurn (hnodup : ((turns members).map Manifest.name).Nodup)
    (h : InTurn (Handled c revision members) (turns members) t r) {before after : Trace} {e : Event}
    {leader follower : Pod} (ht : t = before ++ e :: after) (hleader : leaderOf members = some leader)
    (hfollower : (followersOf members).getLast? = some follower)
    (hname : e.request.removed? = some leader.name) :
    ∃ u v, before = u ++ v ∧ Confirmed revision follower u ∧
      HandedOver c leader.name follower.name v := by
  subst ht
  obtain ⟨earlier, pod, later, u, v, w, r', horder, hpodname, rfl, hdone, -, hpod⟩ :=
    turn_of_visit h hnodup (Request.visited?_of_removed? hname)
  have hlast : turns members = followersOf members ++ [leader] := by
    unfold turns
    rw [hleader]
    rfl
  obtain ⟨rfl, rfl, -⟩ := split_unique (hlast ▸ hnodup) (hlast.symm.trans horder) hpodname.symm
  refine ⟨u, v, rfl, ?_, hpod.handedOver rfl hname hleader hfollower⟩
  exact (hdone follower (List.mem_of_getLast? hfollower)).1

/-- The turn that fails is the last: what it failed with is the error of all turns, and no pod of a
later turn is removed. -/
theorem failed_of_inTurn {order : List Pod} {error : Error}
    (hnodup : (order.map Manifest.name).Nodup) (hin : ∀ pod ∈ order, isExempt c pod.name = false)
    (h : InTurn (fun pod => (handle c settings revision members pod).Run) order t (.error error)) :
    ∃ earlier pod later before own, order = earlier ++ pod :: later ∧ t = before ++ own ∧
      (∀ m ∈ later, m.name ∉ removals t) ∧
      ((pod.name ∉ removals t ∧ ∃ follower,
        (transferLeadership c settings pod.name follower).Run own (.error error)) ∨
      (replaceMember c settings pod revision).Run own (.error error)) := by
  obtain ⟨earlier, pod, later, before, own, rfl, rfl, hdone, hlast⟩ := h.last
  rw [List.map_append, List.map_cons] at hnodup
  obtain ⟨-, hrest, hdisjoint⟩ := List.nodup_append.mp hnodup
  have hbefore : ∀ m ∈ pod :: later, m.name ∉ removals before := by
    intro m hm hremoved
    have hhandled := handled_of_inTurn (fun p hp => hin p (List.mem_append_left _ hp)) hdone
    obtain ⟨p, hp, heq⟩ := visits_inTurn hhandled Handled.visits_eq
      (mem_visits_of_mem_removals hremoved)
    exact hdisjoint _ (List.mem_map_of_mem hp) _ (List.mem_map_of_mem hm) heq
  have hlater : ∀ m ∈ later, m.name ∉ removals (before ++ own) := by
    intro m hm hremoved
    rw [removals_append, List.mem_append] at hremoved
    rcases hremoved with hremoved | hremoved
    · exact hbefore m (List.mem_cons_of_mem _ hm) hremoved
    · have hown := (run_handle (hin pod (by simp)) hlast).visits_eq _
        (mem_visits_of_mem_removals hremoved)
      exact (List.nodup_cons.mp hrest).1 (hown ▸ List.mem_map_of_mem hm)
  rcases run_handle_error hlast with ⟨follower, htransfer⟩ | ⟨t₁, t₂, rfl, hreplace⟩
  · refine ⟨earlier, pod, later, before, own, rfl, rfl, hlater, .inl ⟨?_, follower, htransfer⟩⟩
    rw [removals_append, removals_eq_nil_of_visits (visits_transferLeadership htransfer),
      List.append_nil]
    exact hbefore pod List.mem_cons_self
  · exact ⟨earlier, pod, later, before ++ t₁, t₂, rfl, by simp, hlater, .inr hreplace⟩

/-- An update is orderly when its members have their turn after the opening. -/
theorem orderly_of_inTurn {pods : List Pod} {opening rolling : Trace}
    (hnodup : (members.map Manifest.name).Nodup)
    (hin : ∀ pod ∈ members, isExempt c pod.name = false)
    (hopened : Opening c settings pods members opening (.ok ()))
    (h : InTurn (fun pod => (handle c settings revision members pod).Run) (turns members)
      rolling r) :
    Orderly c settings revision pods members (opening ++ rolling) r := by
  have hopening := removals_opening hopened
  have hnodupTurns := nodup_turns hnodup
  have hinTurns : ∀ pod ∈ turns members, isExempt c pod.name = false :=
    fun pod hpod => hin pod ((mem_turns hnodup).mp hpod)
  have hturns := handled_of_inTurn hinTurns h
  have hremovals : removals (opening ++ rolling) = removals rolling := by
    rw [removals_append, hopening, List.nil_append]
  refine ⟨⟨opening, rolling, _, rfl, hopened, hopening, .inl rfl, ?_⟩, ?_, ?_, ?_, ?_, ?_, ?_⟩
  · rintro before after e name rfl hname
    obtain ⟨earlier, pod, later, u, v, w, r', horder, hpodname, rfl, hdone, hnot, -⟩ :=
      turn_of_visit hturns hnodupTurns hname
    exact ⟨earlier, pod, later, horder, hpodname,
      fun m hm => (hdone m hm).1.append_right (hdone m hm).2, hnot⟩
  · intro before after e name ht hname
    obtain ⟨b, rfl, rfl⟩ := exists_append_of_removal hopening ht hname
    obtain ⟨earlier, pod, later, u, v, w, r', horder, rfl, rfl, hdone, -, hpod⟩ :=
      turn_of_visit hturns hnodupTurns (Request.visited?_of_removed? hname)
    exact ⟨earlier, pod, later, horder, rfl, hpod.isDue_of_removed hname,
      fun m hm => ((hdone m hm).1.append_right (hdone m hm).2).append_left opening⟩
  · intro before after e leader follower ht hleader hfollower hname
    obtain ⟨b, rfl, hb⟩ := exists_append_of_removal hopening ht hname
    obtain ⟨u, v, rfl, hconfirmed, hover⟩ :=
      handedOver_of_inTurn hnodupTurns hturns hb hleader hfollower hname
    exact ⟨opening ++ u, v, by simp, hconfirmed.append_left opening, hover⟩
  · rw [hremovals]
    exact removals_inTurn hturns
  · rw [hremovals]
    exact hnodupTurns.sublist
      ((removals_inTurn hturns).1.sublist.trans (List.filter_sublist.map _))
  · rintro error rfl
    obtain ⟨earlier, pod, later, before, own, horder, rfl, hlater, hfailed⟩ :=
      failed_of_inTurn hnodupTurns hinTurns h
    rw [← hremovals] at hlater hfailed
    exact .inr ⟨earlier, pod, later, opening ++ before, own, horder, by simp, hlater, hfailed⟩
  · rintro rfl m hm
    exact (confirmed_inTurn hturns hnodupTurns ((mem_turns hnodup).mpr hm)).append_left opening

/-- Unless the pods are never listed, those that are not exempt have their turns. -/
theorem orderly_of_run {workload : Workload} (h : (rollout c settings workload).Run t r)
    (hnodup : ∀ pods, Listed c pods t → (pods.map Manifest.name).Nodup) :
    (visits t = [] ∧ ∀ pods, ¬ Listed c pods t) ∨
      ∃ revision pods gate rest, workload.updateRevision? = some revision ∧
        t = gate ++ ⟨.list .pod c.selector, .ok pods⟩ :: rest ∧ Gate gate ∧
        (rollMembers settings c revision (membersOf c pods)).Run rest r ∧
        Orderly c settings revision pods (membersOf c pods) t r := by
  rcases run_rollout h with hnone | ⟨revision, pods, gate, rest, hrev, rfl, hgate, hrun⟩
  · exact .inl hnone
  · refine .inr ⟨revision, pods, gate, rest, hrev, rfl, hgate, hrun, ?_⟩
    rcases Procedure.run_bind.mp hrun with ⟨e, h₁, rfl⟩ | ⟨waits, rolling, _, rfl, h₁, h₂⟩
    · exact orderly_of_opening ⟨gate, rest, rfl, hgate, h₁⟩
    · rw [← List.cons_append, ← List.append_assoc]
      exact orderly_of_inTurn (nodup_membersOf (hnodup pods (by simp [Listed])))
        (fun pod hpod => (mem_membersOf.mp hpod).2) ⟨gate, waits, rfl, hgate, h₁⟩
        (run_replaceMembers h₂)

/-- **The trace of a rolling update.** Unless the pods were never listed, the listed ones that are
not exempt have their turn in ascending order, the first that is labelled leader last. -/
theorem rollout_orderly {workload : Workload} (h : (rollout c settings workload).Run t r)
    (hnodup : ∀ pods, Listed c pods t → (pods.map Manifest.name).Nodup) :
    (removals t = [] ∧ ∀ pods, ¬ Listed c pods t) ∨
      ∃ revision pods members, workload.updateRevision? = some revision ∧ Listed c pods t ∧
        members.Perm (pods.filter fun pod => !isExempt c pod.name) ∧ members.Pairwise PodLe ∧
        Orderly c settings revision pods members t r := by
  rcases orderly_of_run h hnodup with
    ⟨hvisits, hnone⟩ | ⟨revision, pods, gate, rest, hrev, rfl, -, -, horderly⟩
  · exact .inl ⟨removals_eq_nil_of_visits hvisits, hnone⟩
  · exact .inr ⟨revision, pods, membersOf c pods, hrev, by simp [Listed], membersOf_perm,
      membersOf_ascending, horderly⟩

/-! ### A group of two -/

/-- A member pod of the group of two. -/
def memberPod (name role revision uid : String) : Pod where
  metadata :=
    { name := some name
      uid := some uid
      labels := some [("controller-revision-hash", revision), ("healthy", "yes"), ("role", role)] }

/-- The secret of the group of two. -/
def groupSecret : Manifest where
  body := .object [("stringData", .object [("operator-password", .text "p"),
    ("operator-user", .text "u"), ("root-password", .text "r")])]

/-- What answers for the group of two: its pods as they were listed, each pod by its name and whether
it was removed, and servers that agree to everything. -/
def groupAnswer (listed : List Pod) (copy : String → Bool → Option Pod) :
    (q : Request) → List String → q.Answer × List String
  | .list .pod _, removed => (.ok listed, removed)
  | .list .backup _, removed => (.ok [], removed)
  | .get .pod name, removed => (.ok (copy name (removed.contains name)), removed)
  | .get .secret _, removed => (.ok (some groupSecret), removed)
  | .delete .pod name _, removed => (.ok (), name :: removed)
  | .connect login, removed => (.ok ⟨login.host, 0⟩, removed)
  | .execute .., removed => (.ok (), removed)
  | .query .., removed => (.ok [[("State", some sentState)]], removed)
  | .agent _ _ .view, removed => (.ok { state := "LEADER" }, removed)
  | q, removed => ((Simulation.Nowhere.answer q { now := ⟨0, 0⟩ }).1, removed)

/-- The cluster of the group of two. -/
def groupCluster : Cluster where
  metadata := { name := some "sample" }
  spec := { replicas := 2 }

/-- Its workload, both of whose pods should be moved to the second revision. -/
def groupWorkload : Workload where
  body := .object [("status", .object [("readyReplicas", .int 2), ("updateRevision", .text "b")])]

/-- Its pods when they are listed. -/
def groupPods : List Pod :=
  [memberPod "sample-mysql-0" "leader" "a" "x", memberPod "sample-mysql-1" "follower" "a" "y"]

/-- A pod of the group: a new one after the old one was removed. -/
def groupCopy (name : String) (removed : Bool) : Option Pod :=
  if removed then some (memberPod name "follower" "b" "z")
  else groupPods.find? fun pod => pod.name == name

/-- The trace of the rolling update of the group of two. -/
def groupTrace (listed : List Pod) (copy : String → Bool → Option Pod) : Trace :=
  (rollout groupCluster {} groupWorkload).outcome.traceOf (groupAnswer listed copy) []

theorem run_groupTrace (listed : List Pod) (copy : String → Bool → Option Pod) :
    ∃ r, (rollout groupCluster {} groupWorkload).Run (groupTrace listed copy) r :=
  ⟨_, Program.run_traceOf _ _ _⟩

theorem listed_groupTrace {listed pods : List Pod} {copy : String → Bool → Option Pod}
    (h : Listed groupCluster pods (groupTrace listed copy)) : pods = listed := by
  obtain ⟨removed, heq⟩ := Program.exists_of_mem_traceOf _ h
  exact Except.ok.inj heq

/-- The group of two is updated in order: the follower, and then the leader after a transfer. -/
theorem group_orderly :
    removals (groupTrace groupPods groupCopy) = ["sample-mysql-1", "sample-mysql-0"] ∧
      ∃ revision pods members r, Listed groupCluster pods (groupTrace groupPods groupCopy) ∧
        Orderly groupCluster {} revision pods members (groupTrace groupPods groupCopy) r := by
  have hremovals : removals (groupTrace groupPods groupCopy) = ["sample-mysql-1", "sample-mysql-0"] := by
    decide +kernel
  obtain ⟨r, hrun⟩ := run_groupTrace groupPods groupCopy
  refine ⟨hremovals, ?_⟩
  rcases rollout_orderly hrun fun pods h => by rw [listed_groupTrace h]; decide with
    ⟨hnil, -⟩ | ⟨revision, pods, members, -, hlisted, -, -, horderly⟩
  · rw [hremovals] at hnil
    cases hnil
  · exact ⟨revision, pods, members, r, hlisted, horderly⟩

/-- The pods of the group of two when the follower is at the revision and going. -/
def goingPods : List Pod :=
  groupPods.take 1 ++ [{ memberPod "sample-mysql-1" "follower" "b" "y" with
    metadata := { (memberPod "sample-mysql-1" "follower" "b" "y").metadata with deletedAt := some ⟨0, 0⟩ } }]

/-- A pod that is at the revision and going when it is listed is not waited for: the leader is removed
while the follower is still the listed pod. -/
theorem exists_removal_before_replacement :
    ∃ before e after, groupTrace goingPods (fun name _ => goingPods.find? (·.name == name)) =
        before ++ e :: after ∧ e.request.removed? = some "sample-mysql-0" ∧
      (before.filterMap (Event.copy? "sample-mysql-1")).all (fun copy => copy.metadata.isTerminating &&
        copy.metadata.uid == some "y") = true := by
  have hremoved : ((groupTrace goingPods fun name _ =>
      goingPods.find? (·.name == name)).drop 18).head?.bind (fun e => e.request.removed?) =
        some "sample-mysql-0" := by decide +kernel
  obtain ⟨e, after, ht, he⟩ := exists_split_of_removal hremoved
  exact ⟨_, e, after, ht, he, by decide +kernel⟩

end Topology

end RaftMysql
