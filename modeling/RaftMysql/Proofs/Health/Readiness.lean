import RaftMysql.Proofs.Health.Headcount
import RaftMysql.Proofs.Health.Labelling

/-!
# Who decides whether a group is ready

A group is ready by the entries of the members that the cluster should have (`Cluster.isRaftReady_iff`).
Entries of other hosts have no part in it, and neither has the order of the entries
(`Cluster.SameMembers.isRaftReady_eq`). Nor have they any part in what a pass proposes: `Health.derive` is a
pass up to its proposal, and with the same answers it comes to the same one whatever is recorded of other
hosts (`Health.readiness_of_members`).
-/

namespace RaftMysql

/-! ### Roles -/

namespace Node

variable {n : Node}

theorem role_eq_leader_iff : n.role = .leader ↔ n.consensus.role = "LEADER" := by
  unfold role Role.ofName
  split_ifs with h <;> simp [h]

theorem role_eq_follower_iff : n.role = .follower ↔ n.consensus.role = "FOLLOWER" := by
  unfold role Role.ofName
  split_ifs with h h' <;> simp_all

end Node

namespace Status

variable {nodes : List Node}

theorem countRole_pos_iff {role : Role} : 0 < countRole nodes role ↔ ∃ n ∈ nodes, n.role = role := by
  unfold countRole
  rw [List.length_pos_iff_exists_mem]
  simp [List.mem_filter]

theorem quorum_iff : quorum nodes = true ↔
    (∃ n, nodes.filter (fun n => n.consensus.role = "LEADER") = [n]) ∧
      ∃ n ∈ nodes, n.consensus.role = "FOLLOWER" := by
  have hleader : (nodes.filter fun n => n.consensus.role = "LEADER") =
      nodes.filter fun n => n.role == .leader :=
    List.filter_congr fun n _ => by rw [Bool.eq_iff_iff]; simp [Node.role_eq_leader_iff]
  have hfollower : 0 < countRole nodes .follower ↔ _ := countRole_pos_iff
  simp only [Node.role_eq_follower_iff] at hfollower
  unfold quorum
  rw [hleader, ← List.length_eq_one_iff, ← hfollower, Bool.and_eq_true, beq_iff_eq, decide_eq_true_iff]
  show countRole nodes .leader = 1 ∧ _ ↔ countRole nodes .leader = 1 ∧ _
  constructor
  · rintro ⟨hone, htwo⟩
    exact ⟨hone, by omega⟩
  · rintro ⟨hone, hpos⟩
    exact ⟨hone, by omega⟩

end Status

/-! ### The entries of members -/

namespace Cluster

variable {c : Cluster} {nodes nodes' : List Node} {host : String} {now : Time}

/-- **When a group is ready**: its single member leads, or else just one of its members leads and another
follows. -/
theorem isRaftReady_iff : c.isRaftReady nodes = true ↔
    (c.replicas = 1 ∧ ∃ n, c.currentNodes nodes = [n] ∧ n.consensus.role = "LEADER") ∨
      (c.replicas ≠ 1 ∧
        (∃ n, (c.currentNodes nodes).filter (fun n => n.consensus.role = "LEADER") = [n]) ∧
        ∃ n ∈ c.currentNodes nodes, n.consensus.role = "FOLLOWER") := by
  unfold isRaftReady
  split <;> rename_i hone
  · split <;> rename_i hnodes
    · simp [hone, hnodes, Node.role_eq_leader_iff]
    · simp only [Bool.false_eq_true, hone, true_and, ne_eq, not_true_eq_false, false_and, or_false,
        false_iff]
      rintro ⟨n, hn, -⟩
      exact hnodes n hn
  · simp [hone, Status.quorum_iff]

/-- Both lists have every entry of a member equally often, whatever else they have and in whatever order. -/
def SameMembers (c : Cluster) (nodes nodes' : List Node) : Prop :=
  ∀ n, n.name ∈ c.hosts → nodes.count n = nodes'.count n

theorem SameMembers.perm (h : c.SameMembers nodes nodes') :
    (c.currentNodes nodes).Perm (c.currentNodes nodes') := by
  refine List.perm_iff_count.mpr fun n => ?_
  unfold currentNodes
  by_cases hn : n.name ∈ c.hosts
  · rw [List.count_filter (by simpa using hn), List.count_filter (by simpa using hn), h n hn]
  · have hnot : ∀ nodes : List Node, n ∉ nodes.filter fun n => c.hosts.contains n.name := fun nodes hmem =>
      hn (by simpa using (List.mem_filter.mp hmem).2)
    rw [List.count_eq_zero_of_not_mem (hnot _), List.count_eq_zero_of_not_mem (hnot _)]

/-- **Only members decide** whether a group is ready, and in whatever order they are listed. -/
theorem SameMembers.isRaftReady_eq (h : c.SameMembers nodes nodes') :
    c.isRaftReady nodes' = c.isRaftReady nodes := by
  have hperm := h.perm.symm
  have hleaders := hperm.filter fun n => n.consensus.role = "LEADER"
  rw [Bool.eq_iff_iff, isRaftReady_iff, isRaftReady_iff]
  simp only [← List.perm_singleton, hperm.mem_iff, hperm.congr_left, hleaders.congr_left]

theorem currentNodes_withNode : c.currentNodes (Status.withNode nodes host now) =
    if host ∈ c.hosts then Status.withNode (c.currentNodes nodes) host now else c.currentNodes nodes := by
  unfold Status.withNode
  by_cases hhost : host ∈ c.hosts
  · have hany : ((c.currentNodes nodes).any fun n => n.name == host) =
        nodes.any fun n => n.name == host := by
      unfold currentNodes
      rw [Bool.eq_iff_iff, List.any_eq_true, List.any_eq_true]
      simp only [List.mem_filter, List.contains_iff_mem, beq_iff_eq]
      exact ⟨fun ⟨n, ⟨hn, _⟩, heq⟩ => ⟨n, hn, heq⟩, fun ⟨n, hn, heq⟩ => ⟨n, ⟨hn, heq ▸ hhost⟩, heq⟩⟩
    rw [if_pos hhost, hany]
    split
    · rfl
    · simp [currentNodes, Node.unknown, hhost]
  · rw [if_neg hhost]
    split
    · rfl
    · simp [currentNodes, Node.unknown, hhost]

theorem currentNodes_cons (n : Node) : c.currentNodes (n :: nodes) =
    if n.name ∈ c.hosts then n :: c.currentNodes nodes else c.currentNodes nodes := by
  unfold currentNodes
  by_cases hn : n.name ∈ c.hosts <;> simp [hn]

/-- A change to the entry of a host is one to the entry of a member or of none. -/
theorem currentNodes_updateFirst {change : Node → Node} (hchange : ∀ n, (change n).name = n.name) :
    c.currentNodes (Status.updateFirst nodes host change) =
      if host ∈ c.hosts then Status.updateFirst (c.currentNodes nodes) host change
      else c.currentNodes nodes := by
  induction nodes with
  | nil => split <;> rfl
  | cons n nodes ih =>
    rw [Status.updateFirst, currentNodes_cons]
    by_cases hname : n.name = host
    · subst hname
      rw [if_pos (beq_self_eq_true _), currentNodes_cons, hchange]
      split
      · rw [Status.updateFirst, if_pos (beq_self_eq_true _)]
      · rfl
    · have hbeq : ¬ (n.name == host) = true := by simpa using hname
      rw [if_neg hbeq, currentNodes_cons, ih]
      split
      · split
        · rw [Status.updateFirst, if_neg hbeq]
        · rfl
      · rfl

/-- The statuses are the same, but for the entries of hosts that are no members. -/
def SameButOthers (c : Cluster) (status status' : Status) : Prop :=
  ∃ nodes, status' = { status with nodes := nodes } ∧ c.currentNodes nodes = c.currentNodes status.nodes

/-- What is recorded of a host leaves such statuses the same. -/
theorem SameButOthers.updateNode {status status' : Status} {change : Node → Node}
    (h : c.SameButOthers status status') (hchange : ∀ n, (change n).name = n.name) :
    c.SameButOthers (status.updateNode host now change) (status'.updateNode host now change) := by
  obtain ⟨nodes, rfl, hnodes⟩ := h
  refine ⟨_, rfl, ?_⟩
  unfold Status.updateNode
  dsimp only
  rw [currentNodes_updateFirst hchange, currentNodes_updateFirst hchange, currentNodes_withNode,
    currentNodes_withNode, hnodes]

theorem SameButOthers.sameMembers {status status' : Status} (h : c.SameButOthers status status') :
    c.SameMembers status.nodes status'.nodes := by
  obtain ⟨nodes, rfl, hnodes⟩ := h
  intro n hn
  have hcount : ∀ nodes : List Node, (c.currentNodes nodes).count n = nodes.count n := fun nodes =>
    List.count_filter (by simpa using hn)
  rw [← hcount, ← hcount nodes, hnodes]

end Cluster

namespace Health

variable {c : Cluster} {settings : Settings} {credentials : Credentials} {now : Time}
  {status status' before before' after : Status} {pod : Pod} {pods : List Pod} {t : Trace} {x : Proposal}

/-! ### Looks -/

/-- A look at the member in a pod up to what it records: the pod is labelled by what was found. -/
def examine (c : Cluster) (settings : Settings) (credentials : Credentials) (pod : Pod) :
    Program Report := do
  let moving ← Program.request (.inHandoff c.key)
  let report ← Member.probe credentials settings.probe (c.hostOf pod.name) !moving
  labelPod pod report.role report.vouches
  return report

theorem lookAt_eq : lookAt c settings credentials now status pod = (do
    let report ← examine c settings credentials pod
    return status.updateNode (c.hostOf pod.name) now fun node => node.record report now) := by
  simp only [lookAt, examine, isHealthy_updateNode, bind_assoc, pure_bind]

theorem run_lookAtAll_of_sameButOthers
    (h : Program.Run (lookAtAll c settings credentials now before pods) t after)
    (hsame : c.SameButOthers before before') :
    ∃ after', Program.Run (lookAtAll c settings credentials now before' pods) t after' ∧
      c.SameButOthers after after' := by
  induction pods generalizing before before' t with
  | nil =>
    obtain ⟨rfl, rfl⟩ := Program.run_pure.mp h
    exact ⟨before', Program.run_pure.mpr ⟨rfl, rfl⟩, hsame⟩
  | cons pod pods ih =>
    obtain ⟨t₁, t₂, status, rfl, h₁, h₂⟩ := Program.run_bind.mp h
    rw [lookAt_eq] at h₁
    obtain ⟨t₃, t₄, report, rfl, h₃, h₄⟩ := Program.run_bind.mp h₁
    obtain ⟨rfl, rfl⟩ := Program.run_pure.mp h₄
    obtain ⟨after', hrun, hafter⟩ := ih h₂ (hsame.updateNode fun _ => rfl)
    refine ⟨after', Program.run_bind.mpr ⟨_, t₂, _, rfl, ?_, hrun⟩, hafter⟩
    rw [lookAt_eq]
    exact Program.run_bind.mpr ⟨t₃, [], report, rfl, h₃, Program.run_pure.mpr ⟨rfl, rfl⟩⟩

theorem lookAtAll_withStatus (recorded : Option Status) :
    lookAtAll { c with status := recorded } settings credentials now status pods =
      lookAtAll c settings credentials now status pods := by
  induction pods generalizing status with
  | nil => rfl
  | cons pod pods ih =>
    unfold lookAtAll
    simp only [ih]
    rfl

theorem refresh_withStatus (recorded : Option Status) :
    refresh { c with status := recorded } settings now status pods =
      refresh c settings now status pods := by
  unfold refresh
  simp only [lookAtAll_withStatus]
  rfl

/-- **Looks at members** are made and answered the same, whatever is recorded of other hosts. -/
theorem run_refresh_of_sameButOthers
    (h : Program.Run (refresh c settings now before pods) t after)
    (hsame : c.SameButOthers before before') :
    ∃ after', Program.Run (refresh c settings now before' pods) t after' ∧
      c.SameButOthers after after' := by
  obtain ⟨t₁, t₂, answer, rfl, h₁, h₂⟩ := Program.run_bind.mp h
  match answer with
  | .ok (some credentials) =>
    obtain ⟨after', hrun, hafter⟩ := run_lookAtAll_of_sameButOthers h₂ hsame
    exact ⟨after', Program.run_bind.mpr ⟨t₁, t₂, _, rfl, h₁, hrun⟩, hafter⟩
  | .ok none | .error _ =>
    obtain ⟨rfl, rfl⟩ := Program.run_pure.mp h₂
    exact ⟨before', Program.run_bind.mpr ⟨t₁, [], _, rfl, h₁, Program.run_pure.mpr ⟨rfl, rfl⟩⟩, hsame⟩

/-! ### What a pass proposes -/

/-- A pass up to its proposal: its moment, the status with the entries brought up to date, and what it
proposes to come next. -/
def derive (c : Cluster) (settings : Settings) : Procedure (Time × Status × Proposal) := do
  let now ← Procedure.step (Program.request .now)
  let pods : List Pod ← Store.list .pod c.selector
  let status ← Procedure.step
    (refresh c settings now (counted c pods) (pods.filter Pod.isReady))
  let workload : Option Workload ← Store.get .workload c.workloadName
  return (now, status, (observe c pods workload status).propose (c.status.getD {}).state)

theorem pass_eq_derive : pass c settings = (do
    let (now, status, proposal) ← derive c settings
    let status := status.accept settings.status proposal now
    Procedure.step (note (.observed c.key status.readyNodes status.state))
    write c status
    return status) := by
  simp only [pass, derive, counted, bind_assoc, pure_bind]

theorem run_derive : (derive c settings).Run t (.ok (now, status, x)) ↔
    ∃ (pods : List Pod) (looks : Trace) (workload : Option Workload),
      t = ⟨.now, now⟩ :: ⟨.list .pod c.selector, .ok pods⟩ ::
        (looks ++ [⟨.get .workload c.workloadName, .ok workload⟩]) ∧
      Program.Run (refresh c settings now (counted c pods) (pods.filter Pod.isReady)) looks status ∧
      x = (observe c pods workload status).propose (c.status.getD {}).state := by
  constructor
  · intro h
    obtain ⟨t₁, t₂, now, rfl, h₁, h₂⟩ := Procedure.run_step_bind.mp h
    obtain rfl := Program.run_request.mp h₁
    obtain ⟨t₃, t₄, pods, rfl, h₃, h₄⟩ := Procedure.run_bind_ok.mp h₂
    obtain rfl := Store.run_list.mp h₃
    obtain ⟨looks, t₅, status, rfl, hlooks, h₅⟩ := Procedure.run_step_bind.mp h₄
    obtain ⟨t₆, t₇, workload, rfl, h₆, h₇⟩ := Procedure.run_bind_ok.mp h₅
    obtain rfl := Store.run_get.mp h₆
    obtain ⟨rfl, heq⟩ := Procedure.run_pure.mp h₇
    cases heq
    exact ⟨pods, looks, workload, rfl, hlooks, rfl⟩
  · rintro ⟨pods, looks, workload, rfl, hlooks, rfl⟩
    refine Procedure.run_step_bind.mpr ⟨[⟨.now, now⟩], _, now, rfl, Program.run_request.mpr rfl, ?_⟩
    refine Procedure.run_bind_ok.mpr ⟨[⟨.list .pod c.selector, .ok pods⟩], _, pods, rfl,
      Store.run_list.mpr rfl, ?_⟩
    refine Procedure.run_step_bind.mpr ⟨looks, _, status, rfl, hlooks, ?_⟩
    exact Procedure.run_bind_ok.mpr ⟨[⟨.get .workload c.workloadName, .ok workload⟩], [], workload, rfl,
      Store.run_get.mpr rfl, Procedure.run_pure.mpr ⟨rfl, rfl⟩⟩

theorem observe_of_sameButOthers (h : c.SameButOthers status status') (pods : List Pod)
    (workload : Option Workload) :
    observe c pods workload status' = observe c pods workload status := by
  have hready := h.sameMembers.isRaftReady_eq
  obtain ⟨nodes, rfl, -⟩ := h
  unfold observe
  rw [hready]

/-- **Whom readiness depends on.** A group is ready just when its single member leads, or, in a group of
another size, when just one entry of its members says that it leads and another that it follows. Entries
of other hosts can be added, taken out or changed, and all entries be put in another order, and it stays
the same. And a pass over a cluster of which other things are recorded about hosts that are no members
asks the same, and proposes the same when it is answered the same. -/
theorem readiness_of_members (c : Cluster) (settings : Settings) :
    (∀ nodes, c.isRaftReady nodes = true ↔
      (c.replicas = 1 ∧ ∃ n, c.currentNodes nodes = [n] ∧ n.consensus.role = "LEADER") ∨
        (c.replicas ≠ 1 ∧
          (∃ n, (c.currentNodes nodes).filter (fun n => n.consensus.role = "LEADER") = [n]) ∧
          ∃ n ∈ c.currentNodes nodes, n.consensus.role = "FOLLOWER")) ∧
    (∀ nodes nodes', c.SameMembers nodes nodes' → c.isRaftReady nodes' = c.isRaftReady nodes) ∧
    ∀ (recorded : Option Status) (t : Trace) (now : Time) (after : Status) (x : Proposal),
      c.SameButOthers (c.status.getD {}) (recorded.getD {}) →
      (derive c settings).Run t (.ok (now, after, x)) →
      ∃ after', c.SameButOthers after after' ∧
        (derive { c with status := recorded } settings).Run t (.ok (now, after', x)) := by
  refine ⟨fun _ => Cluster.isRaftReady_iff, fun _ _ h => h.isRaftReady_eq, ?_⟩
  intro recorded t now after x hsame hrun
  obtain ⟨pods, looks, workload, rfl, hlooks, rfl⟩ := run_derive.mp hrun
  obtain ⟨nodes, hrecorded, hnodes⟩ := hsame
  have hcounted : c.SameButOthers (counted c pods) (counted { c with status := recorded } pods) := by
    refine ⟨nodes, ?_, hnodes⟩
    unfold counted
    dsimp only
    rw [hrecorded]
  obtain ⟨after', hlooks', hafter⟩ := run_refresh_of_sameButOthers hlooks hcounted
  rw [← refresh_withStatus recorded] at hlooks'
  refine ⟨after', hafter, run_derive.mpr ⟨pods, looks, workload, rfl, hlooks', ?_⟩⟩
  have hobserve := observe_of_sameButOthers hafter pods workload
  show _ = (observe c pods workload after').propose (recorded.getD {}).state
  rw [hobserve, hrecorded]

/-! ### A leader that was removed -/

/-- The entry of a host that says it leads. -/
def leading (host : String) : Node where
  name := host
  consensus := { role := "LEADER" }
  conditions := .unknown ⟨0, 0⟩

/-- The entry of a host that says it follows. -/
def trailing (host : String) : Node := { leading host with consensus := { role := "FOLLOWER" } }

/-- What is recorded of the group that is made smaller, with a member of it and one that is gone, both of
which lead by their entries. -/
def crowdedStatus : Status where
  state := some .scaleIn
  nodes := [leading (dwindlingCluster.hostOf "sample-mysql-4"),
    leading (dwindlingCluster.hostOf "sample-mysql-0"), trailing (dwindlingCluster.hostOf "sample-mysql-1")]

/-- The group, of which this is recorded. -/
def crowdedCluster : Cluster := { dwindlingCluster with status := some crowdedStatus }

/-- What is recorded without the entry of the member that is gone. -/
def clearedStatus : Status := { crowdedStatus with nodes := crowdedStatus.nodes.tail }

theorem sameButOthers_crowdedStatus : crowdedCluster.SameButOthers crowdedStatus clearedStatus :=
  ⟨crowdedStatus.nodes.tail, rfl, by decide⟩

theorem sameMembers_crowdedStatus :
    crowdedCluster.SameMembers crowdedStatus.nodes clearedStatus.nodes.reverse := by
  intro n hn
  rw [sameButOthers_crowdedStatus.sameMembers n hn]
  exact (List.reverse_perm _).symm.count_eq n

theorem run_crowdedCluster : ∃ t now after,
    (derive crowdedCluster {}).Run t (.ok (now, after, .state .ready)) := by
  have hready : (Program.run dwindlingAnswer (derive crowdedCluster {}).outcome ()).1.map (·.2.2) =
      .ok (.state .ready) := by decide +kernel
  rcases hrun : (Program.run dwindlingAnswer (derive crowdedCluster {}).outcome ()).1 with e | result
  · rw [hrun] at hready
    cases hready
  · obtain ⟨now, after, x⟩ := result
    rw [hrun] at hready
    obtain rfl : x = .state .ready := Except.ok.inj hready
    exact ⟨_, now, after, Program.run_traceOf_of_eq dwindlingAnswer hrun⟩

/-- The group is ready by the entries of its members, with or without the one of the member that is gone,
in either order, and a pass that is answered the same proposes the same. -/
theorem readiness_of_crowdedCluster :
    crowdedCluster.isRaftReady clearedStatus.nodes.reverse = true ∧
      ∃ t now after after', (derive crowdedCluster {}).Run t (.ok (now, after, .state .ready)) ∧
        (derive { crowdedCluster with status := some clearedStatus } {}).Run t
          (.ok (now, after', .state .ready)) := by
  obtain ⟨-, hmembers, hpass⟩ := readiness_of_members crowdedCluster {}
  refine ⟨?_, ?_⟩
  · rw [hmembers _ _ sameMembers_crowdedStatus]
    decide
  · obtain ⟨t, now, after, hrun⟩ := run_crowdedCluster
    obtain ⟨after', -, hrun'⟩ :=
      hpass (some clearedStatus) t now after (.state .ready) sameButOthers_crowdedStatus hrun
    exact ⟨t, now, after, after', hrun, hrun'⟩

end Health

end RaftMysql
