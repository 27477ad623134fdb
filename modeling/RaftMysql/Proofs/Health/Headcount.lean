import RaftMysql.Proofs.Cluster.Ordinals
import RaftMysql.Proofs.Health.Computation
import RaftMysql.Proofs.Topology.Rolling

/-!
# Readiness by headcount

A cluster on its way to being ready becomes so when as many pods are ready as it should have members
and its group has a confirmed leader (`Health.state_conclude_eq_ready_iff`). The pods are counted, not
told apart: as many members may be missing as ready pods of other ordinals stand in for them
(`Health.length_absent`). `Health.ready_by_headcount` says this of a whole pass.
-/

namespace RaftMysql

/-- The cluster is on its way to being ready. -/
def State.isConverging : State → Bool
  | .initializing | .updating | .scaleIn | .scaleOut => true
  | _ => false

namespace Observation

variable {o : Observation} {previous : State}

/-- On the way to being ready nothing else is proposed than to stay so, to be closed or to be ready. -/
theorem proposeAfter_of_converging (h : previous.isConverging = true) (hnone : o.unschedulable = none) :
    o.proposeAfter previous =
      if o.desired = 0 ∧ o.ready = 0 then .state .closed
      else if 0 < o.desired ∧ o.ready = o.desired ∧ o.raftReady = true then .state .ready
      else .state previous := by
  unfold proposeAfter
  rw [hnone]
  cases previous with
  | initializing | updating | scaleIn | scaleOut => rfl
  | ready | closed | error => cases h

theorem proposeAfter_eq_ready_iff (h : previous.isConverging = true) :
    o.proposeAfter previous = .state .ready ↔
      o.unschedulable = none ∧ 0 < o.desired ∧ o.ready = o.desired ∧ o.raftReady = true := by
  rcases hmessage : o.unschedulable with _ | message
  · rw [proposeAfter_of_converging h hmessage]
    have hprevious : previous ≠ .ready := by
      rintro rfl
      cases h
    split
    · have hzero : o.desired = 0 := by omega
      simp [hzero]
    · split <;> rename_i hall
      · simp [hall]
      · simp [hall, hprevious]
  · unfold proposeAfter
    rw [hmessage]
    simp

end Observation

namespace Status

variable {s : StatusSettings} {status : Status} {x : Proposal} {now : Time}

theorem state_accept_eq_ready_iff (h : status.state ≠ some .ready) :
    (status.accept s x now).state = some .ready ↔ x = .state .ready := by
  unfold accept
  match x with
  | .state st => simp
  | .error reason message =>
    dsimp only
    split
    · simp
    · split
      · simp
      · simpa [append] using h

end Status

/-! ### Counting pods -/

/-- What is in one list only is as much as what is in the other only, if both are of one length. -/
theorem length_filter_notMem {α : Type} [DecidableEq α] {xs ys : List α} (hxs : xs.Nodup)
    (hys : ys.Nodup) (hlength : xs.length = ys.length) :
    (xs.filter fun x => !ys.contains x).length = (ys.filter fun y => !xs.contains y).length := by
  have hcommon : (xs.filter fun x => ys.contains x).Perm (ys.filter fun y => xs.contains y) := by
    rw [List.perm_ext_iff_of_nodup (hxs.filter _) (hys.filter _)]
    simp [and_comm]
  have hx := List.length_eq_length_filter_add (l := xs) fun x => ys.contains x
  have hy := List.length_eq_length_filter_add (l := ys) fun y => xs.contains y
  have heq := hcommon.length_eq
  omega

namespace Health

variable {c : Cluster} {settings : Settings} {now : Time} {pods : List Pod}

/-- The member with an ordinal is among the pods, and ready. -/
def isPresent (c : Cluster) (pods : List Pod) (ordinal : Int) : Bool :=
  pods.any fun pod => pod.isReady && pod.name == c.podName ordinal

/-- The ordinals of the members that are missing among the pods, or not ready. -/
def absent (c : Cluster) (pods : List Pod) : List Int :=
  c.ordinals.filter fun ordinal => !isPresent c pods ordinal

/-- The ready pods that are no members that the cluster should have. -/
def standIns (c : Cluster) (pods : List Pod) : List Pod :=
  pods.filter fun pod => pod.isReady && !(c.ordinals.map c.podName).contains pod.name

theorem absent_eq_nil_iff : absent c pods = [] ↔
    ∀ i ∈ c.ordinals, ∃ pod ∈ pods, pod.name = c.podName i ∧ Pod.isReady pod = true := by
  unfold absent isPresent
  rw [List.filter_eq_nil_iff]
  simp [and_comm]

theorem length_ordinals (h : 0 ≤ c.replicas) : (c.ordinals.length : Int) = c.replicas := by
  unfold Cluster.ordinals
  rw [List.length_map, List.length_range]
  omega

theorem nodup_podNames : (c.ordinals.map c.podName).Nodup := by
  unfold Cluster.ordinals
  rw [List.map_map, List.nodup_map_iff_inj_on List.nodup_range]
  intro n _ m _ h
  exact podName_inj h

theorem isPresent_eq (ordinal : Int) : isPresent c pods ordinal =
    ((pods.filter Pod.isReady).map Manifest.name).contains (c.podName ordinal) := by
  rw [Bool.eq_iff_iff, List.contains_iff_mem, List.mem_map]
  unfold isPresent
  simp [and_assoc]

/-- **Whom the count mistakes**: when as many pods are ready as there should be members, as many members
are missing as other ready pods stand in for them. -/
theorem length_absent (hnodup : (pods.map Manifest.name).Nodup) (hreplicas : 0 ≤ c.replicas)
    (hcount : ((pods.filter Pod.isReady).length : Int) = c.replicas) :
    (absent c pods).length = (standIns c pods).length := by
  have hready : ((pods.filter Pod.isReady).map Manifest.name).Nodup :=
    hnodup.sublist (List.filter_sublist.map _)
  have hlength : (c.ordinals.map c.podName).length =
      ((pods.filter Pod.isReady).map Manifest.name).length := by
    have hordinals := length_ordinals hreplicas
    rw [List.length_map, List.length_map]
    omega
  have hexchange := length_filter_notMem nodup_podNames hready hlength
  rw [List.filter_map, List.filter_map, List.length_map, List.length_map, List.filter_filter]
    at hexchange
  have habsent : absent c pods = c.ordinals.filter ((fun name =>
      !((pods.filter Pod.isReady).map Manifest.name).contains name) ∘ c.podName) := by
    unfold absent
    simp only [isPresent_eq]
    rfl
  have hstandIns : standIns c pods = pods.filter fun pod =>
      ((fun name => !(c.ordinals.map c.podName).contains name) ∘ Manifest.name) pod &&
        Pod.isReady pod := by
    unfold standIns
    congr 1
    funext pod
    exact Bool.and_comm ..
  rw [habsent, hstandIns]
  exact hexchange

/-! ### One pass -/

/-- **When a cluster becomes ready** that is on its way there. -/
theorem state_conclude_eq_ready_iff {previous : State} {workload : Option Workload} {status : Status}
    (hprevious : (c.status.getD {}).state = some previous) (h : previous.isConverging = true)
    (hstatus : Refreshed (counted c pods) status) :
    (conclude c settings now pods workload status).state = some .ready ↔
      (∀ pod ∈ pods, Pod.unschedulable? pod = none) ∧ 0 < c.replicas ∧
        ((pods.filter Pod.isReady).length : Int) = c.replicas ∧
        c.isRaftReady (conclude c settings now pods workload status).nodes = true := by
  obtain ⟨nodes, rfl, -⟩ := hstatus
  have hstate : (counted c pods).state = some previous := hprevious
  have hnot : ({ counted c pods with nodes := nodes } : Status).state ≠ some .ready := by
    rw [hstate]
    rintro heq
    obtain rfl := Option.some.inj heq
    cases h
  unfold conclude
  rw [Status.state_accept_eq_ready_iff hnot, Status.nodes_accept, hprevious]
  show (observe c pods workload _).proposeAfter previous = _ ↔ _
  rw [Observation.proposeAfter_eq_ready_iff h]
  unfold observe counted
  rw [List.findSome?_eq_none_iff]

/-- A pass sets a status when it ends with it, or writes it. -/
def Sets (c : Cluster) (t : Trace) (r : Except Error Status) (status : Status) : Prop :=
  r = .ok status ∨ ∃ answer : Except Error Cluster,
    ⟨.replaceStatus .cluster { c with status := some status }, answer⟩ ∈ t

/-- A pass is a computation and perhaps a write of the status, and sets no status but the computed one. -/
theorem exists_compute_of_pass {t : Trace} {r : Except Error Status}
    (h : (pass c settings).Run t r) :
    ∃ t₁ t₂ r', t = t₁ ++ t₂ ∧ (compute c settings).Run t₁ r' ∧
      (∀ e ∈ t₂, ∃ (status : Status) (answer : Except Error Cluster),
        e = ⟨.replaceStatus .cluster { c with status := some status }, answer⟩) ∧
      ∀ status, Sets c t r status → r' = .ok status := by
  have hnot : ∀ {t : Trace} {r : Except Error Status} {status : Status}
      {answer : Except Error Cluster}, (compute c settings).Run t r →
        (⟨.replaceStatus .cluster { c with status := some status }, answer⟩ : Event) ∉ t := by
    intro t r status answer hrun hmem
    cases hrun.asks onlyPods_compute _ hmem
  cases goes_of_run h with
  | failed hrun =>
    refine ⟨t, [], _, by simp, hrun, by simp, ?_⟩
    rintro status (hr | ⟨answer, hmem⟩)
    · cases hr
    · exact absurd hmem (hnot hrun)
  | @unchanged t status' hrun hsame =>
    refine ⟨t, [], _, by simp, hrun, by simp, ?_⟩
    rintro status (hr | ⟨answer, hmem⟩)
    · exact hr
    · exact absurd hmem (hnot hrun)
  | @written t status' answer hrun hother =>
    refine ⟨t, _, _, rfl, hrun, List.forall_mem_singleton.mpr ⟨status', answer, rfl⟩, ?_⟩
    rintro status (hr | ⟨answer', hmem⟩)
    · rw [eq_of_afterWrite hr]
    · have hwrite := (List.mem_append.mp hmem).resolve_left (hnot hrun)
      obtain ⟨rfl, -⟩ : status = status' ∧ answer' = answer := by simpa using hwrite
      rfl

theorem exists_compute_of_sets {t : Trace} {r : Except Error Status} {status : Status}
    (h : (pass c settings).Run t r) (hsets : Sets c t r status) :
    ∃ t₁ t₂, t = t₁ ++ t₂ ∧ (compute c settings).Run t₁ (.ok status) := by
  obtain ⟨t₁, t₂, r', rfl, hrun, -, hset⟩ := exists_compute_of_pass h
  exact ⟨t₁, t₂, rfl, hset status hsets ▸ hrun⟩

/-- **Readiness goes by headcount.** A pass that finds a cluster on its way to being ready sets it to
`State.ready` just when all listed pods found a place, as many of them are ready as there should be
members, and the group has a confirmed leader. If then a member is missing or not ready, another ready
pod stands in for it; without such pods every member is there and ready. -/
theorem ready_by_headcount {t : Trace} {r : Except Error Status} {status : Status} {previous : State}
    (h : (pass c settings).Run t r) (hsets : Sets c t r status)
    (hprevious : (c.status.getD {}).state = some previous)
    (hconverging : previous.isConverging = true) :
    ∃ (now : Time) (pods : List Pod) (rest : Trace),
      t = ⟨.now, now⟩ :: ⟨.list .pod c.selector, .ok pods⟩ :: rest ∧
        (status.state = some .ready ↔ (∀ pod ∈ pods, Pod.unschedulable? pod = none) ∧
          0 < c.replicas ∧ ((pods.filter Pod.isReady).length : Int) = c.replicas ∧
          c.isRaftReady status.nodes = true) ∧
        (status.state = some .ready → (pods.map Manifest.name).Nodup →
          (absent c pods).length = (standIns c pods).length ∧
          ((∀ i ∈ c.ordinals, ∃ pod ∈ pods, pod.name = c.podName i ∧ Pod.isReady pod = true) ↔
            standIns c pods = [])) := by
  obtain ⟨t₁, t₂, rfl, hcompute⟩ := exists_compute_of_sets h hsets
  cases computes_of_run hcompute with
  | @concluded now pods looks refreshed workload occurrence hlooks =>
    have hready : (conclude c settings now pods workload refreshed).state = some .ready ↔ _ :=
      state_conclude_eq_ready_iff hprevious hconverging (run_refresh hlooks)
    refine ⟨now, pods, _, rfl, hready, fun hstate hnodup => ?_⟩
    obtain ⟨-, hpositive, hcount, -⟩ := hready.mp hstate
    have hlength := length_absent hnodup hpositive.le hcount
    refine ⟨hlength, ?_⟩
    rw [← absent_eq_nil_iff, ← List.length_eq_zero_iff, hlength, List.length_eq_zero_iff]

/-! ### A member that another pod stands in for -/

/-- A ready pod of a name. -/
def readyPod (name : String) : Pod where
  metadata := { name := some name }
  body := .object [("status", .object [("conditions", .list [.object
    [("status", .text "True"), ("type", .text "ContainersReady")]])])]

/-- A group that is made smaller, from five members to three. -/
def dwindlingCluster : Cluster where
  metadata := { name := some "sample" }
  spec := { replicas := 3 }
  status := some { state := some .scaleIn }

/-- Its pods: one of a member that is to go is still there, and one that is to stay is not ready. -/
def dwindlingPods : List Pod :=
  [readyPod "sample-mysql-0", readyPod "sample-mysql-1",
    { readyPod "sample-mysql-2" with body := .object [] }, readyPod "sample-mysql-3"]

/-- What answers for the group: its pods, and agents that all follow the first member. -/
def dwindlingAnswer : (q : Request) → Unit → q.Answer × Unit
  | .list .pod _, s => (.ok dwindlingPods, s)
  | .get .secret _, s => (.ok (some Topology.groupSecret), s)
  | .get .workload _, s => (.ok none, s)
  | .agent host _ .view, s =>
    (.ok { state := if host = dwindlingCluster.hostOf "sample-mysql-0" then "LEADER" else "FOLLOWER" }, s)
  | .replace .pod pod, s => (.ok pod, s)
  | .replaceStatus .cluster c, s => (.ok c, s)
  | q, s => ((Simulation.Nowhere.answer q { now := ⟨0, 0⟩ }).1, s)

/-- The trace of a pass over the group. -/
def dwindlingTrace : Trace := (pass dwindlingCluster {}).outcome.traceOf dwindlingAnswer ()

theorem dwindlingTrace_eq : ∃ now rest, dwindlingTrace =
    ⟨.now, now⟩ :: ⟨.list .pod dwindlingCluster.selector, .ok dwindlingPods⟩ :: rest := ⟨_, _, rfl⟩

theorem run_dwindlingTrace : ∃ status, (pass dwindlingCluster {}).Run dwindlingTrace (.ok status) ∧
    status.state = some .ready := by
  have hready : (Program.run dwindlingAnswer (pass dwindlingCluster {}).outcome ()).1.map Status.state =
      .ok (some .ready) := by decide +kernel
  rcases hrun : (Program.run dwindlingAnswer (pass dwindlingCluster {}).outcome ()).1 with e | status
  · rw [hrun] at hready
    cases hready
  · rw [hrun] at hready
    exact ⟨status, Program.run_traceOf_of_eq dwindlingAnswer hrun, Except.ok.inj hready⟩

/-- In this group one member is not ready, and one other pod stands in for it. -/
theorem dwindling_headcount :
    absent dwindlingCluster dwindlingPods = [2] ∧
      (absent dwindlingCluster dwindlingPods).length =
        (standIns dwindlingCluster dwindlingPods).length := by
  refine ⟨by decide, ?_⟩
  obtain ⟨status, hrun, hstate⟩ := run_dwindlingTrace
  obtain ⟨now, pods, rest, ht, -, hcount⟩ := ready_by_headcount hrun (.inl rfl) rfl (by decide)
  obtain ⟨now', rest', ht'⟩ := dwindlingTrace_eq
  rw [ht'] at ht
  obtain rfl : dwindlingPods = pods := by simpa using (List.cons.inj (List.cons.inj ht).2).1
  exact (hcount hstate (by decide)).1

/-- A group becomes ready without one of its members: the pod of a removed one is counted in its
place. -/
theorem exists_ready_without_member :
    ∃ t status, (pass dwindlingCluster {}).Run t (.ok status) ∧
      (dwindlingCluster.status.getD {}).state = some .scaleIn ∧ status.state = some .ready ∧
      ⟨.list .pod dwindlingCluster.selector, .ok dwindlingPods⟩ ∈ t ∧
      (2 : Int) < dwindlingCluster.replicas ∧
      ∀ pod ∈ dwindlingPods, pod.name = dwindlingCluster.podName 2 → Pod.isReady pod = false := by
  obtain ⟨status, hrun, hstate⟩ := run_dwindlingTrace
  obtain ⟨now, rest, ht⟩ := dwindlingTrace_eq
  exact ⟨_, status, hrun, rfl, hstate, by rw [ht]; simp, by decide, by decide⟩

end Health

end RaftMysql
