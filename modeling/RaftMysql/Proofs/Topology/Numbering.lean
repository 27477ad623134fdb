import Mathlib.Data.List.TakeWhile
import RaftMysql.Proofs.Topology.Alignment

/-!
# Members by their numbers

The number of a member is printed at the end of the names of its pod and its claim, and every decision
about who is on the way out reads it back. Names may hold dashes and digits of their own, since only what
comes after the last dash counts. An address is read up to its first dot, so a cluster whose own name
holds a dot has no address of which the number is found (`Topology.isStalePeer_eq_false_of_dotted`).
`Cluster.numbered` says what is read from the names and the address of every member.
-/

namespace RaftMysql

namespace Topology

variable {c : Cluster}

theorem dot_notMem_beforePoint (s : String) : '.' ∉ (beforePoint s).toList := by
  intro h
  unfold beforePoint at h
  rw [String.toList_ofList] at h
  have hne := List.mem_takeWhile_imp h
  simp at hne

/-- Under a name with a dot no address is one of a member: its first part ends inside the name. -/
theorem isStalePeer_eq_false_of_dotted (hname : '.' ∈ c.name.toList) (peer : String) :
    isStalePeer c peer = false := by
  rw [Bool.eq_false_iff]
  intro hstale
  unfold isStalePeer at hstale
  dsimp only at hstale
  obtain ⟨hfront, -⟩ := Bool.and_eq_true_iff.mp hstale
  have hdot : '.' ∈ (c.workloadName ++ "-").toList := by
    simp [Cluster.workloadName, hname]
  have hmem : '.' ∈ (beforePoint peer).toList := (List.isPrefixOf_iff_prefix.mp hfront).subset hdot
  exact dot_notMem_beforePoint peer hmem

theorem isExempt_podName {n : ℕ} (hn : n < Nat.pow 2 31) :
    isExempt c (c.podName n) = true ↔ c.replicas ≤ n := by
  unfold isExempt
  rw [ordinal?_podName, if_pos hn]
  simp

end Topology

namespace Cluster

theorem nodup_hosts (c : Cluster) : c.hosts.Nodup := by
  refine List.Nodup.map_on ?_ nodup_ordinals
  intro i hi j hj h
  obtain ⟨n, rfl, -⟩ := mem_ordinals.mp hi
  obtain ⟨m, rfl, -⟩ := mem_ordinals.mp hj
  have hpod : c.podName n = c.podName m := Topology.hostOf_inj h
  rw [podName_inj hpod]

/-- **Every member is known by its number**, up to the greatest of 31 bits: it is read back from the names
of the pod and of the claim, the pod is passed over in a rollout just when the number is not below the
desired count, and the address is then one to be removed, unless the name of the cluster holds a dot; the
hosts of the members are distinct. -/
theorem numbered (c : Cluster) :
    (∀ n : ℕ, n ≤ 2147483647 →
      ordinal? (c.podName n) = some (n : ℤ) ∧ ordinal? ("data-" ++ c.podName n) = some (n : ℤ) ∧
      (Topology.isExempt c (c.podName n) = true ↔ c.replicas ≤ n) ∧
      (Topology.isStalePeer c (peerOf (c.hostOf (c.podName n))) = true ↔
        '.' ∉ c.name.toList ∧ c.replicas ≤ n)) ∧
    c.hosts.Nodup := by
  refine ⟨fun n hn => ?_, nodup_hosts c⟩
  have hbits : n < Nat.pow 2 31 := Nat.lt_succ_of_le hn
  refine ⟨?_, ordinal?_claimName c hbits, Topology.isExempt_podName hbits, ?_⟩
  · rw [ordinal?_podName, if_pos hbits]
  · by_cases hname : '.' ∈ c.name.toList
    · have hkept := Topology.isStalePeer_eq_false_of_dotted hname (peerOf (c.hostOf (c.podName n)))
      simp [hkept, hname]
    · have haddress := Topology.isStalePeer_address hname n
      rw [show peerOf (c.hostOf (c.podName n)) = c.address n from rfl, haddress]
      exact ⟨fun h => ⟨hname, h.2⟩, fun h => ⟨hbits, h.2⟩⟩

/-- A cluster with a name that itself looks like that of a member. -/
def namesake : Cluster where
  metadata := { name := some "db-mysql-7", space := some "eu.west" }
  spec := { replicas := 3 }

theorem numbered_namesake :
    2147483647 ≤ 2147483647 ∧ ordinal? (namesake.podName 2147483647) = some 2147483647 ∧
      Topology.isExempt namesake (namesake.podName 2) = false ∧
      Topology.isStalePeer namesake "db-mysql-7-mysql-3.db-mysql-7-mysql.eu.west:8801" = true ∧
      namesake.hosts.Nodup := by
  have hnumbered := numbered namesake
  refine ⟨le_rfl, (hnumbered.1 2147483647 le_rfl).1, ?_, ?_, hnumbered.2⟩
  · rw [Bool.eq_false_iff]
    intro hexempt
    exact absurd ((hnumbered.1 2 (by decide)).2.2.1.mp hexempt) (by decide)
  · exact (hnumbered.1 3 (by decide)).2.2.2.mpr ⟨by decide, by decide⟩

end Cluster

end RaftMysql
