import RaftMysql.Proofs.Cluster.Ordinals
import RaftMysql.Proofs.Topology.Expansion

/-!
# Which claims are given back

Storage is given back claim by claim: the excess ones of a listing, in its order, until a removal
fails (`Topology.Removes`). A claim is excess by the end of its name. That holds of every claim of a
member beyond the desired count, but a claim may also be named so by someone else
(`Topology.isExcess_iff`).
-/

namespace RaftMysql

/-! ### Removals of claims -/

/-- The request that removes a claim. -/
def Claim.removal (claim : Claim) : Request := .delete .claim claim.name .byKind

/-- The removal of a claim was accepted. -/
def Event.acceptsRemoval : Event → Bool
  | ⟨.delete .claim _ _, answer⟩ => succeeded (answer : Except Error Unit)
  | _ => false

/-- No removal of a claim failed, unless there was no such claim. -/
def Event.letsGo : Event → Bool
  | ⟨.delete .claim _ _, answer⟩ => isGone (answer : Except Error Unit)
  | _ => true

namespace Topology

variable {c : Cluster} {t : Trace} {r : Except Error Nat}

/-- Claims are removed in this order, and those whose removal was accepted are counted, until a
removal fails. -/
inductive Removes : List Claim → Nat → Trace → Except Error Nat → Prop
  | nil {removed : Nat} : Removes [] removed [] (.ok removed)
  | accepted {claim : Claim} {claims : List Claim} {removed : Nat} {t : Trace}
    {r : Except Error Nat} (h : Removes claims (removed + 1) t r) :
    Removes (claim :: claims) removed (⟨claim.removal, .ok ()⟩ :: t) r
  | absent {claim : Claim} {claims : List Claim} {removed : Nat} {e : Error} {t : Trace}
    {r : Except Error Nat} (he : e.isNotFound = true) (h : Removes claims removed t r) :
    Removes (claim :: claims) removed (⟨claim.removal, .error e⟩ :: t) r
  | failed {claim : Claim} {claims : List Claim} {removed : Nat} {e : Error}
    (he : e.isNotFound = false) :
    Removes (claim :: claims) removed [⟨claim.removal, .error e⟩] (.error e)

theorem run_removeClaims {claims : List Claim} {removed : Nat}
    (h : (removeClaims removed claims).Run t r) : Removes claims removed t r := by
  induction claims generalizing removed t with
  | nil =>
    obtain ⟨rfl, rfl⟩ := Procedure.run_pure.mp h
    exact .nil
  | cons claim claims ih =>
    obtain ⟨t₁, t₂, answer, rfl, h₁, h₂⟩ := Procedure.run_step_bind.mp h
    obtain rfl := Program.run_request.mp h₁
    match answer with
    | .ok () => exact .accepted (ih h₂)
    | .error e =>
      dsimp only at h₂
      split at h₂ <;> rename_i he
      · exact .absent he (ih h₂)
      · obtain ⟨rfl, rfl⟩ := Procedure.run_throw.mp h₂
        exact .failed (by simpa using he)

theorem Removes.requests_prefix {claims : List Claim} {removed : Nat}
    (h : Removes claims removed t r) : t.map Event.request <+: claims.map Claim.removal := by
  induction h with
  | nil => exact List.nil_prefix
  | accepted h ih => exact List.cons_prefix_cons.mpr ⟨rfl, ih⟩
  | absent he h ih => exact List.cons_prefix_cons.mpr ⟨rfl, ih⟩
  | failed he => exact List.cons_prefix_cons.mpr ⟨rfl, List.nil_prefix⟩

/-- Unless a removal fails, every claim is asked to go and the accepted removals are counted. -/
theorem Removes.of_letsGo {claims : List Claim} {removed : Nat} (h : Removes claims removed t r)
    (hgo : ∀ e ∈ t, e.letsGo = true) :
    t.map Event.request = claims.map Claim.removal ∧
      r = .ok (removed + t.countP Event.acceptsRemoval) := by
  induction h with
  | nil => exact ⟨rfl, rfl⟩
  | @accepted claim claims removed t r h ih =>
    obtain ⟨hrequests, rfl⟩ := ih fun e he => hgo e (List.mem_cons_of_mem _ he)
    have haccepts : Event.acceptsRemoval ⟨claim.removal, .ok ()⟩ = true := rfl
    refine ⟨by rw [List.map_cons, List.map_cons, hrequests], ?_⟩
    rw [List.countP_cons_of_pos haccepts]
    congr 1
    omega
  | @absent claim claims removed e t r he h ih =>
    obtain ⟨hrequests, rfl⟩ := ih fun e he => hgo e (List.mem_cons_of_mem _ he)
    have haccepts : ¬ Event.acceptsRemoval ⟨claim.removal, .error e⟩ = true := Bool.false_ne_true
    refine ⟨by rw [List.map_cons, List.map_cons, hrequests], ?_⟩
    rw [List.countP_cons_of_neg haccepts]
  | @failed claim claims removed e he =>
    have hgone : e.isNotFound = true := hgo ⟨claim.removal, .error e⟩ (by simp)
    rw [he] at hgone
    cases hgone

/-! ### Excess claims -/

/-- **Which claims are excess**: those that are not on their way out and whose name ends in a number
not below the desired count, whatever comes before it. -/
theorem isExcess_iff {claim : Claim} :
    isExcess c claim = true ↔ claim.metadata.isTerminating = false ∧
      ∃ n : Nat, EndsIn claim.name n ∧ c.replicas ≤ n := by
  unfold isExcess
  rw [Bool.and_eq_true, Bool.not_eq_true']
  refine and_congr_right fun _ => ⟨fun h => ?_, ?_⟩
  · split at h
    · rename_i i hi
      obtain ⟨n, rfl, hn⟩ := ordinal?_eq_some_iff.mp hi
      exact ⟨n, hn, of_decide_eq_true h⟩
    · cases h
  · rintro ⟨n, hn, hle⟩
    rw [ordinal?_eq_some_iff.mpr ⟨n, rfl, hn⟩]
    exact decide_eq_true hle

theorem isExcess_claimName {claim : Claim} {n : Nat} (hn : n < Nat.pow 2 31)
    (hname : claim.name = c.claimName n) :
    isExcess c claim = true ↔ claim.metadata.isTerminating = false ∧ c.replicas ≤ n := by
  unfold isExcess
  rw [hname, ordinal?_claimName c hn]
  simp

/-! ### Giving back -/

/-- Storage is given back from one listing, unless there is none. -/
theorem run_giveBack (h : (giveBack c).Run t r) :
    (∃ e, t = [⟨.list .claim c.selector, .error e⟩] ∧ r = .error e) ∨
      ∃ claims rest, t = ⟨.list .claim c.selector, .ok claims⟩ :: rest ∧
        Removes (claims.filter (isExcess c)) 0 rest r := by
  rcases Procedure.run_bind.mp h with ⟨e, h₁, rfl⟩ | ⟨t₁, t₂, claims, rfl, h₁, h₂⟩
  · exact .inl ⟨e, Store.run_list.mp h₁, rfl⟩
  · obtain rfl := Store.run_list.mp h₁
    exact .inr ⟨claims, t₂, rfl, run_removeClaims h₂⟩

/-- What is done about the claims of a listing when storage is given back. -/
structure GivesBack (c : Cluster) (claims : List Claim) (t : Trace) (r : Except Error Nat) :
    Prop where
  /-- Nothing is asked for but the removals of the excess ones, in the order of the listing. -/
  requests_prefix : t.map Event.request <+: (claims.filter (isExcess c)).map Claim.removal
  /-- Unless a removal fails, all of them are asked to go, and the outcome is how many removals were
  accepted. -/
  requests_eq : (∀ e ∈ t, e.letsGo = true) →
    t.map Event.request = (claims.filter (isExcess c)).map Claim.removal ∧
      r = .ok (t.countP Event.acceptsRemoval)
  /-- The excess ones are not on their way out and have names that end in a number not below the
  desired count. -/
  excess_iff : ∀ claim ∈ claims, isExcess c claim = true ↔
    claim.metadata.isTerminating = false ∧ ∃ n : Nat, EndsIn claim.name n ∧ c.replicas ≤ n
  /-- So the claim of a member is excess when the member is beyond the desired count. -/
  excess_member_iff : ∀ claim ∈ claims, ∀ n < Nat.pow 2 31, claim.name = c.claimName n →
    (isExcess c claim = true ↔ claim.metadata.isTerminating = false ∧ c.replicas ≤ n)

/-- **Which claims are given back**: those of the listing whose names end in the ordinal of a member
beyond the desired count, be they named after a member of the cluster or not. -/
theorem givesBack_of_run (h : (giveBack c).Run t r) :
    (∃ e, t = [⟨.list .claim c.selector, .error e⟩] ∧ r = .error e) ∨
      ∃ claims rest, t = ⟨.list .claim c.selector, .ok claims⟩ :: rest ∧
        GivesBack c claims rest r := by
  rcases run_giveBack h with herror | ⟨claims, rest, rfl, hremoves⟩
  · exact .inl herror
  · refine .inr ⟨claims, rest, rfl, hremoves.requests_prefix, fun hgo => ?_,
      fun _ _ => isExcess_iff, fun _ _ _ hn hname => isExcess_claimName hn hname⟩
    obtain ⟨hrequests, rfl⟩ := hremoves.of_letsGo hgo
    exact ⟨hrequests, by rw [Nat.zero_add]⟩

/-! ### A claim that is no member's -/

/-- A claim that carries the labels of the group of two. -/
def groupClaim (name : String) : Claim where
  metadata := { name := some name, labels := some groupCluster.selector }

/-- The claim of a member, one left behind, one left behind that is going, and a copy that someone
keeps for themselves. -/
def mixedClaims : List Claim :=
  [groupClaim "data-sample-mysql-1", groupClaim "data-sample-mysql-2",
   { metadata := { (groupClaim "data-sample-mysql-3").metadata with deletedAt := some ⟨0, 0⟩ } },
   groupClaim "copy-of-sample-mysql-7"]

/-- What answers with these claims, and lets all of them go. -/
def mixedAnswer : (q : Request) → Unit → q.Answer × Unit
  | .list .claim _, s => (.ok mixedClaims, s)
  | .delete .claim _ _, s => (.ok (), s)
  | q, s => ((Simulation.Nowhere.answer q { now := ⟨0, 0⟩ }).1, s)

/-- The trace of storage being given back by the group of two. -/
def mixedTrace : Trace := (giveBack groupCluster).outcome.traceOf mixedAnswer ()

theorem mixedTrace_eq : mixedTrace = ⟨.list .claim groupCluster.selector, .ok mixedClaims⟩ ::
    ["data-sample-mysql-2", "copy-of-sample-mysql-7"].map fun name =>
      ⟨.delete .claim name .byKind, .ok ()⟩ := rfl

theorem run_mixedTrace : (giveBack groupCluster).Run mixedTrace (.ok 2) :=
  Program.run_traceOf_of_eq mixedAnswer (by decide +kernel)

/-- Of the four claims two are given back. -/
theorem mixed_givesBack :
    ∃ rest, mixedTrace = ⟨.list .claim groupCluster.selector, .ok mixedClaims⟩ :: rest ∧
      GivesBack groupCluster mixedClaims rest (.ok 2) := by
  rcases givesBack_of_run run_mixedTrace with ⟨e, -, he⟩ | ⟨claims, rest, ht, hgives⟩
  · cases he
  · rw [mixedTrace_eq] at ht
    obtain ⟨hhead, rfl⟩ := List.cons.inj ht
    obtain rfl : mixedClaims = claims := by simpa using hhead
    exact ⟨_, mixedTrace_eq, hgives⟩

/-- A claim that is not named after any member of the cluster is given back, since its name ends in a
number. -/
theorem exists_foreign_removal :
    ∃ t claims, (giveBack groupCluster).Run t (.ok 2) ∧
      ⟨.list .claim groupCluster.selector, .ok claims⟩ ∈ t ∧
      ∃ claim ∈ claims, claim.metadata.labels = some groupCluster.selector ∧
        ⟨Claim.removal claim, .ok ()⟩ ∈ t ∧ ∀ i, claim.name ≠ groupCluster.claimName i := by
  refine ⟨mixedTrace, mixedClaims, run_mixedTrace, ?_, groupClaim "copy-of-sample-mysql-7", ?_, rfl,
    ?_, fun i heq => ?_⟩
  · simp [mixedTrace_eq]
  · simp [mixedClaims]
  · simp [mixedTrace_eq, Claim.removal, groupClaim, Manifest.name, Metadata.anyName]
  · have hfirst := congrArg (fun s => s.toList.head?) heq
    simp [Cluster.claimName, groupClaim, Manifest.name, Metadata.anyName] at hfirst

end Topology

end RaftMysql
