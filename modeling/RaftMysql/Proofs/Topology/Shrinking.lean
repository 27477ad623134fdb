import RaftMysql.Proofs.Topology.Refusal

/-!
# Claims that are asked to shrink

A pass grows storage when the desired workload asks for more than the live one does
(`Topology.Growth`). What it then writes is the desired size, into every claim of the listing, whatever
the claim asks for by itself. The claims that ask for what the live workload does, or for less, grow.
One that had been grown beyond the desired size is asked to shrink; it must have been grown beyond the
live workload before (`Topology.sync_resizes`).
-/

namespace RaftMysql

namespace Json

theorem at?_setAt (v : Json) (path : List String) (value : Json) :
    (v.setAt path value).at? path = some value := by
  induction path generalizing v with
  | nil => rfl
  | cons key path ih =>
    have hmember : (v.setAt (key :: path) value).member? key =
        some (((v.member? key).getD (.object [])).setAt path value) := by
      show Table.get? (Table.insert _ key _) key = _
      rw [Table.get?_insert, if_pos rfl]
    rw [at?, hmember]
    exact ih _

end Json

namespace Claim

variable {claim : Claim} {size old new : String}

/-- To write the size into the claim is to ask it to grow. -/
def GrowsTo (claim : Claim) (size : String) : Prop :=
  ∃ current, claim.request? = some current ∧ Quantity.isLarger size current = true

/-- To write the size into the claim is to ask it to shrink. -/
def ShrinksTo (claim : Claim) (size : String) : Prop :=
  ∃ current, claim.request? = some current ∧ Quantity.isLarger current size = true

/-- The claim asks for as much as this, or for less. -/
def Follows (claim : Claim) (size : String) : Prop :=
  ∃ current, claim.request? = some current ∧
    (Quantity.isSame current size = true ∨ Quantity.isLarger size current = true)

theorem request?_resized {owner : Option Owner} : (claim.resized size owner).request? = some size := by
  unfold request? Manifest.text? resized
  rw [Json.at?_setAt]
  rfl

theorem Follows.growsTo (h : claim.Follows old) (hlarger : Quantity.isLarger new old = true) :
    claim.GrowsTo new := by
  obtain ⟨current, hcurrent, hsame | hsmaller⟩ := h
  · exact ⟨current, hcurrent, Quantity.isLarger_of_isSame hlarger hsame⟩
  · exact ⟨current, hcurrent, Quantity.isLarger_trans hlarger hsmaller⟩

theorem ShrinksTo.of_isLarger (h : claim.ShrinksTo new) (hlarger : Quantity.isLarger new old = true) :
    claim.ShrinksTo old := by
  obtain ⟨current, hcurrent, hshrinks⟩ := h
  exact ⟨current, hcurrent, Quantity.isLarger_trans hshrinks hlarger⟩

end Claim

/-- If the request writes a claim, it is the size into one of the listing that is not on its way out. -/
def Request.WritesOnly (c : Cluster) (size : String) (claims : List Claim) : Request → Prop
  | .replace .claim written =>
    ∃ claim ∈ Topology.growing claims, written = claim.resized size c.owner?
  | _ => True

theorem Request.LeavesClaims.writesOnly {c : Cluster} {size : String} {claims : List Claim}
    {q : Request} (h : q.LeavesClaims) : q.WritesOnly c size claims := by
  unfold WritesOnly
  split
  · exact absurd h id
  · trivial

namespace Topology

variable {c : Cluster} {settings : Settings} {t : Trace} {claims : List Claim}

/-- A pass has found a workload that asks for the size `old`, with the desired one asking for the
larger size `new`, and got this listing of claims. -/
structure Growth (c : Cluster) (t : Trace) (old new : String) (claims : List Claim) : Prop where
  found : ∃ live, found c live ∈ t ∧ live.requestedStorage? = some old
  desired : (Workload.desired c).requestedStorage? = some new
  isLarger : Quantity.isLarger new old = true
  listed : ⟨.list .claim c.selector, .ok claims⟩ ∈ t

theorem exists_sizes_of_grows {live desired : Workload} (h : grows live desired = true) :
    ∃ old new, live.requestedStorage? = some old ∧ desired.requestedStorage? = some new ∧
      Quantity.isLarger new old = true := by
  obtain ⟨old, new, a, b, hold, hnew, ha, hb, hlt⟩ := grows_iff.mp h
  exact ⟨old, new, hold, hnew, Quantity.isLarger_iff.mpr ⟨a, b, ha, hb, hlt⟩⟩

theorem writesOnly_resizeClaims {wait : Wait} {size : String} {r : Except Error Unit}
    (h : (resizeClaims c wait size claims).Run t r) :
    ∀ e ∈ t, e.request.WritesOnly c size claims :=
  h.asks (asks_resizeClaims (fun _ h => h.onlyPods.isSteady.2.writesOnly) fun claim hclaim =>
    ⟨claim, hclaim, rfl⟩)

/-- An expansion writes no claim, or it writes its size into those of its listing, and into all of them
if it ends well. -/
theorem Expands.writesOnly {wait : Wait} {desired : Workload} {size : String} {r : Except Error Unit}
    (h : Expands c wait desired t r) (hsize : desired.requestedStorage? = some size) :
    (∀ e ∈ t, e.request.LeavesClaims) ∨
      ∃ claims, ⟨.list .claim c.selector, .ok claims⟩ ∈ t ∧
        (∀ e ∈ t, e.request.WritesOnly c size claims) ∧
        (r = .ok () → claimWrites t = (growing claims).map (·.resized size c.owner?)) := by
  cases h with
  | sizeless | standing | unlisted => exact .inl (by simp [Request.LeavesClaims])
  | @unresized answer claims size' t e hsize' h hrun =>
    obtain rfl := Option.some.inj (hsize.symm.trans hsize')
    refine .inr ⟨claims, by simp, ?_, fun he => by cases he⟩
    exact List.forall_mem_cons.mpr
      ⟨trivial, List.forall_mem_cons.mpr ⟨trivial, writesOnly_resizeClaims hrun⟩⟩
  | @remade answer claims size' t made hsize' h hrun =>
    obtain rfl := Option.some.inj (hsize.symm.trans hsize')
    refine .inr ⟨claims, by simp, ?_, fun _ => ?_⟩
    · refine List.forall_mem_cons.mpr ⟨trivial, List.forall_mem_cons.mpr ⟨trivial, ?_⟩⟩
      exact List.forall_mem_append.mpr
        ⟨writesOnly_resizeClaims hrun, List.forall_mem_singleton.mpr trivial⟩
    · show claimWrites (t ++ [⟨.create .workload desired.fresh, made⟩]) = _
      rw [claimWrites_append, (run_resizeClaims hrun).writes_eq rfl]
      exact List.append_nil _

theorem writesOnly_of_grow {desired : Workload} {size : String} {r : Except Error Outcome}
    (h : (grow c settings desired).Run t r) (hsize : desired.requestedStorage? = some size) :
    (∀ e ∈ t, e.request.LeavesClaims) ∨
      ∃ claims, ⟨.list .claim c.selector, .ok claims⟩ ∈ t ∧
        (∀ e ∈ t, e.request.WritesOnly c size claims) ∧
        (r = .ok .expanded → claimWrites t = (growing claims).map (·.resized size c.owner?)) := by
  rcases Procedure.run_bind.mp h with ⟨e, h₁, rfl⟩ | ⟨t₁, t₂, _, rfl, h₁, h₂⟩
  · refine ((run_expand h₁).writesOnly hsize).imp_right ?_
    rintro ⟨claims, hlisted, hwrites, -⟩
    exact ⟨claims, hlisted, hwrites, fun he => by cases he⟩
  · have hleaves : ∀ e ∈ t₂, e.request.LeavesClaims := h₂.asks <| Procedure.asks_bind
      (Procedure.asks_step (Program.asks_request trivial)) fun _ => Procedure.asks_pure _
    rcases (run_expand h₁).writesOnly hsize with hleaves₁ | ⟨claims, hlisted, hwrites, hall⟩
    · exact .inl (List.forall_mem_append.mpr ⟨hleaves₁, hleaves⟩)
    · refine .inr ⟨claims, List.mem_append_left _ hlisted, ?_, fun _ => ?_⟩
      · exact List.forall_mem_append.mpr ⟨hwrites, fun e he => (hleaves e he).writesOnly⟩
      · rw [claimWrites_append, hall rfl, claimWrites_eq_nil hleaves, List.append_nil]

/-- **What a pass asks of claims**: it writes none, or it grows storage. Then all that it writes is the
desired size, into claims of its listing, and into every one that is not on its way out if it ends
well. The claims that follow the live workload grow by that; those that shrink have been grown beyond
it. -/
theorem sync_resizes {r : Except Error Outcome} (hrun : (sync c settings).Run t r) :
    (∀ e ∈ t, e.request.LeavesClaims) ∨
      ∃ old new claims, Growth c t old new claims ∧
        (∀ e ∈ t, e.request.WritesOnly c new claims) ∧
        (r = .ok .expanded → claimWrites t = (growing claims).map (·.resized new c.owner?)) ∧
        ∀ claim : Claim, (claim.resized new c.owner?).request? = some new ∧
          (claim.Follows old → claim.GrowsTo new) ∧ (claim.ShrinksTo new → claim.ShrinksTo old) := by
  obtain ⟨r', hsettles, hr'⟩ := run_sync hrun
  -- Claims are written on one way only: where a change is turned away of a workload that is to grow.
  cases hsettles with
  | going | unread | absent | malformed | refused =>
    exact .inl (by simp [Request.LeavesClaims])
  | kept h hrun' =>
    exact .inl (List.forall_mem_cons.mpr ⟨trivial, fun e he => (hrun'.asks steady_keep e he).2⟩)
  | changed h hrun' =>
    exact .inl (List.forall_mem_cons.mpr ⟨trivial, List.forall_mem_cons.mpr
      ⟨trivial, fun e he => (hrun'.asks steady_proceed e he).2⟩⟩)
  | @grown live merged e t r' h hinvalid hgrows hrun' =>
    obtain ⟨old, new, hold, hnew, hlarger⟩ := exists_sizes_of_grows hgrows
    refine (writesOnly_of_grow hrun' hnew).imp (fun hleaves => ?_) ?_
    · exact List.forall_mem_cons.mpr ⟨trivial, List.forall_mem_cons.mpr ⟨trivial, hleaves⟩⟩
    · rintro ⟨claims, hlisted, hwrites, hall⟩
      have hgrowth : Growth c (⟨.get .workload c.workloadName, .ok (some live)⟩ ::
          ⟨.replace .workload merged, .error e⟩ :: t) old new claims :=
        ⟨⟨live, List.mem_cons_self, hold⟩, hnew, hlarger,
          List.mem_cons_of_mem _ (List.mem_cons_of_mem _ hlisted)⟩
      refine ⟨old, new, claims, hgrowth, ?_, fun hr => ?_, fun claim => ?_⟩
      · exact List.forall_mem_cons.mpr ⟨trivial, List.forall_mem_cons.mpr ⟨trivial, hwrites⟩⟩
      · refine hall ?_
        rcases hr' with rfl | ⟨-, hskipped⟩
        · exact hr
        · rw [hr] at hskipped
          cases hskipped
      · exact ⟨Claim.request?_resized, fun h => h.growsTo hlarger, fun h => h.of_isLarger hlarger⟩

/-! ### A claim that shrinks -/

/-- The claim once the platform has given it what it asks for. -/
def granted (claim : Claim) : Claim :=
  match claim.request? with
  | some size => { claim with body := claim.body.setAt ["status", "capacity", "storage"] (.text size) }
  | none => claim

/-- What answers for a platform that takes no change of a workload and resizes claims at once. -/
def grantAnswer : (q : Request) → Shelf → q.Answer × Shelf
  | .get .claim name, s => (.ok (s.claims.find? (·.name == name)), s)
  | .replace .claim claim, s =>
    (.ok claim,
      { s with claims := s.claims.map fun p => if p.name = claim.name then granted claim else p })
  | q, s => shelfAnswer q s

/-- What the platform holds of the group of two when one of its claims was grown by hand. -/
def unevenShelf : Shelf where
  workload := some (Workload.desired groupCluster)
  claims := [("data-sample-mysql-0", "10Gi"), ("data-sample-mysql-1", "50Gi")].map fun p =>
    { metadata := { name := some p.1 }
      body := (Json.object []).setAt Claim.requestPath (.text p.2) }

/-- The trace of a pass over the group. -/
def unevenTrace : Trace := (sync grownCluster {}).outcome.traceOf grantAnswer unevenShelf

/-- How the pass ends, what its listing holds and what it writes. -/
theorem uneven_pass :
    (Program.run grantAnswer (sync grownCluster {}).outcome unevenShelf).1 = .ok .expanded ∧
      (∃ claims ∈ unevenTrace.filterMap listing?, ∃ claim ∈ claims,
        ∃ written ∈ claimWrites unevenTrace, written.name = claim.name ∧
          claim.request? = some "50Gi" ∧ written.request? = some "20Gi") ∧
      Quantity.isLarger "50Gi" "20Gi" = true := by
  decide +kernel

theorem run_unevenTrace : (sync grownCluster {}).Run unevenTrace (.ok .expanded) :=
  Program.run_traceOf_of_eq grantAnswer uneven_pass.1

/-- The pass over the group writes the desired size into all claims of its listing. -/
theorem resizes_unevenTrace :
    (sync grownCluster {}).Run unevenTrace (.ok .expanded) ∧
      ∃ old new claims, Growth grownCluster unevenTrace old new claims ∧
        claimWrites unevenTrace = (growing claims).map (·.resized new grownCluster.owner?) := by
  obtain ⟨-, ⟨-, -, -, -, written, hwritten, -⟩, -⟩ := uneven_pass
  refine ⟨run_unevenTrace, ?_⟩
  rcases sync_resizes run_unevenTrace with hleaves | ⟨old, new, claims, hgrowth, -, hall, -⟩
  · rw [claimWrites_eq_nil hleaves] at hwritten
    cases hwritten
  · exact ⟨old, new, claims, hgrowth, hall rfl⟩

/-- A claim that was grown to more than the desired size before is written back to that: it is asked to
shrink. -/
theorem exists_shrunk_claim :
    ∃ t, (sync grownCluster {}).Run t (.ok .expanded) ∧
      ∃ claims ∈ t.filterMap listing?, ∃ claim ∈ claims, claim.ShrinksTo "20Gi" ∧
        ∃ written ∈ claimWrites t, written.name = claim.name ∧ written.request? = some "20Gi" := by
  obtain ⟨-, ⟨claims, hlisted, claim, hclaim, written, hwritten, hname, hold, hnew⟩, hlarger⟩ :=
    uneven_pass
  exact ⟨unevenTrace, run_unevenTrace, claims, hlisted, claim, hclaim, ⟨"50Gi", hold, hlarger⟩,
    written, hwritten, hname, hnew⟩

end Topology

end RaftMysql
