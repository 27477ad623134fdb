import RaftMysql.Proofs.Program.InTurn
import RaftMysql.Proofs.Program.Waits
import RaftMysql.Proofs.Topology.Shrinking

/-!
# The stages of an expansion

An expansion removes the workload without its pods, lists the claims, resizes those that are not on
their way out one after the other, and makes the workload again. `Topology.Does` says what the trace
of each stage looks like, and `Topology.enlarges_of_expand` that the stages have their turns in this
order, up to the first that fails. A claim is written back with nothing changed but the size asked for
and perhaps one more owner (`Claim.IsResized`).
-/

namespace RaftMysql

theorem Table.insert_insert {α : Type} (t : Table α) (key : String) (value value' : α) :
    (t.insert key value).insert key value' = t.insert key value' := by
  have hsame : ∀ (v w : α) (rest : Table α), Table.insert ((key, v) :: rest) key w = (key, w) :: rest :=
    fun _ _ _ => if_pos rfl
  induction t with
  | nil => exact hsame value value' []
  | cons p rest ih =>
    obtain ⟨k, v⟩ := p
    by_cases hk : k = key
    · subst hk
      rw [hsame v value rest, hsame value value' rest, hsame v value' rest]
    · have hcons : ∀ (w : α) (rest : Table α), Table.insert ((k, v) :: rest) key w =
          if key < k then (key, w) :: (k, v) :: rest else (k, v) :: Table.insert rest key w :=
        fun _ _ => if_neg hk
      rw [hcons value rest, hcons value' rest]
      split <;> rename_i hlt
      · exact hsame value value' _
      · rw [hcons, if_neg hlt, ih]

namespace Json

theorem setAt_setAt (v : Json) (path : List String) (value value' : Json) :
    (v.setAt path value).setAt path value' = v.setAt path value' := by
  induction path generalizing v with
  | nil => rfl
  | cons key path ih =>
    have hmember : (v.setAt (key :: path) value).member? key =
        some (((v.member? key).getD (.object [])).setAt path value) := by
      show Table.get? (Table.insert _ key _) key = _
      rw [Table.get?_insert, if_pos rfl]
    show setMember _ key _ = setMember _ key _
    rw [hmember, Option.getD_some, ih]
    show Json.object (Table.insert (Table.insert _ key _) key _) = _
    rw [Table.insert_insert]
    rfl

/-- A path that neither leads on from another one nor to it. -/
def Apart (path other : List String) : Prop := ¬path <+: other ∧ ¬other <+: path

theorem at?_setAt_of_apart {v value : Json} {path other : List String} (h : Apart path other) :
    (v.setAt path value).at? other = v.at? other := by
  induction path generalizing v other with
  | nil => exact absurd List.nil_prefix h.1
  | cons key path ih =>
    cases other with
    | nil => exact absurd List.nil_prefix h.2
    | cons k other =>
      have hmember : (v.setAt (key :: path) value).member? k =
          if key = k then some (((v.member? key).getD (.object [])).setAt path value)
          else v.member? k := by
        show Table.get? (Table.insert _ key _) k = _
        rw [Table.get?_insert]
        cases v <;> rfl
      rw [at?, at?, hmember]
      split <;> rename_i hk
      · subst hk
        have hrest : Apart path other := by simpa [Apart] using h
        rw [Option.bind_some, ih hrest]
        cases v.member? key with
        | some w => rfl
        | none =>
          -- An object made on the way has nothing in it.
          cases other with
          | nil => exact absurd List.nil_prefix hrest.2
          | cons => rfl
      · rfl

end Json

namespace Claim

/-- The second claim is the first one with this size asked for, and with the owner among its owners
if none of that uid was: all else is the same. -/
structure IsResized (claim resized : Claim) (size : String) (owner? : Option Owner) : Prop where
  request : resized.request? = some size
  body : ∀ path, Json.Apart requestPath path → resized.body.at? path = claim.body.at? path
  owned : (∀ owner, owner? = some owner → ∃ o ∈ claim.metadata.owners.getD [], o.uid = owner.uid) →
    resized.metadata = claim.metadata
  owning : ∀ owner, owner? = some owner →
    (∀ o ∈ claim.metadata.owners.getD [], o.uid ≠ owner.uid) →
      resized.metadata =
        { claim.metadata with owners := some (claim.metadata.owners.getD [] ++ [owner]) }

variable {claim : Claim} {size : String} {owner? : Option Owner}

theorem isResized_resized : IsResized claim (claim.resized size owner?) size owner? where
  request := request?_resized
  body path h := Json.at?_setAt_of_apart h
  owned h := by
    unfold resized
    dsimp only
    cases owner? with
    | none => rfl
    | some owner =>
      obtain ⟨o, ho, huid⟩ := h owner rfl
      have hany : ((claim.metadata.owners.getD []).any fun o => o.uid == owner.uid) = true :=
        List.any_eq_true.mpr ⟨o, ho, beq_iff_eq.mpr huid⟩
      dsimp only
      rw [if_pos hany]
      -- An owner was found, so there is a list of owners.
      rcases howners : claim.metadata.owners with _ | owners
      · rw [howners] at ho
        cases ho
      · rw [Option.getD_some, ← howners]
  owning owner howner h := by
    subst howner
    unfold resized
    dsimp only
    rw [if_neg (by simpa using h)]

theorem resized_resized : (claim.resized size owner?).resized size owner? = claim.resized size owner? := by
  have howned : ∀ owner, owner? = some owner →
      ∃ o ∈ (claim.resized size owner?).metadata.owners.getD [], o.uid = owner.uid := by
    rintro owner rfl
    unfold resized
    dsimp only
    rw [Option.getD_some]
    split <;> rename_i hany
    · obtain ⟨o, ho, huid⟩ := List.any_eq_true.mp hany
      exact ⟨o, ho, beq_iff_eq.mp huid⟩
    · exact ⟨owner, List.mem_concat_self, rfl⟩
  have hresized : IsResized (claim.resized size owner?) _ size owner? := isResized_resized
  have hmetadata := hresized.owned howned
  have hbody := Json.setAt_setAt claim.body requestPath (.text size) (.text size)
  exact congrArg₂ Manifest.mk hmetadata hbody

end Claim

namespace Topology

variable {c : Cluster} {wait : Wait} {desired : Workload} {size : String} {t : Trace}
  {r : Except Error Unit} {claims : List Claim}

/-! ### Stages -/

/-- What an expansion does in its turn. -/
inductive Stage where
  /-- The workload is removed without its pods. -/
  | remove
  /-- The claims are listed. -/
  | list (claims : List Claim)
  /-- A claim is resized, and waited for. -/
  | resize (claim : Claim)
  /-- The workload is made again. -/
  | make

/-- What comes before the workload is made again. -/
def preparations (claims : List Claim) : List Stage :=
  .remove :: .list claims :: (growing claims).map .resize

/-- Nothing more has to be waited for: the claim is settled at the size, or gone. -/
def isDone (size : String) : Option Claim → Bool
  | some current => current.isSettled size
  | none => true

theorem isDone_iff {current : Option Claim} : isDone size current = true ↔
    ∀ found, current = some found → found.awaitsFileSystem = true ∨
      ∃ capacity, found.capacity? = some capacity ∧ Quantity.isSame capacity size = true := by
  cases current with
  | none => simp [isDone]
  | some claim => simp [isDone, Claim.isSettled_iff]

/-- A look at the claim of a name. -/
def LooksAtClaim (size name : String) (t : Trace) (x : Except Error Bool) : Prop :=
  ∃ answer : Except Error (Option Claim), t = [⟨.get .claim name, answer⟩] ∧ x = answer.map (isDone size)

/-- The trace of a stage and how it ends. A workload that is not found counts as removed. -/
inductive Does (c : Cluster) (wait : Wait) (desired : Workload) (size : String) :
    Stage → Trace → Except Error Unit → Prop
  | removed {answer : Except Error Unit} (h : isGone answer = true) :
    Does c wait desired size .remove [⟨.delete .workload c.workloadName .orphan, answer⟩] (.ok ())
  | standing {e : Error} (h : e.isNotFound = false) :
    Does c wait desired size .remove [⟨.delete .workload c.workloadName .orphan, .error e⟩] (.error e)
  | listed {claims : List Claim} :
    Does c wait desired size (.list claims) [⟨.list .claim c.selector, .ok claims⟩] (.ok ())
  | unlisted {claims : List Claim} {e : Error} :
    Does c wait desired size (.list claims) [⟨.list .claim c.selector, .error e⟩] (.error e)
  | refused {claim : Claim} {e : Error} :
    Does c wait desired size (.resize claim)
      [⟨.replace .claim (claim.resized size c.owner?), .error e⟩] (.error e)
  | awaited {claim stored : Claim} {t : Trace} {r : Except Error Unit}
    (h : Awaits ("resize of pvc " ++ claim.name) wait (LooksAtClaim size claim.name) t r) :
    Does c wait desired size (.resize claim)
      (⟨.replace .claim (claim.resized size c.owner?), .ok stored⟩ :: t) r
  | made {stored : Workload} :
    Does c wait desired size .make [⟨.create .workload desired.fresh, .ok stored⟩] (.ok ())
  | unmade {e : Error} :
    Does c wait desired size .make [⟨.create .workload desired.fresh, .error e⟩] (.error e)

theorem does_of_resizeClaim {claim : Claim} (h : (resizeClaim c wait size claim).Run t r) :
    Does c wait desired size (.resize claim) t r := by
  rcases Procedure.run_bind.mp h with ⟨e, h₁, rfl⟩ | ⟨t₁, t₂, stored, rfl, h₁, h₂⟩
  · obtain rfl := Program.run_request.mp h₁
    exact .refused
  · obtain rfl := Program.run_request.mp h₁
    refine .awaited (awaits_of_run (fun t x hlook => ?_) h₂)
    rcases Procedure.run_bind.mp hlook with ⟨e, h₃, rfl⟩ | ⟨t₃, t₄, current, rfl, h₃, h₄⟩
    · obtain rfl := Store.run_get.mp h₃
      exact ⟨.error e, rfl, rfl⟩
    · obtain rfl := Store.run_get.mp h₃
      obtain ⟨rfl, rfl⟩ := Procedure.run_pure.mp h₄
      exact ⟨.ok current, rfl, by cases current <;> rfl⟩

theorem inTurn_of_resizeClaims (h : (resizeClaims c wait size claims).Run t r) :
    InTurn (Does c wait desired size) ((growing claims).map .resize) t r := by
  induction claims generalizing t with
  | nil =>
    obtain ⟨rfl, rfl⟩ := Procedure.run_pure.mp h
    exact .nil
  | cons claim claims ih =>
    unfold resizeClaims at h
    dsimp only at h
    split at h <;> rename_i hgoing
    · have hcons : growing (claim :: claims) = claim :: growing claims :=
        List.filter_cons_of_pos hgoing
      rw [hcons, List.map_cons]
      rcases Procedure.run_bind.mp h with ⟨e, h₁, rfl⟩ | ⟨t₁, t₂, _, rfl, h₁, h₂⟩
      · exact .failed (does_of_resizeClaim h₁)
      · exact .cons (does_of_resizeClaim h₁) (ih h₂)
    · have hcons : growing (claim :: claims) = growing claims :=
        List.filter_cons_of_neg hgoing
      rw [hcons]
      exact ih h

theorem inTurn_of_removed {answer : Except Error Unit} {stages : List Stage}
    (hgone : isGone answer = true) (h : InTurn (Does c wait desired size) stages t r) :
    InTurn (Does c wait desired size) (.remove :: stages)
      (⟨.delete .workload c.workloadName .orphan, answer⟩ :: t) r := by
  have hremoved : Does c wait desired size .remove
      [⟨.delete .workload c.workloadName .orphan, answer⟩] (.ok ()) := .removed hgone
  exact .cons hremoved h

theorem inTurn_of_listed {stages : List Stage} (h : InTurn (Does c wait desired size) stages t r) :
    InTurn (Does c wait desired size) (.list claims :: stages)
      (⟨.list .claim c.selector, .ok claims⟩ :: t) r := by
  have hlisted : Does c wait desired size (.list claims)
      [⟨.list .claim c.selector, .ok claims⟩] (.ok ()) := .listed
  exact .cons hlisted h

/-- **The stages have their turns**, up to the first that fails. -/
theorem inTurn_of_expand (h : (expand c wait desired).Run t r)
    (hsize : desired.requestedStorage? = some size) :
    ∃ claims, InTurn (Does c wait desired size) (preparations claims ++ [.make]) t r := by
  cases run_expand h with
  | sizeless hnone =>
    rw [hsize] at hnone
    cases hnone
  | standing hsize' hfound => exact ⟨[], .failed (.standing hfound)⟩
  | unlisted hsize' hgone =>
    exact ⟨[], inTurn_of_removed hgone (.failed .unlisted)⟩
  | @unresized answer claims size' t e hsize' hgone hrun =>
    obtain rfl := Option.some.inj (hsize.symm.trans hsize')
    have hrest : InTurn (Does c wait desired size) ((growing claims).map .resize ++ [.make]) t
        (.error e) := inTurn_append.mpr (.inl ⟨e, rfl, inTurn_of_resizeClaims hrun⟩)
    exact ⟨claims, inTurn_of_removed hgone (inTurn_of_listed hrest)⟩
  | @remade answer claims size' t made hsize' hgone hrun =>
    obtain rfl := Option.some.inj (hsize.symm.trans hsize')
    have hmake : Does c wait desired size .make [⟨.create .workload desired.fresh, made⟩]
        (made.map fun _ => ()) := by
      match made with
      | .ok stored => exact .made
      | .error e => exact .unmade
    have hrest : InTurn (Does c wait desired size) ((growing claims).map .resize ++ [.make])
        (t ++ [⟨.create .workload desired.fresh, made⟩]) (made.map fun _ => ()) :=
      inTurn_append.mpr
        (.inr ⟨t, _, rfl, inTurn_of_resizeClaims hrun, inTurn_singleton.mpr hmake⟩)
    exact ⟨claims, inTurn_of_removed hgone (inTurn_of_listed hrest)⟩

/-- Whatever holds of the requests of an expansion, of the writes of claims in their turn, holds of its
trace. -/
theorem Does.forall_mem {P : Request → Prop} {stage : Stage} (h : Does c wait desired size stage t r)
    (hdelete : P (.delete .workload c.workloadName .orphan)) (hlist : P (.list .claim c.selector))
    (hreplace : ∀ claim, stage = .resize claim → P (.replace .claim (claim.resized size c.owner?)))
    (hwait : ∀ q, ResizeWaitRequest q → P q)
    (hcreate : stage = .make → P (.create .workload desired.fresh)) : ∀ e ∈ t, P e.request := by
  cases h with
  | removed | standing => exact List.forall_mem_singleton.mpr hdelete
  | listed | unlisted => exact List.forall_mem_singleton.mpr hlist
  | refused => exact List.forall_mem_singleton.mpr (hreplace _ rfl)
  | awaited h =>
    refine List.forall_mem_cons.mpr ⟨hreplace _ rfl, ?_⟩
    refine h.forall_mem (fun _ => hwait _ .clock) (fun _ _ => hwait _ (.sleep _)) ?_
    rintro t x ⟨answer, rfl, -⟩
    exact List.forall_mem_singleton.mpr (hwait _ (.get _))
  | made | unmade => exact List.forall_mem_singleton.mpr (hcreate rfl)

theorem Does.replaced {stage : Stage} {written : Claim} {answer : Except Error Claim}
    (h : Does c wait desired size stage t r) (hmem : ⟨.replace .claim written, answer⟩ ∈ t) :
    ∃ claim, stage = .resize claim ∧ written = claim.resized size c.owner? := by
  have hwrites := h.forall_mem (P := fun q => ∀ written, q = .replace .claim written →
    ∃ claim, stage = .resize claim ∧ written = claim.resized size c.owner?)
  refine hwrites (by simp) (by simp) (fun claim hstage written heq => ?_) (fun q hq => ?_) (by simp)
    _ hmem written rfl
  · cases heq
    exact ⟨claim, hstage, rfl⟩
  · cases hq <;> simp

theorem Does.created {stage : Stage} {made : Workload} {answer : Except Error Workload}
    (h : Does c wait desired size stage t r) (hmem : ⟨.create .workload made, answer⟩ ∈ t) :
    stage = .make ∧ desired.IsFresh made := by
  have hcreates := h.forall_mem (P := fun q => ∀ made, q = .create .workload made →
    stage = .make ∧ desired.IsFresh made)
  refine hcreates (by simp) (by simp) (by simp) (fun q hq => ?_) (fun hstage made heq => ?_)
    _ hmem made rfl
  · cases hq <;> simp
  · cases heq
    exact ⟨hstage, desired.isFresh_fresh⟩

theorem Does.done {claim : Claim} (h : Does c wait desired size (.resize claim) t (.ok ())) :
    ∃ current, ⟨.get .claim claim.name, .ok current⟩ ∈ t ∧ isDone size current = true := by
  cases h with
  | awaited h =>
    cases h with
    | begun hend hs =>
      have hends := hs.ends (P := fun _ => True) (fun _ => trivial) (fun _ _ => trivial) (by
        rintro t ⟨answer, rfl, -⟩
        simp)
      rcases hends with ⟨htimeout, -⟩ | ⟨before, own, x, rfl, -, -, ⟨answer, rfl, rfl⟩, hx, hr⟩
      · cases htimeout
      · match answer with
        | .error e => cases hr
        | .ok current => exact ⟨current, by simp, by simpa [Except.map] using hx⟩

/-- What the trace of an expansion says when this was the listing of the claims. -/
structure Enlarges (c : Cluster) (wait : Wait) (desired : Workload) (size : String)
    (claims : List Claim) (t : Trace) (r : Except Error Unit) : Prop where
  /-- One stage after the other, and the workload is made at the end. -/
  inTurn : InTurn (Does c wait desired size) (preparations claims ++ [.make]) t r
  /-- A workload is made just when nothing before failed. -/
  made_iff : (∃ (made : Workload) (answer : Except Error Workload),
      ⟨.create .workload made, answer⟩ ∈ t) ↔
    ¬∃ e, InTurn (Does c wait desired size) (preparations claims) t (.error e)
  /-- It is the desired one without version and uid. -/
  made : ∀ (made : Workload) (answer : Except Error Workload), ⟨.create .workload made, answer⟩ ∈ t →
    desired.IsFresh made
  /-- Claims that are written are resized ones of the listing that are not on their way out. -/
  written : ∀ (written : Claim) (answer : Except Error Claim), ⟨.replace .claim written, answer⟩ ∈ t →
    ∃ claim ∈ growing claims, claim.IsResized written size c.owner? ∧
      written.resized size c.owner? = written
  /-- A claim is written when nothing more has to be waited for with those before it. -/
  ordered : ∀ (before after : Trace) (written : Claim) (answer : Except Error Claim),
    t = before ++ ⟨.replace .claim written, answer⟩ :: after →
      ∃ done claim rest, preparations claims ++ [.make] = done ++ .resize claim :: rest ∧
        written = claim.resized size c.owner? ∧ ∀ earlier, .resize earlier ∈ done →
          ∃ current : Option Claim, ⟨.get .claim earlier.name, .ok current⟩ ∈ before ∧
            ∀ found, current = some found → found.awaitsFileSystem = true ∨
              ∃ capacity, found.capacity? = some capacity ∧ Quantity.isSame capacity size = true
  /-- No pod is removed. -/
  spares : removals t = []

theorem enlarges_of_inTurn
    (h : InTurn (Does c wait desired size) (preparations claims ++ [.make]) t r) :
    Enlarges c wait desired size claims t r where
  inTurn := h
  made_iff := by
    constructor
    · rintro ⟨made, answer, hmem⟩ ⟨e, hfailed⟩
      obtain ⟨before, after, ht⟩ := List.append_of_mem hmem
      obtain ⟨done, stage, rest, _, _, _, _, _, hstages, -, -, -, hdoes⟩ := hfailed.split ht
      obtain ⟨rfl, -⟩ := hdoes.created List.mem_append_cons_self
      have hmake : Stage.make ∈ preparations claims := hstages ▸ List.mem_append_cons_self
      simp [preparations] at hmake
    · intro hgood
      rcases inTurn_append.mp h with ⟨e, -, hfailed⟩ | ⟨t₁, t₂, rfl, -, hmake⟩
      · exact absurd ⟨e, hfailed⟩ hgood
      · cases inTurn_singleton.mp hmake with
        | made => exact ⟨_, _, List.mem_concat_self⟩
        | unmade => exact ⟨_, _, List.mem_concat_self⟩
  made := by
    intro made answer hmem
    obtain ⟨before, after, ht⟩ := List.append_of_mem hmem
    obtain ⟨_, stage, _, _, _, _, _, _, -, -, -, -, hdoes⟩ := h.split ht
    exact (hdoes.created List.mem_append_cons_self).2
  written := by
    have hwrites := h.forall_mem (P := fun e => e.request.WritesOnly c size claims)
      fun stage hstage t r hdoes => hdoes.forall_mem (P := Request.WritesOnly c size claims) trivial
        trivial (fun claim hclaim => ⟨claim, by simpa [preparations, hclaim] using hstage, rfl⟩)
        (fun q hq => hq.onlyPods.isSteady.2.writesOnly) fun _ => trivial
    intro written answer hmem
    obtain ⟨claim, hclaim, rfl⟩ := hwrites _ hmem
    exact ⟨claim, hclaim, Claim.isResized_resized, Claim.resized_resized⟩
  ordered := by
    intro before after written answer ht
    obtain ⟨done, stage, rest, earlier, own, own', later, r', hstages, rfl, rfl, hdone, hdoes⟩ :=
      h.split ht
    obtain ⟨claim, rfl, rfl⟩ := hdoes.replaced List.mem_append_cons_self
    refine ⟨done, claim, rest, hstages, rfl, fun other hother => ?_⟩
    obtain ⟨first, second, rfl⟩ := List.append_of_mem hother
    obtain ⟨t₁, t₂, t₃, rfl, -, hresized, -⟩ := hdone.part
    obtain ⟨current, hmem, hcurrent⟩ := hresized.done
    exact ⟨current, by simp [hmem], isDone_iff.mp hcurrent⟩
  spares := by
    have hspares := h.forall_mem (P := fun e => e.request.removed? = none)
      fun stage hstage t r hdoes => hdoes.forall_mem (P := fun q => q.removed? = none) rfl rfl
        (fun _ _ => rfl) (fun q hq => by cases hq <;> rfl) fun _ => rfl
    exact List.filterMap_eq_nil_iff.mpr hspares

/-- **What an expansion does**: it fails at once if the workload asks for no size, and else its stages
have their turns. -/
theorem expand_enlarges (h : (expand c wait desired).Run t r) :
    (desired.requestedStorage? = none ∧ t = [] ∧
      r = .error (.internal ("workload of " ++ c.key ++ " has no data claim template"))) ∨
      ∃ size claims, desired.requestedStorage? = some size ∧ Enlarges c wait desired size claims t r := by
  rcases hsize : desired.requestedStorage? with _ | size
  · unfold expand at h
    rw [hsize] at h
    obtain ⟨rfl, rfl⟩ := Procedure.run_throw.mp h
    exact .inl ⟨rfl, rfl, rfl⟩
  · obtain ⟨claims, hturns⟩ := inTurn_of_expand h hsize
    exact .inr ⟨size, claims, rfl, enlarges_of_inTurn hturns⟩

/-! ### Two claims and one on its way out -/

/-- What the platform holds of the group of two: its claims, and one that is on its way out. -/
def mixedShelf : Shelf :=
  { unevenShelf with
    claims := { metadata := { name := some "data-sample-mysql-9", deletedAt := some ⟨0, 0⟩ } } ::
      unevenShelf.claims }

/-- An expansion for the group. -/
def groupExpansion : Procedure Unit :=
  expand grownCluster ({} : Settings).storage.resizeWait (Workload.desired grownCluster)

/-- Its trace. -/
def expansionTrace : Trace := groupExpansion.outcome.traceOf grantAnswer mixedShelf

/-- The claim that is on its way out is not written. -/
theorem expansion_enlarges :
    (∃ claims, Enlarges grownCluster ({} : Settings).storage.resizeWait (Workload.desired grownCluster)
      "20Gi" claims expansionTrace (.ok ())) ∧
      (claimWrites expansionTrace).map Manifest.name = ["data-sample-mysql-0", "data-sample-mysql-1"] := by
  have hok : (Program.run grantAnswer groupExpansion.outcome mixedShelf).1 = .ok () := by
    decide +kernel
  have hwrites : (claimWrites expansionTrace).map Manifest.name =
      ["data-sample-mysql-0", "data-sample-mysql-1"] := by
    decide +kernel
  have hsize : (Workload.desired grownCluster).requestedStorage? = some "20Gi" := by decide +kernel
  refine ⟨?_, hwrites⟩
  rcases expand_enlarges (Program.run_traceOf_of_eq grantAnswer hok) with
    ⟨hnone, -⟩ | ⟨size, claims, hsome, henlarges⟩
  · rw [hsize] at hnone
    cases hnone
  · obtain rfl := Option.some.inj (hsize.symm.trans hsome)
    exact ⟨claims, henlarges⟩

end Topology

end RaftMysql
