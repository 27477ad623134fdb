import RaftMysql.Proofs.Health.Computation
import RaftMysql.Simulation.Nowhere
import Mathlib.Data.List.Chain
import Mathlib.Data.List.Nodup

/-!
# Passes that meet

Several passes over one cluster may be under way at once, each from a copy of its own age. `Timeline`
tells what is stored when their requests come in any order, on a platform that takes a status only for
its latest version and gives every version that it stores a number of its own. Then no status gets
lost (`Health.serial_of_timeline`): each was computed from the one before it, so conditions leave the
history only when it is full, and entries never.
-/

namespace RaftMysql

/-- The request leaves clusters as they are. -/
def Request.LeavesClusters : Request → Prop
  | .create .cluster _ | .replace .cluster _ | .replaceStatus .cluster _ | .delete .cluster .. => False
  | _ => True

theorem Request.OnlyPods.leavesClusters {q : Request} (h : q.OnlyPods) : q.LeavesClusters := by
  unfold Request.LeavesClusters
  split
  · cases h
  · cases h
  · cases h
  · cases h
  · trivial

namespace Health

/-! ### Attempts and versions -/

/-- A pass from some copy of the cluster, with what it asks for and how it ends. -/
structure Attempt where
  copy : Cluster
  settings : Settings
  trace : Trace
  outcome : Except Error Status
  run : (pass copy settings).Run trace outcome

/-- A version of the cluster that was stored, and the attempt that stored it, unless it was there
first or is an edit. -/
structure Version (ι : Type) where
  cluster : Cluster
  author : Option ι

namespace Version

variable {ι : Type}

/-- What the platform tells versions apart by. -/
def number (v : Version ι) : Option String := v.cluster.metadata.version

/-- The status of the version. -/
def status (v : Version ι) : Status := v.cluster.status.getD {}

end Version

variable {ι : Type} {attempts : ι → Attempt} {first : Cluster} {calls : List (ι × Event)}
  {versions versions' : List (Version ι)}

/-- What becomes of the versions when an attempt makes a request. -/
inductive Reacts (versions : List (Version ι)) (i : ι) : Event → List (Version ι) → Prop
  /-- A status is taken only for the latest version, and makes a new one. Its answer may get lost. -/
  | taken {current : Version ι} {sent stored : Cluster} {answer : Except Error Cluster}
    (hcurrent : versions.getLast? = some current) (hnumber : sent.metadata.version = current.number)
    (hstatus : stored.status = sent.status)
    (hnew : ∀ v ∈ versions, v.number ≠ stored.metadata.version)
    (hanswer : ∀ e, answer = .error e → e.isConflict = false) :
    Reacts versions i ⟨.replaceStatus .cluster sent, answer⟩ (versions ++ [⟨stored, some i⟩])
  /-- A status that is refused, for whatever reason, has no effect. -/
  | refused {sent : Cluster} {e : Error} :
    Reacts versions i ⟨.replaceStatus .cluster sent, .error e⟩ versions
  | aside {e : Event} (h : e.request.LeavesClusters) : Reacts versions i e versions

/-- The requests of the attempts in the order in which they come, and the versions of the cluster up
to then. Anyone may edit what is not the status. -/
inductive Timeline (attempts : ι → Attempt) (first : Cluster) :
    List (ι × Event) → List (Version ι) → Prop
  | start : Timeline attempts first [] [⟨first, none⟩]
  | edited {calls : List (ι × Event)} {versions : List (Version ι)} {current : Version ι}
    {cluster : Cluster} (h : Timeline attempts first calls versions)
    (hcurrent : versions.getLast? = some current) (hstatus : cluster.status = current.cluster.status)
    (hnew : ∀ v ∈ versions, v.number ≠ cluster.metadata.version) :
    Timeline attempts first calls (versions ++ [⟨cluster, none⟩])
  | called {calls : List (ι × Event)} {versions versions' : List (Version ι)} {i : ι} {e : Event}
    (h : Timeline attempts first calls versions)
    (hcopy : (attempts i).copy ∈ versions.map Version.cluster)
    (hreacts : Reacts versions i e versions') :
    Timeline attempts first (calls ++ [(i, e)]) versions'

/-! ### The write of an attempt -/

theorem afterWrite_of_isConflict {status : Status} {e : Error} (h : e.isConflict) :
    afterWrite status (.error e) = .error e := by
  refine if_neg fun hgone => ?_
  cases e with
  | refused code reason text =>
    obtain rfl : code = 409 := by simpa [Error.isConflict, Error.code?] using h
    cases hgone
  | _ => cases h

theorem leavesClusters_of_compute {c : Cluster} {settings : Settings} {t : Trace}
    {r : Except Error Status} (h : (compute c settings).Run t r) :
    ∀ e ∈ t, e.request.LeavesClusters :=
  fun e he => (h.asks onlyPods_compute e he).leavesClusters

/-- Whatever an attempt asks for, the platform has an answer to in `Reacts`: nothing but its write is
about clusters. -/
theorem Attempt.leavesClusters_or_write {a : Attempt} {e : Event} (h : e ∈ a.trace) :
    e.request.LeavesClusters ∨ ∃ sent answer, e = ⟨.replaceStatus .cluster sent, answer⟩ := by
  obtain ⟨copy, settings, trace, outcome, run⟩ := a
  dsimp only at h
  cases goes_of_run run with
  | failed hrun => exact .inl (leavesClusters_of_compute hrun e h)
  | unchanged hrun hsame => exact .inl (leavesClusters_of_compute hrun e h)
  | written hrun hother =>
    rcases List.mem_append.mp h with hmem | hmem
    · exact .inl (leavesClusters_of_compute hrun e hmem)
    · exact .inr ⟨_, _, List.mem_singleton.mp hmem⟩

/-- An attempt writes a status at its end: the one that it computed from its copy, onto that copy. -/
theorem Attempt.write {a : Attempt} {sent : Cluster} {answer : Except Error Cluster}
    (h : ⟨.replaceStatus .cluster sent, answer⟩ ∈ a.trace) :
    ∃ t status, a.trace = t ++ [⟨.replaceStatus .cluster sent, answer⟩] ∧
      (compute a.copy a.settings).Run t (.ok status) ∧
      sent = { a.copy with status := some status } ∧ a.outcome = afterWrite status answer := by
  obtain ⟨copy, settings, trace, outcome, run⟩ := a
  dsimp only at h ⊢
  cases goes_of_run run with
  | failed hrun => exact (leavesClusters_of_compute hrun _ h).elim
  | unchanged hrun hsame => exact (leavesClusters_of_compute hrun _ h).elim
  | @written t status answer' hrun hother =>
    rcases List.mem_append.mp h with hmem | hmem
    · exact (leavesClusters_of_compute hrun _ hmem).elim
    · cases List.mem_singleton.mp hmem
      exact ⟨t, status, rfl, hrun, rfl, rfl⟩

theorem Attempt.write_unique {a : Attempt} {sent sent' : Cluster}
    {answer answer' : Except Error Cluster} (h : ⟨.replaceStatus .cluster sent, answer⟩ ∈ a.trace)
    (h' : ⟨.replaceStatus .cluster sent', answer'⟩ ∈ a.trace) : answer = answer' := by
  obtain ⟨t, -, ht, -⟩ := Attempt.write h
  obtain ⟨t', -, ht', -⟩ := Attempt.write h'
  have hlast := congrArg List.getLast? (ht.symm.trans ht')
  rw [List.getLast?_concat, List.getLast?_concat] at hlast
  cases hlast
  rfl

theorem Attempt.copy_or_write {a : Attempt} {status : Status} (h : a.outcome = .ok status) :
    a.copy.status = some status ∨ ∃ answer, afterWrite status answer = .ok status ∧
      ⟨.replaceStatus .cluster { a.copy with status := some status }, answer⟩ ∈ a.trace := by
  obtain ⟨copy, settings, trace, outcome, run⟩ := a
  dsimp only at h ⊢
  cases goes_of_run run with
  | failed hrun => cases h
  | unchanged hrun hsame =>
    obtain rfl := Except.ok.inj h
    exact .inl hsame
  | @written t status' answer hrun hother =>
    obtain rfl := eq_of_afterWrite h
    exact .inr ⟨answer, h, List.mem_concat_self⟩

/-! ### What the platform sees to -/

theorem Reacts.subset {i : ι} {e : Event} (h : Reacts versions i e versions') :
    versions ⊆ versions' := by
  cases h with
  | taken => exact List.subset_append_left ..
  | refused => exact List.Subset.refl _
  | aside => exact List.Subset.refl _

theorem nodup_numbers_concat {v : Version ι} (h : (versions.map Version.number).Nodup)
    (hnew : ∀ w ∈ versions, w.number ≠ v.number) :
    ((versions ++ [v]).map Version.number).Nodup := by
  rw [List.map_append, List.map_singleton, ← List.concat_eq_append]
  refine List.Nodup.concat (fun hmem => ?_) h
  obtain ⟨w, hw, heq⟩ := List.mem_map.mp hmem
  exact hnew w hw heq

theorem Timeline.nodup_numbers (h : Timeline attempts first calls versions) :
    (versions.map Version.number).Nodup := by
  induction h with
  | start => exact List.nodup_singleton _
  | edited h hcurrent hstatus hnew ih => exact nodup_numbers_concat ih hnew
  | called h hcopy hreacts ih =>
    cases hreacts with
    | taken hcurrent hnumber hstatus hnew hanswer => exact nodup_numbers_concat ih hnew
    | refused => exact ih
    | aside => exact ih

/-- What leaves clusters as they are leaves the versions as they are. -/
theorem Timeline.called_all (h : Timeline attempts first calls versions) {i : ι}
    (hcopy : (attempts i).copy ∈ versions.map Version.cluster) {t : Trace}
    (ht : ∀ e ∈ t, e.request.LeavesClusters) :
    Timeline attempts first (calls ++ t.map (Prod.mk i)) versions := by
  induction t generalizing calls with
  | nil => rwa [List.map_nil, List.append_nil]
  | cons e t ih =>
    obtain ⟨he, ht⟩ := List.forall_mem_cons.mp ht
    have hnext := ih (h.called hcopy (.aside he)) ht
    rwa [List.append_assoc] at hnext

/-! ### One version after the other -/

/-- The later version is an edit of the earlier one, or has the status that an attempt computed from
it. -/
inductive Follows (attempts : ι → Attempt) (earlier later : Version ι) : Prop
  | edited (hauthor : later.author = none) (hstatus : later.cluster.status = earlier.cluster.status)
  | computed {i : ι} {t : Trace} {status : Status} (hauthor : later.author = some i)
    (hcopy : (attempts i).copy = earlier.cluster) (ht : t <+: (attempts i).trace)
    (hrun : (compute earlier.cluster (attempts i).settings).Run t (.ok status))
    (hstatus : later.cluster.status = some status)

theorem Follows.continues {earlier later : Version ι} (h : Follows attempts earlier later) :
    earlier.status.Continues later.status := by
  unfold Version.status
  cases h with
  | edited hauthor hstatus =>
    rw [hstatus]
    exact .refl _
  | computed hauthor hcopy ht hrun hstatus =>
    rw [hstatus]
    exact continues_of_compute hrun

theorem isChain_concat_follows {current v : Version ι} (h : versions.IsChain (Follows attempts))
    (hcurrent : versions.getLast? = some current) (hv : Follows attempts current v) :
    (versions ++ [v]).IsChain (Follows attempts) := by
  refine List.isChain_append.mpr ⟨h, List.isChain_singleton _, fun w hw x hx => ?_⟩
  obtain rfl := Option.some.inj (hcurrent.symm.trans hw)
  obtain rfl := Option.some.inj hx
  exact hv

/-! ### What comes of the calls -/

variable [DecidableEq ι]

/-- The requests of one attempt. -/
def callsOf (i : ι) (calls : List (ι × Event)) : Trace :=
  (calls.filter fun call => call.1 = i).map Prod.snd

theorem callsOf_append (i : ι) (xs ys : List (ι × Event)) :
    callsOf i (xs ++ ys) = callsOf i xs ++ callsOf i ys := by
  unfold callsOf
  rw [List.filter_append, List.map_append]

theorem callsOf_map (i j : ι) (t : Trace) :
    callsOf i (t.map (Prod.mk j)) = if j = i then t else [] := by
  unfold callsOf
  rw [List.filter_map, List.map_map]
  split <;> rename_i h
  · simp [Function.comp_def, h]
  · simp [Function.comp_def, h]

theorem callsOf_singleton (i j : ι) (e : Event) :
    callsOf i [(j, e)] = if j = i then [e] else [] := callsOf_map i j [e]

/-- A version with an author comes from a write that was not refused for a conflict. -/
theorem Timeline.authored (h : Timeline attempts first calls versions) {v : Version ι}
    (hv : v ∈ versions) {i : ι} (hi : v.author = some i) :
    ∃ sent answer, ⟨.replaceStatus .cluster sent, answer⟩ ∈ callsOf i calls ∧
      ∀ e, answer = .error e → e.isConflict = false := by
  induction h with
  | start =>
    obtain rfl := List.mem_singleton.mp hv
    cases hi
  | edited h hcurrent hstatus hnew ih =>
    rcases List.mem_append.mp hv with hv | hv
    · exact ih hv
    · obtain rfl := List.mem_singleton.mp hv
      cases hi
  | @called calls versions versions' j e h hcopy hreacts ih =>
    -- What was written before this call still was.
    have hbefore : v ∈ versions → ∃ sent answer,
        ⟨.replaceStatus .cluster sent, answer⟩ ∈ callsOf i (calls ++ [(j, e)]) ∧
          ∀ e, answer = .error e → e.isConflict = false := by
      intro hv
      obtain ⟨sent, answer, hmem, hanswer⟩ := ih hv
      rw [callsOf_append]
      exact ⟨sent, answer, List.mem_append_left _ hmem, hanswer⟩
    cases hreacts with
    | refused => exact hbefore hv
    | aside => exact hbefore hv
    | @taken current sent stored answer hcurrent hnumber hstatus hnew hanswer =>
      rcases List.mem_append.mp hv with hv | hv
      · exact hbefore hv
      · obtain rfl := List.mem_singleton.mp hv
        obtain rfl := Option.some.inj hi
        rw [callsOf_append, callsOf_singleton, if_pos rfl]
        exact ⟨sent, answer, by simp, hanswer⟩

theorem Timeline.stored (h : Timeline attempts first calls versions) {i : ι} {sent answer : Cluster}
    (hmem : ⟨.replaceStatus .cluster sent, .ok answer⟩ ∈ callsOf i calls) :
    ∃ v ∈ versions, v.author = some i ∧ v.cluster.status = sent.status := by
  induction h with
  | start => cases hmem
  | edited h hcurrent hstatus hnew ih =>
    obtain ⟨v, hv, hauthor, hstatus⟩ := ih hmem
    exact ⟨v, List.mem_append_left _ hv, hauthor, hstatus⟩
  | @called calls versions versions' j e h hcopy hreacts ih =>
    rw [callsOf_append] at hmem
    rcases List.mem_append.mp hmem with hbefore | hlast
    · obtain ⟨v, hv, hauthor, hstatus⟩ := ih hbefore
      exact ⟨v, hreacts.subset hv, hauthor, hstatus⟩
    · rw [callsOf_singleton] at hlast
      split at hlast <;> rename_i hj
      · obtain rfl := hj
        obtain rfl := List.mem_singleton.mp hlast
        cases hreacts with
        | taken hcurrent hnumber hstatus hnew hanswer =>
          exact ⟨_, List.mem_concat_self, rfl, hstatus⟩
        | aside h => exact h.elim
      · cases hlast

/-- **Each version follows the one before it**: a status is taken from an attempt whose copy has the
number of the latest version, and there is no other version of that number. -/
theorem Timeline.isChain (h : Timeline attempts first calls versions)
    (horder : ∀ i, callsOf i calls <+: (attempts i).trace) :
    versions.IsChain (Follows attempts) := by
  induction h with
  | start => exact List.isChain_singleton _
  | edited h hcurrent hstatus hnew ih =>
    exact isChain_concat_follows (ih horder) hcurrent (.edited rfl hstatus)
  | @called calls versions versions' i e h hcopy hreacts ih =>
    -- The calls up to this one are in order as well.
    have hchain := ih fun j => (List.prefix_append ..).trans (callsOf_append j calls _ ▸ horder j)
    cases hreacts with
    | refused => exact hchain
    | aside => exact hchain
    | @taken current sent stored answer hcurrent hnumber hstatus hnew hanswer =>
      have hmem : ⟨.replaceStatus .cluster sent, answer⟩ ∈ (attempts i).trace := by
        refine (horder i).subset ?_
        rw [callsOf_append, callsOf_singleton, if_pos rfl]
        exact List.mem_concat_self
      obtain ⟨t, status, ht, hrun, rfl, -⟩ := Attempt.write hmem
      obtain ⟨v, hv, hcluster⟩ := List.mem_map.mp hcopy
      -- The copy is the latest version, as it has its number.
      have hv : v = current := List.inj_on_of_nodup_map h.nodup_numbers hv
        (List.mem_of_getLast? hcurrent) ((congrArg (·.metadata.version) hcluster).trans hnumber)
      subst hv
      have hprefix : t <+: (attempts i).trace := ht ▸ List.prefix_append ..
      exact isChain_concat_follows hchain hcurrent
        (.computed rfl hcluster.symm hprefix (hcluster ▸ hrun) hstatus)

/-! ### No status gets lost -/

/-- What holds of the versions whatever the order in which the requests of the attempts came. -/
structure Serial (attempts : ι → Attempt) (calls : List (ι × Event))
    (versions : List (Version ι)) : Prop where
  /-- Each status was computed from the one stored right before it. -/
  chain : versions.IsChain (Follows attempts)
  /-- Conditions go only when the history is full, and entries never. -/
  continues : versions.Pairwise fun earlier later => earlier.status.Continues later.status
  /-- An attempt that meets a conflict fails with it, and no version is its own. -/
  refused : ∀ (i : ι) (sent : Cluster) (e : Error), e.isConflict →
    ⟨.replaceStatus .cluster sent, .error e⟩ ∈ callsOf i calls →
      (attempts i).outcome = .error e ∧ ∀ v ∈ versions, v.author ≠ some i
  /-- What an attempt ends well with was there already or is stored, unless the cluster is gone. -/
  finished : ∀ (i : ι) (status : Status), callsOf i calls = (attempts i).trace →
    (attempts i).outcome = .ok status →
      (attempts i).copy.status = some status ∨
      (∃ v ∈ versions, v.author = some i ∧ v.cluster.status = some status) ∨
      ∃ sent e, e.isNotFound ∧ ⟨.replaceStatus .cluster sent, .error e⟩ ∈ callsOf i calls

/-- **No status gets lost**, whatever the order in which the requests of any number of attempts come
and wherever they stand. -/
theorem serial_of_timeline (h : Timeline attempts first calls versions)
    (horder : ∀ i, callsOf i calls <+: (attempts i).trace) : Serial attempts calls versions where
  chain := h.isChain horder
  continues := by
    have hchain := (h.isChain horder).imp fun _ _ => Follows.continues
    exact List.isChain_iff_pairwise.mp hchain
  refused i sent e he hmem := by
    have hwrite := (horder i).subset hmem
    constructor
    · obtain ⟨t, status, -, -, -, houtcome⟩ := Attempt.write hwrite
      rw [houtcome]
      exact afterWrite_of_isConflict he
    · intro v hv hauthor
      obtain ⟨sent', answer, hmem', hanswer⟩ := h.authored hv hauthor
      -- An attempt writes once: the write of the version is the one that was refused.
      have heq := Attempt.write_unique ((horder i).subset hmem') hwrite
      rw [hanswer e heq] at he
      cases he
  finished i status hall houtcome := by
    rcases Attempt.copy_or_write houtcome with hsame | ⟨answer, hanswer, hmem⟩
    · exact .inl hsame
    · rw [← hall] at hmem
      match answer with
      | .ok _ => exact .inr (.inl (h.stored hmem))
      | .error e =>
        refine .inr (.inr ⟨_, e, ?_, hmem⟩)
        by_contra hgone
        rw [afterWrite, if_neg hgone] at hanswer
        cases hanswer

/-! ### Two attempts that meet -/

/-- A cluster that has no status yet. -/
def soleCluster : Cluster where
  metadata := { name := some "sample", version := some "1" }

/-- What answers when the cluster has neither pods nor a workload, and its status is written. -/
def soleAnswer (write : Except Error Cluster) : (q : Request) → Unit → q.Answer × Unit
  | .list .pod _, s => (.ok [], s)
  | .get .secret _, s => (.ok none, s)
  | .get .workload _, s => (.ok none, s)
  | .replaceStatus .cluster _, s => (write, s)
  | q, s => ((Simulation.Nowhere.answer q { now := ⟨0, 0⟩ }).1, s)

/-- The cluster with the status that a pass comes to. -/
def soleSent : Cluster :=
  { soleCluster with
    status := some ⟨0, some .initializing, [⟨.initializing, .yes, ⟨0, 0⟩, none, none⟩], []⟩ }

/-- What is stored when the status is taken. -/
def soleStored : Cluster :=
  { soleSent with metadata := { soleSent.metadata with version := some "2" } }

/-- The answers to two writes for the same version: one is taken. -/
def soleWrite : Bool → Except Error Cluster
  | true => .ok soleStored
  | false => .error (.refused 409 "Conflict" "the object has been modified")

/-- Two attempts from one copy. -/
def meeting (i : Bool) : Attempt where
  copy := soleCluster
  settings := {}
  trace := (pass soleCluster {}).outcome.traceOf (soleAnswer (soleWrite i)) ()
  outcome := (Program.run (soleAnswer (soleWrite i)) (pass soleCluster {}).outcome ()).1
  run := Program.run_traceOf ..

/-- What both ask for before they write. -/
def meetingReads : Trace :=
  (compute soleCluster {}).outcome.traceOf (soleAnswer (.ok soleStored)) ()

/-- What both ask for, when they read before either writes. -/
def meetingCalls : List (Bool × Event) :=
  meetingReads.map (Prod.mk true) ++ meetingReads.map (Prod.mk false) ++
    [(true, ⟨.replaceStatus .cluster soleSent, soleWrite true⟩)] ++
    [(false, ⟨.replaceStatus .cluster soleSent, soleWrite false⟩)]

theorem callsOf_meetingCalls (i : Bool) : callsOf i meetingCalls = (meeting i).trace := by
  have htrace : (meeting i).trace =
      meetingReads ++ [⟨.replaceStatus .cluster soleSent, soleWrite i⟩] := by
    match i with
    | true => rfl
    | false => rfl
  rw [htrace]
  unfold meetingCalls
  simp only [callsOf_append, callsOf_map, callsOf_singleton]
  match i with
  | true => simp
  | false => simp

theorem timeline_meeting :
    Timeline meeting soleCluster meetingCalls [⟨soleCluster, none⟩, ⟨soleStored, some true⟩] := by
  have hreads : ∀ e ∈ meetingReads, e.request.LeavesClusters :=
    leavesClusters_of_compute (Program.run_traceOf _ _ _)
  have hcopy : ∀ i, (meeting i).copy ∈
      ([⟨soleCluster, none⟩] : List (Version Bool)).map Version.cluster := by simp [meeting]
  have hread : Timeline meeting soleCluster
      (meetingReads.map (Prod.mk true) ++ meetingReads.map (Prod.mk false)) [⟨soleCluster, none⟩] :=
    (Timeline.start.called_all (hcopy true) hreads).called_all (hcopy false) hreads
  have htaken : Reacts [⟨soleCluster, none⟩] true
      ⟨.replaceStatus .cluster soleSent, soleWrite true⟩
      [⟨soleCluster, none⟩, ⟨soleStored, some true⟩] := by
    refine .taken rfl rfl rfl ?_ ?_
    · simp [Version.number, soleCluster, soleStored]
    · intro e h
      cases h
  exact (hread.called (hcopy true) htaken).called (by simp [meeting]) .refused

/-- Of two attempts from one copy, the one that writes later fails, and the status of the other stays. -/
theorem serial_meeting :
    (∀ i, callsOf i meetingCalls = (meeting i).trace) ∧
      Serial meeting meetingCalls [⟨soleCluster, none⟩, ⟨soleStored, some true⟩] :=
  ⟨callsOf_meetingCalls,
    serial_of_timeline timeline_meeting fun i => callsOf_meetingCalls i ▸ List.prefix_refl _⟩

end Health

end RaftMysql
