import RaftMysql.Settings.Form
import RaftMysql.Proofs.Program.Schedule
import RaftMysql.Proofs.Settings.Layout
import RaftMysql.Proofs.Text.Utf8
import RaftMysql.Proofs.Time.Pieces

/-!
# Settings in files

Settings fit (`Settings.Fits`) if their number of attempts is one of 32 bits and every length of time is one
of seconds of 64 bits and nanoseconds. Each section is read from whatever tells it
(`ProbeSettings.reads_layout` and its like), and so are settings. What is written for settings that
fit tells them (`Settings.Fits.tells_toJson`), and tells them with their defaults where parts of it are left
out; so a file of such a text has these settings, if they are accepted (`Settings.kept_in_files`).
-/

namespace RaftMysql

open Document

/-! ### Sections -/

namespace ProbeSettings

/-- The settings of the section about asking members. -/
def layout : Layout ProbeSettings where
  base := {}
  entries :=
    [.whole "sql_retries" nat32? (fun n => .int n) attempts
       fun a s => { s with attempts := a },
     .whole "sql_retry_interval" Duration.ofDocument? Duration.toJson retryInterval
       fun a s => { s with retryInterval := a },
     .whole "connect_timeout" Duration.ofDocument? Duration.toJson connectTimeout
       fun a s => { s with connectTimeout := a },
     .whole "http_timeout" Duration.ofDocument? Duration.toJson agentTimeout
       fun a s => { s with agentTimeout := a }]

theorem reads_layout : Reads ofDocument? layout.Tells := by
  intro v s d htells hshows
  obtain ⟨given, hgiven, hfound⟩ := htells.found hshows
    ["sql_retries", "sql_retry_interval", "connect_timeout", "http_timeout"]
  refine Option.bind_eq_some_iff.mpr ⟨given, hgiven, ?_⟩
  refine Option.bind_eq_some_iff.mpr ⟨s.attempts, hfound.whole 0 rfl, ?_⟩
  refine Option.bind_eq_some_iff.mpr ⟨s.retryInterval, hfound.whole 1 rfl, ?_⟩
  refine Option.bind_eq_some_iff.mpr ⟨s.connectTimeout, hfound.whole 2 rfl, ?_⟩
  refine Option.bind_eq_some_iff.mpr ⟨s.agentTimeout, hfound.whole 3 rfl, ?_⟩
  rfl

end ProbeSettings

namespace RolloutSettings

/-- The settings of the section about new revisions. -/
def layout : Layout RolloutSettings where
  base := {}
  entries :=
    [.whole "healthy_wait" Wait.ofDocument? Wait.toJson healthyWait
       fun a s => { s with healthyWait := a },
     .whole "pod_wait" Wait.ofDocument? Wait.toJson podWait
       fun a s => { s with podWait := a },
     .whole "leader_transfer" Wait.ofDocument? Wait.toJson leaderTransfer
       fun a s => { s with leaderTransfer := a },
     .whole "binlog_drain" Wait.ofDocument? Wait.toJson binlogDrain
       fun a s => { s with binlogDrain := a },
     .whole "generation_wait" Wait.ofDocument? Wait.toJson generationWait
       fun a s => { s with generationWait := a }]

theorem reads_layout : Reads ofDocument? layout.Tells := by
  intro v s d htells hshows
  obtain ⟨given, hgiven, hfound⟩ := htells.found hshows
    ["healthy_wait", "pod_wait", "leader_transfer", "binlog_drain", "generation_wait"]
  refine Option.bind_eq_some_iff.mpr ⟨given, hgiven, ?_⟩
  refine Option.bind_eq_some_iff.mpr ⟨s.healthyWait, hfound.whole 0 rfl, ?_⟩
  refine Option.bind_eq_some_iff.mpr ⟨s.podWait, hfound.whole 1 rfl, ?_⟩
  refine Option.bind_eq_some_iff.mpr ⟨s.leaderTransfer, hfound.whole 2 rfl, ?_⟩
  refine Option.bind_eq_some_iff.mpr ⟨s.binlogDrain, hfound.whole 3 rfl, ?_⟩
  refine Option.bind_eq_some_iff.mpr ⟨s.generationWait, hfound.whole 4 rfl, ?_⟩
  rfl

end RolloutSettings

namespace StorageSettings

/-- The settings of the section about storage claims. -/
def layout : Layout StorageSettings where
  base := {}
  entries :=
    [.whole "resize_wait" Wait.ofDocument? Wait.toJson resizeWait
       fun a s => { s with resizeWait := a }]

theorem reads_layout : Reads ofDocument? layout.Tells := by
  intro v s d htells hshows
  obtain ⟨given, hgiven, hfound⟩ := htells.found hshows ["resize_wait"]
  refine Option.bind_eq_some_iff.mpr ⟨given, hgiven, ?_⟩
  refine Option.bind_eq_some_iff.mpr ⟨s.resizeWait, hfound.whole 0 rfl, ?_⟩
  rfl

end StorageSettings

namespace StatusSettings

/-- The settings of the section about observing clusters. -/
def layout : Layout StatusSettings where
  base := {}
  entries :=
    [.whole "interval" Duration.ofDocument? Duration.toJson interval
       fun a s => { s with interval := a },
     .whole "raft_not_ready_tolerance" Duration.ofDocument? Duration.toJson raftTolerance
       fun a s => { s with raftTolerance := a },
     .whole "unschedulable_tolerance" Duration.ofDocument? Duration.toJson schedulingTolerance
       fun a s => { s with schedulingTolerance := a }]

theorem reads_layout : Reads ofDocument? layout.Tells := by
  intro v s d htells hshows
  obtain ⟨given, hgiven, hfound⟩ := htells.found hshows
    ["interval", "raft_not_ready_tolerance", "unschedulable_tolerance"]
  refine Option.bind_eq_some_iff.mpr ⟨given, hgiven, ?_⟩
  refine Option.bind_eq_some_iff.mpr ⟨s.interval, hfound.whole 0 rfl, ?_⟩
  refine Option.bind_eq_some_iff.mpr ⟨s.raftTolerance, hfound.whole 1 rfl, ?_⟩
  refine Option.bind_eq_some_iff.mpr ⟨s.schedulingTolerance, hfound.whole 2 rfl, ?_⟩
  rfl

end StatusSettings

namespace RequeueSettings

/-- The settings of the section about coming back. -/
def layout : Layout RequeueSettings where
  base := {}
  entries :=
    [.whole "requeue_after" Duration.ofDocument? Duration.toJson after
       fun a s => { s with after := a },
     .whole "error_requeue_after" Duration.ofDocument? Duration.toJson afterError
       fun a s => { s with afterError := a }]

theorem reads_layout : Reads ofDocument? layout.Tells := by
  intro v s d htells hshows
  obtain ⟨given, hgiven, hfound⟩ := htells.found hshows ["requeue_after", "error_requeue_after"]
  refine Option.bind_eq_some_iff.mpr ⟨given, hgiven, ?_⟩
  refine Option.bind_eq_some_iff.mpr ⟨s.after, hfound.whole 0 rfl, ?_⟩
  refine Option.bind_eq_some_iff.mpr ⟨s.afterError, hfound.whole 1 rfl, ?_⟩
  rfl

end RequeueSettings

namespace Settings

/-- The sections of the settings. -/
def layout : Layout Settings where
  base := {}
  entries :=
    [ProbeSettings.layout.entry "probe" ProbeSettings.toJson probe fun a s => { s with probe := a },
     RolloutSettings.layout.entry "rollout" RolloutSettings.toJson rollout
       fun a s => { s with rollout := a },
     StorageSettings.layout.entry "storage" StorageSettings.toJson storage
       fun a s => { s with storage := a },
     StatusSettings.layout.entry "status" StatusSettings.toJson status fun a s => { s with status := a },
     RequeueSettings.layout.entry "controller" RequeueSettings.toJson requeue
       fun a s => { s with requeue := a }]
  nodup := by simp [Layout.entry]
  value_put := by simp [Layout.entry]
  put_value := by simp [Layout.entry]
  value_put_of_ne := by simp [Layout.entry]
  inner_kept := by
    simp only [List.forall_mem_cons]
    exact ⟨ProbeSettings.layout.kept, RolloutSettings.layout.kept, StorageSettings.layout.kept,
      StatusSettings.layout.kept, RequeueSettings.layout.kept, by simp⟩

/-- The parts of the settings that a file may leave out: every section, and every setting of a section. -/
def parts : List (Part Settings) :=
  let base : Settings := {}
  [⟨["probe"], fun s => { s with probe := base.probe }⟩,
   ⟨["probe", "sql_retries"], fun s => { s with probe.attempts := base.probe.attempts }⟩,
   ⟨["probe", "sql_retry_interval"], fun s => { s with probe.retryInterval := base.probe.retryInterval }⟩,
   ⟨["probe", "connect_timeout"], fun s => { s with probe.connectTimeout := base.probe.connectTimeout }⟩,
   ⟨["probe", "http_timeout"], fun s => { s with probe.agentTimeout := base.probe.agentTimeout }⟩,
   ⟨["rollout"], fun s => { s with rollout := base.rollout }⟩,
   ⟨["rollout", "healthy_wait"], fun s => { s with rollout.healthyWait := base.rollout.healthyWait }⟩,
   ⟨["rollout", "pod_wait"], fun s => { s with rollout.podWait := base.rollout.podWait }⟩,
   ⟨["rollout", "leader_transfer"],
     fun s => { s with rollout.leaderTransfer := base.rollout.leaderTransfer }⟩,
   ⟨["rollout", "binlog_drain"], fun s => { s with rollout.binlogDrain := base.rollout.binlogDrain }⟩,
   ⟨["rollout", "generation_wait"],
     fun s => { s with rollout.generationWait := base.rollout.generationWait }⟩,
   ⟨["storage"], fun s => { s with storage := base.storage }⟩,
   ⟨["storage", "resize_wait"], fun s => { s with storage.resizeWait := base.storage.resizeWait }⟩,
   ⟨["status"], fun s => { s with status := base.status }⟩,
   ⟨["status", "interval"], fun s => { s with status.interval := base.status.interval }⟩,
   ⟨["status", "raft_not_ready_tolerance"],
     fun s => { s with status.raftTolerance := base.status.raftTolerance }⟩,
   ⟨["status", "unschedulable_tolerance"],
     fun s => { s with status.schedulingTolerance := base.status.schedulingTolerance }⟩,
   ⟨["controller"], fun s => { s with requeue := base.requeue }⟩,
   ⟨["controller", "requeue_after"], fun s => { s with requeue.after := base.requeue.after }⟩,
   ⟨["controller", "error_requeue_after"],
     fun s => { s with requeue.afterError := base.requeue.afterError }⟩]

theorem parts_eq_layout : parts = layout.parts := rfl

/-- **Settings are read** from whatever tells them. -/
theorem reads_layout : Reads ofDocument? layout.Tells := by
  intro v s d htells hshows
  obtain ⟨given, hgiven, hfound⟩ :=
    htells.found hshows ["probe", "rollout", "storage", "status", "controller"]
  refine Option.bind_eq_some_iff.mpr ⟨given, hgiven, ?_⟩
  refine Option.bind_eq_some_iff.mpr ⟨s.probe,
    hfound.entry 0 rfl ProbeSettings.reads_layout, ?_⟩
  refine Option.bind_eq_some_iff.mpr ⟨s.rollout,
    hfound.entry 1 rfl RolloutSettings.reads_layout, ?_⟩
  refine Option.bind_eq_some_iff.mpr ⟨s.storage,
    hfound.entry 2 rfl StorageSettings.reads_layout, ?_⟩
  refine Option.bind_eq_some_iff.mpr ⟨s.status,
    hfound.entry 3 rfl StatusSettings.reads_layout, ?_⟩
  refine Option.bind_eq_some_iff.mpr ⟨s.requeue,
    hfound.entry 4 rfl RequeueSettings.reads_layout, ?_⟩
  rfl

end Settings

/-! ### Written settings -/

namespace Settings

/-- Every length of time of the settings. -/
def durations (s : Settings) : List Duration :=
  s.waits.flatMap (fun w => [w.2.interval, w.2.timeout]) ++
    [s.probe.retryInterval, s.probe.connectTimeout, s.probe.agentTimeout, s.status.interval,
      s.status.raftTolerance, s.status.schedulingTolerance, s.requeue.after, s.requeue.afterError]

/-- The number of attempts is one of 32 bits, and every length of time is one of seconds of 64 bits and
nanoseconds. -/
structure Fits (s : Settings) : Prop where
  attempts : s.probe.attempts < 2 ^ 32
  seconds : ∀ d ∈ s.durations, d.seconds < 2 ^ 64

end Settings

theorem Duration.ofDocument?_of_shows {t : Duration} (h : t.seconds < 2 ^ 64) (d : Document)
    (hd : d.Shows t.toJson) : ofDocument? d = some t := by
  rw [hd.text]
  exact read?_write h

theorem Wait.ofDocument?_of_shows {w : Wait} (hinterval : w.interval.seconds < 2 ^ 64)
    (htimeout : w.timeout.seconds < 2 ^ 64) (d : Document) (hd : d.Shows w.toJson) :
    ofDocument? d = some w := by
  obtain ⟨given, hgiven, hshows⟩ := hd.fields? (Table.sorted_ofPairs _) ["interval", "timeout"]
  have hpart {name : String} {t : Duration} (ht : t.seconds < 2 ^ 64)
      (hname : w.toJson.member? name = some t.toJson) :
      required given name Duration.ofDocument? = some t := by
    have hfound := hshows name
    rw [show Table.get? _ name = _ from hname] at hfound
    rw [required]
    generalize given name = found at hfound
    cases hfound with
    | some hfound => exact Duration.ofDocument?_of_shows ht _ hfound
  refine Option.bind_eq_some_iff.mpr ⟨given, hgiven, ?_⟩
  refine Option.bind_eq_some_iff.mpr ⟨w.interval, hpart hinterval (by simp [toJson]), ?_⟩
  refine Option.bind_eq_some_iff.mpr ⟨w.timeout, hpart htimeout (by simp [toJson]), ?_⟩
  rfl

theorem Document.nat32?_of_shows {n : ℕ} (h : n < 2 ^ 32) (d : Document) (hd : d.Shows (.int n)) :
    nat32? d = some n := by
  have hbounds : (0 : ℤ) ≤ n ∧ (n : ℤ) ≤ 4294967295 := by omega
  rw [hd.int, nat32?, intBetween?, if_pos hbounds, Option.map_some, Int.toNat_natCast]

namespace Settings

variable {s : Settings}

theorem Fits.duration (h : s.Fits) (i : ℕ) {t : Duration} (hi : s.durations[i]? = some t) (d : Document)
    (hd : d.Shows t.toJson) : Duration.ofDocument? d = some t :=
  Duration.ofDocument?_of_shows (h.seconds t (List.mem_of_getElem? hi)) d hd

theorem Fits.wait (h : s.Fits) (i : ℕ) {name : String} {w : Wait} (hi : s.waits[i]? = some (name, w))
    (d : Document) (hd : d.Shows w.toJson) : Wait.ofDocument? d = some w := by
  have hpart : ∀ t ∈ [w.interval, w.timeout], t ∈ s.durations := fun t ht =>
    List.mem_append_left _ (List.mem_flatMap.mpr ⟨(name, w), List.mem_of_getElem? hi, ht⟩)
  exact Wait.ofDocument?_of_shows (h.seconds _ (hpart _ (by simp))) (h.seconds _ (hpart _ (by simp))) d hd

theorem Fits.tells_probe (h : s.Fits) : ProbeSettings.layout.Tells s.probe.toJson s.probe := by
  refine ProbeSettings.layout.tells_ofPairs ?_
  simp only [ProbeSettings.layout, List.forall_mem_cons]
  exact ⟨nat32?_of_shows h.attempts, h.duration 12 rfl, h.duration 13 rfl, h.duration 14 rfl, by simp⟩

theorem Fits.tells_rollout (h : s.Fits) : RolloutSettings.layout.Tells s.rollout.toJson s.rollout := by
  refine RolloutSettings.layout.tells_ofPairs ?_
  simp only [RolloutSettings.layout, List.forall_mem_cons]
  exact ⟨h.wait 0 rfl, h.wait 1 rfl, h.wait 2 rfl, h.wait 3 rfl, h.wait 4 rfl, by simp⟩

theorem Fits.tells_storage (h : s.Fits) : StorageSettings.layout.Tells s.storage.toJson s.storage := by
  refine StorageSettings.layout.tells_ofPairs ?_
  simp only [StorageSettings.layout, List.forall_mem_cons]
  exact ⟨h.wait 5 rfl, by simp⟩

theorem Fits.tells_status (h : s.Fits) : StatusSettings.layout.Tells s.status.toJson s.status := by
  refine StatusSettings.layout.tells_ofPairs ?_
  simp only [StatusSettings.layout, List.forall_mem_cons]
  exact ⟨h.duration 15 rfl, h.duration 16 rfl, h.duration 17 rfl, by simp⟩

theorem Fits.tells_requeue (h : s.Fits) : RequeueSettings.layout.Tells s.requeue.toJson s.requeue := by
  refine RequeueSettings.layout.tells_ofPairs ?_
  simp only [RequeueSettings.layout, List.forall_mem_cons]
  exact ⟨h.duration 18 rfl, h.duration 19 rfl, by simp⟩

/-- **What is written** for settings that fit tells them. -/
theorem Fits.tells_toJson (h : s.Fits) : layout.Tells s.toJson s := by
  refine layout.tells_ofPairs ?_
  simp only [layout, List.forall_mem_cons]
  exact ⟨h.tells_probe, h.tells_rollout, h.tells_storage, h.tells_status, h.tells_requeue, by simp⟩

/-! ### The text of settings -/

theorem plain_toJson (s : Settings) {n : ℕ} (h : s.probe.attempts < 2 ^ 32) : s.toJson.Plain (n + 3) := by
  have hduration (d : Duration) (n : ℕ) : d.toJson.Plain n := Json.plain_text n _
  have hwait (w : Wait) (n : ℕ) : w.toJson.Plain (n + 1) := by
    rw [Wait.toJson, Json.ofPairs_eq_ofMembers]
    exact Json.plain_ofMembers (by simp [hduration])
  have hattempts : (Json.int s.probe.attempts).Plain (n + 1) := by
    rw [Json.Plain]
    omega
  rw [toJson, Json.ofPairs_eq_ofMembers]
  refine Json.plain_ofMembers ?_
  simp only [List.map_cons, List.map_nil, List.forall_mem_cons, Option.mem_some_iff, forall_eq',
    ProbeSettings.toJson, RolloutSettings.toJson, StorageSettings.toJson, StatusSettings.toJson,
    RequeueSettings.toJson, Json.ofPairs_eq_ofMembers]
  refine ⟨?_, ?_, ?_, ?_, ?_, by simp⟩ <;>
    exact Json.plain_ofMembers (by simp [hduration, hwait, hattempts])

/-! ### Files -/

theorem exists_of_forM_eq_error {α : Type} {f : α → Except Error Unit} {l : List α} {e : Error}
    (h : l.forM f = .error e) : ∃ x ∈ l, f x = .error e := by
  induction l with
  | nil => cases h
  | cons a l ih =>
    change (f a >>= fun _ => l.forM f) = .error e at h
    cases ha : f a with
    | error e' =>
      rw [ha] at h
      exact ⟨a, List.mem_cons_self, ha.trans h⟩
    | ok u =>
      rw [ha] at h
      obtain ⟨x, hx, hfx⟩ := ih h
      exact ⟨x, List.mem_cons_of_mem _ hx, hfx⟩

theorem check_eq_error {e : Error} (h : s.check = .error e) :
    ∃ setting reason, e = .invalidSetting setting reason := by
  unfold check at h
  by_cases hattempts : s.probe.attempts = 0
  · rw [if_pos hattempts] at h
    cases h
    exact ⟨_, _, rfl⟩
  · rw [if_neg hattempts] at h
    cases hwaits : s.waits.forM fun w => w.2.check w.1 with
    | error e' =>
      rw [hwaits] at h
      obtain rfl : e' = e := Except.error.inj h
      obtain ⟨w, -, hw⟩ := exists_of_forM_eq_error hwaits
      unfold Wait.check at hw
      split at hw
      · exact ⟨_, _, (Except.error.inj hw).symm⟩
      · split at hw
        · exact ⟨_, _, (Except.error.inj hw).symm⟩
        · cases hw
    | ok u =>
      rw [hwaits] at h
      by_cases hinterval : s.status.interval = 0
      · change (if s.status.interval = 0 then _ else _) = _ at h
        rw [if_pos hinterval] at h
        cases h
        exact ⟨_, _, rfl⟩
      · change (if s.status.interval = 0 then _ else _) = _ at h
        rw [if_neg hinterval] at h
        cases h

theorem ofBytes_of_read {path text : String} (h : (Document.read? text).bind ofDocument? = some s) :
    ofBytes path (some (Text.Utf8.bytes text)) = s.check.map fun _ => s := by
  rw [ofBytes, Option.bind_some, Text.Utf8.decode?_bytes]
  simp only [h]
  cases s.check <;> rfl

/-- A value stands for settings: it is read from its own text, they are read from every document of it, and a
file of any text of it has them just when they are accepted, and is refused for the reason they are. -/
structure StoredAs (s : Settings) (v : Json) : Prop where
  written : Document.read? v.write = some (.ofJson v)
  decoded : ∀ d : Document, d.Shows v → ofDocument? d = some s
  loaded : ∀ path text d, Document.read? text = some d → d.Shows v →
    (ofBytes path (some (Text.Utf8.bytes text)) = .ok s ↔ s.check = .ok ())
  refused : ∀ path text d, Document.read? text = some d → d.Shows v →
    ∀ e, ofBytes path (some (Text.Utf8.bytes text)) = .error e ↔ s.check = .error e
  reason : ∀ e, s.check = .error e → ∃ setting reason, e = .invalidSetting setting reason

theorem storedAs_of_tells {v : Json} (h : layout.Tells v s) (hplain : v.Plain Document.maxDepth) :
    s.StoredAs v where
  written := Document.read?_write hplain
  decoded _ hd := reads_layout h hd
  loaded path text d htext hd := by
    rw [ofBytes_of_read (by rw [htext]; exact reads_layout h hd)]
    cases s.check <;> simp [Except.map]
  refused path text d htext hd e := by
    rw [ofBytes_of_read (by rw [htext]; exact reads_layout h hd)]
    cases s.check <;> simp [Except.map]
  reason _ := check_eq_error

/-- **Settings are kept in files.** Settings that fit are read from what is written for them, and a file of
it has them just when they are accepted, and is refused for the reason they are. With any parts of them
left out of it, sections or settings of a section, they are read with the defaults of those parts and no
other change. -/
theorem kept_in_files (h : s.Fits) :
    s.StoredAs s.toJson ∧ ∀ ps : List (Part Settings), (∀ p ∈ ps, p ∈ parts) →
      (ps.foldl (fun s p => p.reset s) s).StoredAs (ps.foldl (fun v p => v.eraseAt p.path) s.toJson) := by
  have htells := h.tells_toJson
  have hplain : s.toJson.Plain Document.maxDepth := s.plain_toJson h.attempts
  refine ⟨storedAs_of_tells htells hplain, fun ps hps => ?_⟩
  rw [parts_eq_layout] at hps
  exact storedAs_of_tells (layout.tells_foldl_eraseAt hps htells) (hplain.foldl_eraseAt ps)

/-- Settings with the longest length of time that there is, and no time between passes. -/
def unpausedSettings : Settings :=
  { quick with status := ⟨0, 18446744073709551616 * 1000000000 - 1, Duration.ofMillis 1500⟩ }

theorem kept_in_files_unpaused : unpausedSettings.Fits ∧
    ofBytes "settings.json" (some (Text.Utf8.bytes unpausedSettings.toJson.write)) =
      .error (.invalidSetting "status.interval" "Status interval must be non-zero") ∧
    ofBytes "settings.json" (some (Text.Utf8.bytes
        ((unpausedSettings.toJson.eraseAt ["status", "interval"]).eraseAt ["rollout"]).write)) =
      .ok { unpausedSettings with status.interval := Duration.ofSeconds 5, rollout := {} } := by
  have hfits : unpausedSettings.Fits := ⟨by decide, by decide⟩
  obtain ⟨hwhole, hparts⟩ := kept_in_files hfits
  have hleft := hparts [parts[14], parts[5]] (by simp)
  exact ⟨hfits, (hwhole.refused _ _ _ hwhole.written (.written _) _).mpr rfl,
    (hleft.loaded _ _ _ hleft.written (.written _)).mpr rfl⟩

end Settings

end RaftMysql
