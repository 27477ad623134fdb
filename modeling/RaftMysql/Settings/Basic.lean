import RaftMysql.Time.Basic
import RaftMysql.Error

/-!
# Settings

How often and how long to wait, section by section. The default of every setting is the value for
everyday operation; `Settings.quick` has short waits for trying things out. `Settings.check` refuses
settings under which a wait would never end or never begin.
-/

namespace RaftMysql

/-- A bounded wait: look every `interval` until `timeout` has passed. -/
structure Wait where
  interval : Duration
  timeout : Duration
  deriving DecidableEq, Repr

/-- Asking members how they are. -/
structure ProbeSettings where
  /-- How often a connection or the replication state is asked for before giving up. -/
  attempts : Nat := 3
  retryInterval : Duration := Duration.ofSeconds 3
  connectTimeout : Duration := Duration.ofSeconds 5
  agentTimeout : Duration := Duration.ofSeconds 5
  deriving DecidableEq, Repr

/-- Moving members to a new revision. -/
structure RolloutSettings where
  /-- For every member to be healthy before the first is taken down. -/
  healthyWait : Wait := ⟨Duration.ofSeconds 2, Duration.ofSeconds 60⟩
  /-- For one member to come back. -/
  podWait : Wait := ⟨Duration.ofSeconds 10, Duration.ofSeconds 7200⟩
  /-- For a follower to become leader. -/
  leaderTransfer : Wait := ⟨Duration.ofSeconds 5, Duration.ofSeconds 60⟩
  /-- For a leader to send what its followers still lack. -/
  binlogDrain : Wait := ⟨Duration.ofSeconds 2, Duration.ofSeconds 7200⟩
  /-- For the platform to notice a new workload. -/
  generationWait : Wait := ⟨Duration.ofSeconds 1, Duration.ofSeconds 60⟩
  deriving DecidableEq, Repr

/-- Growing storage claims. -/
structure StorageSettings where
  /-- For one claim to be resized. -/
  resizeWait : Wait := ⟨Duration.ofSeconds 2, Duration.ofSeconds 7200⟩
  deriving DecidableEq, Repr

/-- Observing clusters. -/
structure StatusSettings where
  /-- Between two passes. -/
  interval : Duration := Duration.ofSeconds 5
  /-- How long a group may go without a confirmed leader before that is an error. -/
  raftTolerance : Duration := Duration.ofSeconds 10
  /-- How long a pod may find no place before that is an error. -/
  schedulingTolerance : Duration := Duration.ofSeconds 60
  deriving DecidableEq, Repr

/-- Coming back to a cluster. -/
structure RequeueSettings where
  after : Duration := Duration.ofSeconds 60
  afterError : Duration := Duration.ofSeconds 60
  deriving DecidableEq, Repr

/-- All settings. -/
structure Settings where
  probe : ProbeSettings := {}
  rollout : RolloutSettings := {}
  storage : StorageSettings := {}
  status : StatusSettings := {}
  requeue : RequeueSettings := {}
  deriving DecidableEq, Repr

namespace Wait

/-- A wait in milliseconds. -/
def ofMillis (interval timeout : Nat) : Wait :=
  ⟨Duration.ofMillis interval, Duration.ofMillis timeout⟩

/-- A wait must look more than once in no time, and at least once in its time. -/
def check (name : String) (w : Wait) : Except Error Unit :=
  if w.interval = 0 then
    .error (.invalidSetting (name ++ ".interval") "Poll interval must be non-zero")
  else if w.timeout < w.interval then
    .error (.invalidSetting (name ++ ".timeout")
      "Poll timeout must not be shorter than the interval")
  else .ok ()

end Wait

namespace Settings

/-- Settings with short waits. -/
def quick : Settings where
  probe := ⟨3, Duration.ofMillis 5, Duration.ofMillis 200, Duration.ofMillis 200⟩
  rollout := ⟨.ofMillis 5 100, .ofMillis 5 500, .ofMillis 5 200, .ofMillis 5 200, .ofMillis 5 200⟩
  storage := ⟨.ofMillis 5 500⟩
  status := ⟨Duration.ofMillis 50, Duration.ofMillis 100, Duration.ofMillis 200⟩

/-- Every wait with the name of its setting. -/
def waits (s : Settings) : List (String × Wait) :=
  [("rollout.healthy_wait", s.rollout.healthyWait), ("rollout.pod_wait", s.rollout.podWait),
   ("rollout.leader_transfer", s.rollout.leaderTransfer),
   ("rollout.binlog_drain", s.rollout.binlogDrain),
   ("rollout.generation_wait", s.rollout.generationWait),
   ("storage.resize_wait", s.storage.resizeWait)]

/-- Settings under which every wait begins and ends. The first setting at fault is named. -/
def check (s : Settings) : Except Error Unit := do
  if s.probe.attempts = 0 then
    throw (.invalidSetting "probe.sql_retries" "At least one attempt is required")
  s.waits.forM fun w => w.2.check w.1
  if s.status.interval = 0 then
    throw (.invalidSetting "status.interval" "Status interval must be non-zero")

end Settings

end RaftMysql
