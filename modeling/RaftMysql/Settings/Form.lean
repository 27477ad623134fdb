import RaftMysql.Settings.Basic
import RaftMysql.Json.Decode
import RaftMysql.Json.Reader
import RaftMysql.Time.Span
import RaftMysql.Text.Utf8

/-!
# Settings as text

Settings are written as JSON, a record of sections with lengths of time as texts. A section or a
setting that is left out has its default; a wait has both of its parts or none. `Settings.ofBytes`
reads the content of a file and checks what it finds.
-/

namespace RaftMysql

open Document

/-- A length of time. -/
def Duration.ofDocument? : Reader Duration := fun d => (text? d).bind Duration.read?

/-- A length of time as a text. -/
def Duration.toJson (d : Duration) : Json := .text d.write

namespace Wait

/-- Reads a wait, which has both of its parts. -/
def ofDocument? : Reader Wait := fun d => do
  let given ← fields? ["interval", "timeout"] d
  return ⟨← required given "interval" Duration.ofDocument?,
    ← required given "timeout" Duration.ofDocument?⟩

/-- Writes a wait. -/
def toJson (w : Wait) : Json :=
  .ofPairs [("interval", Duration.toJson w.interval), ("timeout", Duration.toJson w.timeout)]

end Wait

namespace ProbeSettings

/-- Reads the section about asking members. -/
def ofDocument? : Reader ProbeSettings := fun d => do
  let given ← fields? ["sql_retries", "sql_retry_interval", "connect_timeout", "http_timeout"] d
  let base : ProbeSettings := {}
  return ⟨← field given "sql_retries" nat32? base.attempts,
    ← field given "sql_retry_interval" Duration.ofDocument? base.retryInterval,
    ← field given "connect_timeout" Duration.ofDocument? base.connectTimeout,
    ← field given "http_timeout" Duration.ofDocument? base.agentTimeout⟩

/-- Writes the section about asking members. -/
def toJson (s : ProbeSettings) : Json :=
  .ofPairs [("sql_retries", .int s.attempts),
    ("sql_retry_interval", Duration.toJson s.retryInterval),
    ("connect_timeout", Duration.toJson s.connectTimeout),
    ("http_timeout", Duration.toJson s.agentTimeout)]

end ProbeSettings

namespace RolloutSettings

/-- Reads the section about new revisions. -/
def ofDocument? : Reader RolloutSettings := fun d => do
  let given ← fields?
    ["healthy_wait", "pod_wait", "leader_transfer", "binlog_drain", "generation_wait"] d
  let base : RolloutSettings := {}
  return ⟨← field given "healthy_wait" Wait.ofDocument? base.healthyWait,
    ← field given "pod_wait" Wait.ofDocument? base.podWait,
    ← field given "leader_transfer" Wait.ofDocument? base.leaderTransfer,
    ← field given "binlog_drain" Wait.ofDocument? base.binlogDrain,
    ← field given "generation_wait" Wait.ofDocument? base.generationWait⟩

/-- Writes the section about new revisions. -/
def toJson (s : RolloutSettings) : Json :=
  .ofPairs [("healthy_wait", s.healthyWait.toJson), ("pod_wait", s.podWait.toJson),
    ("leader_transfer", s.leaderTransfer.toJson), ("binlog_drain", s.binlogDrain.toJson),
    ("generation_wait", s.generationWait.toJson)]

end RolloutSettings

namespace StorageSettings

/-- Reads the section about storage claims. -/
def ofDocument? : Reader StorageSettings := fun d => do
  let given ← fields? ["resize_wait"] d
  let base : StorageSettings := {}
  return ⟨← field given "resize_wait" Wait.ofDocument? base.resizeWait⟩

/-- Writes the section about storage claims. -/
def toJson (s : StorageSettings) : Json := .ofPairs [("resize_wait", s.resizeWait.toJson)]

end StorageSettings

namespace StatusSettings

/-- Reads the section about observing clusters. -/
def ofDocument? : Reader StatusSettings := fun d => do
  let given ← fields? ["interval", "raft_not_ready_tolerance", "unschedulable_tolerance"] d
  let base : StatusSettings := {}
  return ⟨← field given "interval" Duration.ofDocument? base.interval,
    ← field given "raft_not_ready_tolerance" Duration.ofDocument? base.raftTolerance,
    ← field given "unschedulable_tolerance" Duration.ofDocument? base.schedulingTolerance⟩

/-- Writes the section about observing clusters. -/
def toJson (s : StatusSettings) : Json :=
  .ofPairs [("interval", Duration.toJson s.interval),
    ("raft_not_ready_tolerance", Duration.toJson s.raftTolerance),
    ("unschedulable_tolerance", Duration.toJson s.schedulingTolerance)]

end StatusSettings

namespace RequeueSettings

/-- Reads the section about coming back. -/
def ofDocument? : Reader RequeueSettings := fun d => do
  let given ← fields? ["requeue_after", "error_requeue_after"] d
  let base : RequeueSettings := {}
  return ⟨← field given "requeue_after" Duration.ofDocument? base.after,
    ← field given "error_requeue_after" Duration.ofDocument? base.afterError⟩

/-- Writes the section about coming back. -/
def toJson (s : RequeueSettings) : Json :=
  .ofPairs [("requeue_after", Duration.toJson s.after),
    ("error_requeue_after", Duration.toJson s.afterError)]

end RequeueSettings

namespace Settings

/-- Reads settings. -/
def ofDocument? : Reader Settings := fun d => do
  let given ← fields? ["probe", "rollout", "storage", "status", "controller"] d
  return ⟨← field given "probe" ProbeSettings.ofDocument? {},
    ← field given "rollout" RolloutSettings.ofDocument? {},
    ← field given "storage" StorageSettings.ofDocument? {},
    ← field given "status" StatusSettings.ofDocument? {},
    ← field given "controller" RequeueSettings.ofDocument? {}⟩

/-- Writes settings. -/
def toJson (s : Settings) : Json :=
  .ofPairs [("probe", s.probe.toJson), ("rollout", s.rollout.toJson),
    ("storage", s.storage.toJson), ("status", s.status.toJson),
    ("controller", s.requeue.toJson)]

/-- The settings of a file, from its path for error messages and its content, if it has any. -/
def ofBytes (path : String) (content : Option (List UInt8)) : Except Error Settings := do
  let some written := content.bind Text.Utf8.decode?
    | throw (.invalidSetting path "Failed to read config file")
  let some settings := (Document.read? written).bind ofDocument?
    | throw (.invalidSetting path "Failed to parse config")
  settings.check
  return settings

end Settings

end RaftMysql
