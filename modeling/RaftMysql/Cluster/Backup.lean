import RaftMysql.Cluster.Basic

/-!
# Backups

A `Backup` names the cluster it is taken of. It runs until its status says that it is complete.
-/

namespace RaftMysql

open Document

/-- What a backup is taken of. -/
structure BackupSpec where
  clusterName : String
  hostName : Option String := none
  deriving Repr, DecidableEq

/-- How far a backup has come. -/
structure BackupStatus where
  completed : Bool := false
  backupName : Option String := none
  state : Option String := none
  deriving Repr, DecidableEq

/-- A backup as it stands on the platform. -/
structure Backup where
  metadata : Metadata := {}
  spec : BackupSpec
  status : Option BackupStatus := none
  deriving Repr

namespace Backup

/-- The backup is of a cluster and not complete. -/
def isRunningFor (b : Backup) (cluster : String) : Bool :=
  b.spec.clusterName == cluster && !(b.status.map (·.completed)).getD false

/-- Reads what a backup is taken of. -/
def specOfDocument? : Reader BackupSpec := fun d => do
  let given ← fields? ["clusterName", "hostName"] d
  return ⟨← required given "clusterName" text?, ← field given "hostName" (optional? text?) none⟩

/-- Reads how far a backup has come. -/
def statusOfDocument? : Reader BackupStatus := fun d => do
  let given ← fields? ["completed", "backupName", "state"] d
  return ⟨← field given "completed" flag? false, ← field given "backupName" (optional? text?) none,
    ← field given "state" (optional? text?) none⟩

/-- Reads a backup. A list has to say of the status too that there is none. -/
def ofDocument? : Reader Backup := fun d => do
  let given ← allFields? ["metadata", "spec", "status"] d
  return ⟨← required given "metadata" Metadata.ofDocument?,
    ← required given "spec" specOfDocument?,
    ← field given "status" (optional? statusOfDocument?) none⟩

/-- Writes what a backup is taken of. -/
def specToJson (s : BackupSpec) : Json :=
  .ofMembers [("clusterName", some (.text s.clusterName)), ("hostName", s.hostName.map .text)]

/-- Writes how far a backup has come. -/
def statusToJson (s : BackupStatus) : Json :=
  .ofMembers [("completed", some (.flag s.completed)), ("backupName", s.backupName.map .text),
    ("state", s.state.map .text)]

/-- Writes a backup, which always names its kind. -/
def toJson (b : Backup) : Json :=
  .ofMembers [("apiVersion", some (.text Kind.backup.apiVersion)),
    ("kind", some (.text Kind.backup.name)), ("metadata", some b.metadata.toJson),
    ("spec", some (specToJson b.spec)), ("status", b.status.map statusToJson)]

end Backup

end RaftMysql
