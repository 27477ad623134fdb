import RaftMysql.Text.Quoted

/-!
# What can go wrong

`Error` lists the causes for which an operation fails. `message?` is the text for people; four
causes carry a text that some other party words, and have none here. The tests below it sort the
causes the way callers need: refused for its content, absent, written by someone else in between,
worth another try.

One cause is no answer to a caller: a number that outgrows its type (`overflow`) ends the program. It
passes through every caller, which only puts back what it must, and nobody counts or tells it.
-/

namespace RaftMysql

/-- A cause of failure. -/
inductive Error where
  /-- The platform answered with a status of its own. -/
  | refused (code : Nat) (reason message : String)
  /-- The platform could not be asked or its answer could not be read. -/
  | platform
  /-- The platform does not know clusters. -/
  | definitionMissing
  /-- A database server could not be talked to. -/
  | database
  /-- A consensus agent could not be talked to. -/
  | agentUnreachable
  /-- A consensus agent answered with something other than success. -/
  | agentRefused (host path : String) (status : Nat)
  /-- A secret lacks one of its keys. -/
  | missingSecretKey (secret key : String)
  /-- A setting is not usable. -/
  | invalidSetting (field reason : String)
  /-- A cluster asks for something that cannot be run. -/
  | invalidSpec (reason : String)
  /-- Something that must exist does not. -/
  | notFound (what : String)
  /-- A wait ended without success. -/
  | timeout (what : String)
  /-- A member is not healthy, so no other member may be taken down. -/
  | memberUnhealthy (pod : String)
  /-- A backup of the cluster is running. -/
  | backupRunning (cluster : String)
  /-- A pod failed for good. -/
  | podFailed (pod : String)
  /-- A pod is healthy, but not at the revision it was replaced for. -/
  | podOutdated (pod : String)
  /-- Replication of a member is not in order. -/
  | replication (reason : String)
  /-- The cluster is being deleted. -/
  | ownerDeleted
  /-- An object has not the form that its kind prescribes. -/
  | malformed
  /-- Something that cannot happen did. -/
  | internal (reason : String)
  /-- A number outgrew its type, with which the program ends. -/
  | overflow
  deriving DecidableEq, Repr, Inhabited

namespace Error

/-- The text for people, unless another party words it. -/
def message? : Error → Option String
  | refused code reason message => some (
      "Kubernetes API error: ApiError: " ++ message ++ ": " ++ reason
        ++ " (ErrorResponse \x7b status: \"Failure\", message: " ++ Text.quoted message
        ++ ", reason: " ++ Text.quoted reason ++ ", code: " ++ toString code ++ " \x7d)")
  | platform | database | agentUnreachable | malformed | overflow => none
  | definitionMissing =>
    some "CRD not installed. Please install the MysqlCluster CRDs first."
  | agentRefused host path status => some (
      "Consensus agent at " ++ host ++ " answered " ++ path ++ " with HTTP " ++ toString status)
  | missingSecretKey secret key => some ("Secret " ++ secret ++ " has no key " ++ key)
  | invalidSetting field reason =>
    some ("Invalid configuration for " ++ field ++ ": " ++ reason)
  | invalidSpec reason => some ("Invalid cluster spec: " ++ reason)
  | notFound what => some ("Resource not found: " ++ what)
  | timeout what => some ("Timeout waiting for " ++ what)
  | memberUnhealthy pod =>
    some ("can't start/continue 'update': pod[" ++ pod ++ "] is unhealthy")
  | backupRunning cluster => some (
      "can't start/continue 'update': waiting for backup of " ++ cluster ++ " to complete")
  | podFailed pod => some ("pod " ++ pod ++ " is in failed phase")
  | podOutdated pod => some ("pod " ++ pod ++ " is ready, wait next schedule")
  | replication reason => some reason
  | ownerDeleted => some "owner is deleted"
  | internal reason => some ("Internal error: " ++ reason)

/-- The text for people; empty where another party words it. -/
def message (e : Error) : String := e.message?.getD ""

/-- The code with which the platform refused, if it did. -/
def code? : Error → Option Nat
  | refused code _ _ => some code
  | _ => none

/-- The platform refused a write for its content, as it does for fields that never change. -/
def isInvalid : Error → Bool
  | refused code reason _ => code == 422 || reason == "Invalid"
  | _ => false

/-- The object in question does not exist. -/
def isNotFound : Error → Bool
  | refused code _ _ => code == 404
  | notFound _ => true
  | _ => false

/-- The object was written by someone else since it was read. -/
def isConflict (e : Error) : Bool := e.code? == some 409

/-- Trying again may succeed without anyone stepping in. -/
def isRetryable : Error → Bool
  | refused code _ _ => code == 409 || 500 ≤ code
  | platform | database | agentUnreachable | agentRefused .. | timeout _ | memberUnhealthy _
  | backupRunning _ | podOutdated _ | replication _ => true
  | _ => false

/-- The label under which the error is counted. -/
def label : Error → String
  | refused .. | platform => "kube"
  | definitionMissing => "crd_not_installed"
  | database => "sql"
  | agentUnreachable | agentRefused .. => "consensus"
  | missingSecretKey .. => "secret"
  | invalidSetting .. | invalidSpec _ => "invalid"
  | notFound _ => "not_found"
  | timeout _ => "timeout"
  | memberUnhealthy _ => "member_unhealthy"
  | backupRunning _ => "backup_in_progress"
  | podFailed _ | podOutdated _ => "pod"
  | replication _ => "replication"
  | ownerDeleted => "owner_deleted"
  | malformed => "serialization"
  | internal _ | overflow => "internal"

end Error

end RaftMysql
