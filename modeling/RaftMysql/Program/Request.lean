import RaftMysql.Cluster.Backup
import RaftMysql.Object.Manifest
import RaftMysql.Member.Agent
import RaftMysql.Member.Sql
import RaftMysql.Metrics.Basic

/-!
# What a procedure can ask for

A `Request` is one step by which a procedure touches the world: a call to the object store, to a
consensus agent or to a database server, a look at a clock, a pause, a note that leadership is
moving, a count, or an event for people to see. `Request.Answer` is what comes back.
-/

namespace RaftMysql

/-- The objects of a kind. -/
abbrev Kind.Object : Kind → Type
  | .cluster => Cluster
  | .backup => Backup
  | .workload | .pod | .claim | .secret => Manifest

namespace Kind

/-- Reads an object of a kind. -/
def read? (now : Time) : (k : Kind) → Document → Option k.Object
  | .cluster, d => Cluster.ofDocument? now d
  | .backup, d => Backup.ofDocument? d
  | .workload, d => Manifest.ofDocument? .workload d
  | .pod, d => Manifest.ofDocument? .pod d
  | .claim, d => Manifest.ofDocument? .claim d
  | .secret, d => Manifest.ofDocument? .secret d

/-- Writes an object of a kind. -/
def write : (k : Kind) → k.Object → Json
  | .cluster, (c : Cluster) => c.toJson
  | .backup, (b : Backup) => b.toJson
  | .workload, (m : Manifest) => m.toJson .workload
  | .pod, (m : Manifest) => m.toJson .pod
  | .claim, (m : Manifest) => m.toJson .claim
  | .secret, (m : Manifest) => m.toJson .secret

/-- What an object of a kind says about itself. -/
def metadataOf : (k : Kind) → k.Object → Metadata
  | .cluster, (c : Cluster) => c.metadata
  | .backup, (b : Backup) => b.metadata
  | .workload, (m : Manifest) => m.metadata
  | .pod, (m : Manifest) => m.metadata
  | .claim, (m : Manifest) => m.metadata
  | .secret, (m : Manifest) => m.metadata

/-- The name of an object. -/
def nameOf (k : Kind) (object : k.Object) : String := (k.metadataOf object).anyName

end Kind

/-- What becomes of the objects that a deleted one owns. -/
inductive Propagation where
  /-- What the platform does for the kind. -/
  | byKind
  /-- They stay, without an owner. -/
  | orphan
  deriving DecidableEq, Repr

/-- An event for people to see. -/
structure Notice where
  warning : Bool
  reason : String
  note : String
  deriving DecidableEq, Repr

/-- One step by which a procedure touches the world. -/
inductive Request where
  /-- Whether the platform serves a kind. -/
  | serves (kind : Kind)
  | get (kind : Kind) (name : String)
  | list (kind : Kind) (selector : Labels)
  | create (kind : Kind) (object : kind.Object)
  | replace (kind : Kind) (object : kind.Object)
  | replaceStatus (kind : Kind) (object : kind.Object)
  | delete (kind : Kind) (name : String) (propagation : Propagation)
  | agent (host password : String) (call : AgentCall)
  | connect (login : Login)
  | query (session : Session) (statement : String)
  | execute (session : Session) (statement : String)
  /-- The time of day. -/
  | now
  /-- The time since some moment, which never runs backwards. -/
  | clock
  | sleep (duration : Duration)
  | startHandoff (cluster : String)
  | stopHandoff (cluster : String)
  | inHandoff (cluster : String)
  | record (occurrence : Occurrence)
  | publish (notice : Notice)

/-- What comes back from a request. -/
abbrev Request.Answer : Request → Type
  | serves _ => Except Error Unit
  | get kind _ => Except Error (Option kind.Object)
  | list kind _ => Except Error (List kind.Object)
  | create kind _ | replace kind _ | replaceStatus kind _ => Except Error kind.Object
  | delete .. => Except Error Unit
  | agent _ _ call => Except Error call.Answer
  | connect _ => Except Error Session
  | query .. => Except Error (List Row)
  | execute .. => Except Error Unit
  | now => Time
  | clock => Duration
  | inHandoff _ => Bool
  | sleep _ | startHandoff _ | stopHandoff _ | record _ | publish _ => Unit

end RaftMysql
