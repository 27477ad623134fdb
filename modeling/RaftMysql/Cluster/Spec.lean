import RaftMysql.Object.Metadata
import RaftMysql.Object.Shape.Pod

/-!
# What a cluster asks for

A `Spec` is what someone wrote down about a cluster: how many members, which images, how they are
placed, and how much storage each has. Every part has a default, so that an empty record is a
complete specification.
-/

namespace RaftMysql

open Document

/-- What a container may use, in the platform's own form. -/
abbrev Resources := Json

/-- Reads what a container may use. -/
def Resources.ofDocument? : Reader Resources := Shape.resources.fit?

/-- The container with the database server. -/
structure DatabaseOptions where
  image : String := "percona/percona-server:5.7.34"
  /-- The delay of replication that readiness tolerates. -/
  maxLagSeconds : Int := 30
  tokuDb : Bool := false
  resources : Resources := .object []
  deriving Repr

/-- The container with the consensus agent. -/
structure AgentOptions where
  image : String := "radondb/xenon:v2.3.0"
  /-- How many heartbeats a leader may miss before it gives up. -/
  admitDefeatCount : Int := 5
  /-- The time without a leader after which an election begins, in milliseconds. -/
  electionTimeout : Int := 10000
  /-- Members whose data went astray are built anew. -/
  autoRebuild : Bool := false
  resources : Resources := .object []
  deriving Repr

/-- The container that exports metrics of the database. -/
structure ExporterOptions where
  image : String := "prom/mysqld-exporter:v0.12.1"
  enabled : Bool := false
  resources : Resources := .object []
  deriving Repr

/-- How member pods are placed and what else runs in them. -/
structure PodPolicy where
  imagePullPolicy : String := "IfNotPresent"
  labels : Labels := []
  annotations : Table String := []
  affinity : Option Json := none
  priorityClass : Option String := none
  tolerations : List Json := []
  scheduler : Option String := none
  /-- What the small helper containers may use. -/
  extraResources : Resources := .object []
  sidecarImage : String := "radondb/mysql57-sidecar:v2.3.0"
  busyboxImage : String := "busybox:1.32"
  slowLogTail : Bool := false
  auditLogTail : Bool := false
  deriving Repr

/-- The data volume of a member. -/
structure Persistence where
  enabled : Bool := true
  accessModes : List String := ["ReadWriteOnce"]
  storageClass : Option String := none
  size : String := "10Gi"
  deriving Repr

/-- What a cluster asks for. -/
structure Spec where
  replicas : Int := 3
  mysqlVersion : String := "5.7"
  database : DatabaseOptions := {}
  agent : AgentOptions := {}
  exporter : ExporterOptions := {}
  podPolicy : PodPolicy := {}
  persistence : Persistence := {}
  tlsSecret : Option String := none
  deriving Repr

namespace DatabaseOptions

/-- Reads the options of the database container. -/
def ofDocument? : Reader DatabaseOptions := fun d => do
  let given ← fields? ["image", "maxLagSeconds", "initTokuDB", "resources"] d
  let base : DatabaseOptions := {}
  return ⟨← field given "image" text? base.image,
    ← field given "maxLagSeconds" int32? base.maxLagSeconds,
    ← field given "initTokuDB" flag? base.tokuDb,
    ← field given "resources" Resources.ofDocument? base.resources⟩

/-- Writes the options of the database container. -/
def toJson (o : DatabaseOptions) : Json :=
  .ofPairs [("image", .text o.image), ("maxLagSeconds", .int o.maxLagSeconds),
    ("initTokuDB", .flag o.tokuDb), ("resources", o.resources)]

end DatabaseOptions

namespace AgentOptions

/-- Reads the options of the agent container. -/
def ofDocument? : Reader AgentOptions := fun d => do
  let given ← fields?
    ["image", "admitDefeatHearbeatCount", "electionTimeout", "enableAutoRebuild", "resources"] d
  let base : AgentOptions := {}
  return ⟨← field given "image" text? base.image,
    ← field given "admitDefeatHearbeatCount" int32? base.admitDefeatCount,
    ← field given "electionTimeout" int32? base.electionTimeout,
    ← field given "enableAutoRebuild" flag? base.autoRebuild,
    ← field given "resources" Resources.ofDocument? base.resources⟩

/-- Writes the options of the agent container. -/
def toJson (o : AgentOptions) : Json :=
  .ofPairs [("image", .text o.image), ("admitDefeatHearbeatCount", .int o.admitDefeatCount),
    ("electionTimeout", .int o.electionTimeout), ("enableAutoRebuild", .flag o.autoRebuild),
    ("resources", o.resources)]

end AgentOptions

namespace ExporterOptions

/-- Reads the options of the exporter container. -/
def ofDocument? : Reader ExporterOptions := fun d => do
  let given ← fields? ["image", "enabled", "resources"] d
  let base : ExporterOptions := {}
  return ⟨← field given "image" text? base.image,
    ← field given "enabled" flag? base.enabled,
    ← field given "resources" Resources.ofDocument? base.resources⟩

/-- Writes the options of the exporter container. -/
def toJson (o : ExporterOptions) : Json :=
  .ofPairs [("image", .text o.image), ("enabled", .flag o.enabled), ("resources", o.resources)]

end ExporterOptions

namespace PodPolicy

/-- Reads an affinity. -/
def affinity? : Reader Json := Shape.affinity.fit?

/-- Reads a toleration. -/
def toleration? : Reader Json := Shape.toleration.fit?

/-- Reads the policy for pods. -/
def ofDocument? : Reader PodPolicy := fun d => do
  let given ← fields?
    ["imagePullPolicy", "labels", "annotations", "affinity", "priorityClassName", "tolerations",
     "schedulerName", "extraResources", "sidecarImage", "busyboxImage", "slowLogTail",
     "auditLogTail"] d
  let base : PodPolicy := {}
  return ⟨← field given "imagePullPolicy" text? base.imagePullPolicy,
    ← field given "labels" (table? text?) base.labels,
    ← field given "annotations" (table? text?) base.annotations,
    ← field given "affinity" (optional? affinity?) base.affinity,
    ← field given "priorityClassName" (optional? text?) base.priorityClass,
    ← field given "tolerations" (list? toleration?) base.tolerations,
    ← field given "schedulerName" (optional? text?) base.scheduler,
    ← field given "extraResources" Resources.ofDocument? base.extraResources,
    ← field given "sidecarImage" text? base.sidecarImage,
    ← field given "busyboxImage" text? base.busyboxImage,
    ← field given "slowLogTail" flag? base.slowLogTail,
    ← field given "auditLogTail" flag? base.auditLogTail⟩

/-- Writes the policy for pods. -/
def toJson (p : PodPolicy) : Json :=
  .ofMembers [("imagePullPolicy", some (.text p.imagePullPolicy)),
    ("labels", some (.ofTexts p.labels)), ("annotations", some (.ofTexts p.annotations)),
    ("affinity", p.affinity), ("priorityClassName", p.priorityClass.map .text),
    ("tolerations", some (.list p.tolerations)), ("schedulerName", p.scheduler.map .text),
    ("extraResources", some p.extraResources), ("sidecarImage", some (.text p.sidecarImage)),
    ("busyboxImage", some (.text p.busyboxImage)), ("slowLogTail", some (.flag p.slowLogTail)),
    ("auditLogTail", some (.flag p.auditLogTail))]

end PodPolicy

namespace Persistence

/-- Reads the data volume. -/
def ofDocument? : Reader Persistence := fun d => do
  let given ← fields? ["enabled", "accessModes", "storageClass", "size"] d
  let base : Persistence := {}
  return ⟨← field given "enabled" flag? base.enabled,
    ← field given "accessModes" (list? text?) base.accessModes,
    ← field given "storageClass" (optional? text?) base.storageClass,
    ← field given "size" text? base.size⟩

/-- Writes the data volume. -/
def toJson (p : Persistence) : Json :=
  .ofMembers [("enabled", some (.flag p.enabled)),
    ("accessModes", some (.list (p.accessModes.map .text))),
    ("storageClass", p.storageClass.map .text), ("size", some (.text p.size))]

end Persistence

namespace Spec

/-- Reads a specification. -/
def ofDocument? : Reader Spec := fun d => do
  let given ← fields?
    ["replicas", "mysqlVersion", "mysqlOpts", "xenonOpts", "metricsOpts", "podPolicy",
     "persistence", "tlsSecretName"] d
  let base : Spec := {}
  return ⟨← field given "replicas" int32? base.replicas,
    ← field given "mysqlVersion" text? base.mysqlVersion,
    ← field given "mysqlOpts" DatabaseOptions.ofDocument? base.database,
    ← field given "xenonOpts" AgentOptions.ofDocument? base.agent,
    ← field given "metricsOpts" ExporterOptions.ofDocument? base.exporter,
    ← field given "podPolicy" PodPolicy.ofDocument? base.podPolicy,
    ← field given "persistence" Persistence.ofDocument? base.persistence,
    ← field given "tlsSecretName" (optional? text?) base.tlsSecret⟩

/-- Writes a specification. -/
def toJson (s : Spec) : Json :=
  .ofMembers [("replicas", some (.int s.replicas)), ("mysqlVersion", some (.text s.mysqlVersion)),
    ("mysqlOpts", some s.database.toJson), ("xenonOpts", some s.agent.toJson),
    ("metricsOpts", some s.exporter.toJson), ("podPolicy", some s.podPolicy.toJson),
    ("persistence", some s.persistence.toJson), ("tlsSecretName", s.tlsSecret.map .text)]

end Spec

end RaftMysql
