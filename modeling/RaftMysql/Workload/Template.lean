import RaftMysql.Workload.Basic
import RaftMysql.Workload.Container
import RaftMysql.Cluster.Basic

/-!
# The workload that a cluster should have

`Workload.desired` is the workload of a cluster. Every member runs the database next to a consensus
agent and a backup sidecar, after two containers that prepare configuration and data; metrics and
log tails come on demand. The workload never replaces pods by itself, so that updates can be led
member by member.
-/

namespace RaftMysql

namespace Workload

/-! ### Volumes and their places -/

/-- The place of the generated configuration. -/
def confMount : Mount := ⟨"mysql-conf", "/etc/mysql"⟩

/-- The place of the given configuration. -/
def confMapMount : Mount := ⟨"mysql-cm", "/mnt/mysql-cm"⟩

/-- The place of the logs. -/
def logsMount : Mount := ⟨"logs", "/var/log/mysql"⟩

/-- The place of the data. -/
def dataMount : Mount := ⟨dataVolume, "/var/lib/mysql"⟩

/-- The place of scripts. -/
def scriptsMount : Mount := ⟨"scripts", "/scripts"⟩

/-- The place of the configuration of the agent. -/
def agentMount : Mount := ⟨"xenon", "/etc/xenon"⟩

/-- The place of the records of the agent. -/
def agentRecordsMount : Mount := ⟨"xenon-meta", "/var/lib/xenon"⟩

/-- The place of the first statements run on new data. -/
def initFileMount : Mount := ⟨"init-mysql", "/docker-entrypoint-initdb.d"⟩

/-- The place of a part of the host's system files. -/
def systemMount : Mount := ⟨"host-sys", "/host-sys"⟩

/-- The place of the host's time zone. -/
def localTimeMount : Mount := ⟨"localtime", "/etc/localtime"⟩

/-- The place of certificates. -/
def tlsMount : Mount := ⟨"tls", "/etc/mysql-ssl"⟩

/-- The volumes of a member pod. -/
def volumes (c : Cluster) : List Volume :=
  let scratch (m : Mount) : Volume := ⟨m.volume, .scratch⟩
  (if c.spec.persistence.enabled then [] else [scratch dataMount])
  ++ (if c.spec.database.tokuDb then
      [⟨systemMount.volume, .hostPath "/sys/kernel/mm/transparent_hugepage"⟩] else [])
  ++ [scratch confMount, scratch logsMount, ⟨confMapMount.volume, .configMap c.workloadName⟩,
      scratch scriptsMount, scratch agentMount, scratch agentRecordsMount, scratch initFileMount,
      ⟨localTimeMount.volume, .hostPath localTimeMount.path⟩]
  ++ (match c.spec.tlsSecret with
    | some secret => [⟨tlsMount.volume, .secret secret⟩]
    | none => [])

/-! ### Environment and checks -/

/-- A variable with a fixed value. -/
def valueEnv (name value : String) : EnvVar := ⟨name, .value value⟩

/-- A variable from a field of the pod. -/
def fieldEnv (name path : String) : EnvVar := ⟨name, .field path⟩

/-- A variable from a key of the cluster's secret. -/
def secretEnv (c : Cluster) (name key : String) (optional : Bool) : EnvVar :=
  ⟨name, .secret c.secretName key optional⟩

/-- A variable that is set only for the storage engine that needs it. -/
def tokuEnv (c : Cluster) : List EnvVar :=
  if c.spec.database.tokuDb then [valueEnv "INIT_TOKUDB" "1"] else []

/-- A command for the shell. -/
def shell (script : String) : List String := ["sh", "-c", script]

/-- A check that runs a command. -/
def runCheck (command : List String) (initialDelay : Nat) : Option Check :=
  some ⟨.run command, initialDelay⟩

/-- The word for a truth value. -/
def flagText (b : Bool) : String := if b then "true" else "false"

/-! ### Containers -/

/-- The container that prepares the configuration. -/
def configInit (c : Cluster) : Container where
  name := "init-sidecar"
  image := c.spec.podPolicy.sidecarImage
  pullPolicy := c.spec.podPolicy.imagePullPolicy
  command := ["sidecar", "init"]
  env :=
    [fieldEnv "POD_HOSTNAME" "metadata.name", valueEnv "NAMESPACE" c.space,
     valueEnv "SERVICE_NAME" c.workloadName, valueEnv "STATEFULSET_NAME" c.workloadName,
     valueEnv "ADMIT_DEFEAT_HEARBEAT_COUNT" (toString c.spec.agent.admitDefeatCount),
     valueEnv "ELECTION_TIMEOUT" (toString c.spec.agent.electionTimeout),
     valueEnv "MYSQL_VERSION" c.spec.mysqlVersion,
     secretEnv c "MYSQL_ROOT_PASSWORD" "root-password" false,
     secretEnv c "MYSQL_REPL_USER" "replication-user" true,
     secretEnv c "MYSQL_REPL_PASSWORD" "replication-password" true,
     secretEnv c "METRICS_USER" "metrics-user" true,
     secretEnv c "METRICS_PASSWORD" "metrics-password" true,
     secretEnv c "OPERATOR_USER" "operator-user" true,
     secretEnv c "OPERATOR_PASSWORD" "operator-password" true,
     secretEnv c "BACKUP_USER" "backup-user" true,
     secretEnv c "BACKUP_PASSWORD" "backup-password" true] ++ tokuEnv c
  resources := c.spec.podPolicy.extraResources
  mounts :=
    [confMount, confMapMount, scriptsMount, agentMount, initFileMount]
    ++ (if c.spec.database.tokuDb then [systemMount] else []) ++ [dataMount]

/-- The container that prepares the data. -/
def dataInit (c : Cluster) : Container where
  name := "init-mysql"
  image := c.spec.database.image
  pullPolicy := c.spec.podPolicy.imagePullPolicy
  env :=
    [valueEnv "MYSQL_ALLOW_EMPTY_PASSWORD" "yes", valueEnv "MYSQL_ROOT_HOST" "127.0.0.1",
     valueEnv "MYSQL_INIT_ONLY" "1", secretEnv c "MYSQL_ROOT_PASSWORD" "root-password" false,
     secretEnv c "MYSQL_DATABASE" "mysql-database" true,
     secretEnv c "MYSQL_USER" "mysql-user" true,
     secretEnv c "MYSQL_PASSWORD" "mysql-password" true] ++ tokuEnv c
  resources := c.spec.database.resources
  mounts := [confMount, dataMount, logsMount, initFileMount]

/-- The container with the database server. -/
def databaseContainer (c : Cluster) : Container where
  name := "mysql"
  image := c.spec.database.image
  pullPolicy := c.spec.podPolicy.imagePullPolicy
  command := shell ("while [ -f '/var/lib/mysql/sleep-forever' ] ;do sleep 2 ; done; "
    ++ "/docker-entrypoint.sh mysqld")
  env :=
    [valueEnv "NAMESPACE" c.space, fieldEnv "POD_NAME" "metadata.name",
     valueEnv "MAX_DELAY" (toString c.spec.database.maxLagSeconds)] ++ tokuEnv c
  ports := [⟨"mysql", 3306⟩]
  resources := c.spec.database.resources
  liveness := runCheck ["/usr/bin/bash", "-c", "/opt/radondb/mysqlchecker liveness"] 30
  readiness := runCheck ["/usr/bin/bash", "-c", "/opt/radondb/mysqlchecker readiness"] 10
  mounts :=
    [confMount, dataMount, logsMount, localTimeMount]
    ++ (if c.spec.tlsSecret.isSome then [tlsMount] else [])

/-- The container with the consensus agent. -/
def agentContainer (c : Cluster) : Container where
  name := "xenon"
  image := c.spec.agent.image
  pullPolicy := c.spec.podPolicy.imagePullPolicy
  env :=
    [valueEnv "NAMESPACE" c.space, fieldEnv "POD_NAME" "metadata.name",
     valueEnv "AUTO_REBUILD" (flagText c.spec.agent.autoRebuild)]
  ports := [⟨"xenon", Cluster.peerPort⟩]
  resources := c.spec.agent.resources
  liveness := runCheck (shell "pgrep xenon && xenoncli xenon ping") 30
  readiness := runCheck (shell "xenoncli xenon ping") 10
  hooks := some ⟨["/xenonchecker", "postStart"], ["/xenonchecker", "preStop"]⟩
  mounts := [scriptsMount, agentMount, agentRecordsMount, localTimeMount]

/-- The container that takes backups. -/
def backupContainer (c : Cluster) : Container where
  name := "backup"
  image := c.spec.podPolicy.sidecarImage
  pullPolicy := c.spec.podPolicy.imagePullPolicy
  command := ["sidecar", "http"]
  env :=
    [valueEnv "NAMESPACE" c.space, valueEnv "SERVICE_NAME" c.workloadName,
     secretEnv c "BACKUP_USER" "backup-user" true,
     secretEnv c "BACKUP_PASSWORD" "backup-password" true]
  ports := [⟨"backup", 8082⟩]
  resources := c.spec.podPolicy.extraResources
  readiness := some ⟨.get "/health" 8082, 5⟩
  mounts := [confMount, dataMount, logsMount]

/-- The port of the exporter. -/
def exporterPort : Nat := 9104

/-- The container that exports metrics of the database. -/
def exporterContainer (c : Cluster) : Container where
  name := "metrics"
  image := c.spec.exporter.image
  pullPolicy := c.spec.podPolicy.imagePullPolicy
  env := [secretEnv c "DATA_SOURCE_NAME" "data-source" false]
  ports := [⟨"metrics", exporterPort⟩]
  resources := c.spec.exporter.resources
  liveness := some ⟨.get "/" exporterPort, 15⟩

/-- A container that follows a log. -/
def logTail (c : Cluster) (name file : String) : Container where
  name := name
  image := c.spec.podPolicy.busyboxImage
  pullPolicy := c.spec.podPolicy.imagePullPolicy
  command := ["tail", "-f", logsMount.path ++ "/" ++ file]
  resources := c.spec.podPolicy.extraResources
  mounts := [logsMount]

/-- The containers that run as long as the pod does. -/
def containers (c : Cluster) : List Container :=
  [databaseContainer c, agentContainer c, backupContainer c]
  ++ (if c.spec.exporter.enabled then [exporterContainer c] else [])
  ++ (if c.spec.podPolicy.slowLogTail then [logTail c "slowlog" "mysql-slow.log"] else [])
  ++ (if c.spec.podPolicy.auditLogTail then [logTail c "auditlog" "mysql-audit.log"] else [])

/-! ### The workload -/

/-- The labels of a new member pod: those of the cluster, those of its policy, and two that vouch
for nothing yet. -/
def podLabels (c : Cluster) : Labels :=
  ((c.labels.overwrite c.spec.podPolicy.labels).insert Cluster.roleLabel "candidate").insert
    Cluster.healthyLabel "no"

/-- The annotations of a new member pod. -/
def podAnnotations (c : Cluster) : Table String :=
  if c.spec.exporter.enabled then
    (c.spec.podPolicy.annotations.insert "prometheus.io/scrape" "true").insert
      "prometheus.io/port" (toString exporterPort)
  else c.spec.podPolicy.annotations

/-- What a member pod runs. -/
def podSpec (c : Cluster) : Json :=
  let policy := c.spec.podPolicy
  .ofMembers [("initContainers", some (.list [(configInit c).toJson, (dataInit c).toJson])),
    ("containers", some (.list ((containers c).map Container.toJson))),
    ("volumes", some (.list ((volumes c).map Volume.toJson))),
    ("serviceAccountName", some (.text c.name)), ("schedulerName", policy.scheduler.map .text),
    ("priorityClassName", policy.priorityClass.map .text), ("affinity", policy.affinity),
    ("tolerations", if policy.tolerations.isEmpty then none else some (.list policy.tolerations))]

/-- The template of the member pods. -/
def podTemplate (c : Cluster) : Json :=
  .ofPairs [("metadata", .ofPairs [("annotations", .ofTexts (podAnnotations c)),
    ("labels", .ofTexts (podLabels c))]), ("spec", podSpec c)]

/-- The owners of what is made for a cluster. -/
def owners (c : Cluster) : Option (List Owner) := c.owner?.map fun owner => [owner]

/-- The template of the data claims. A dash for the storage class stands for the empty class. -/
def claimTemplate (c : Cluster) : Json :=
  let persistence := c.spec.persistence
  let metadata : Metadata :=
    { name := some dataVolume, labels := some c.selector, owners := owners c }
  .ofPairs [("apiVersion", .text Kind.claim.apiVersion), ("kind", .text Kind.claim.name),
    ("metadata", metadata.toJson),
    ("spec", .ofMembers [("accessModes", some (.list (persistence.accessModes.map .text))),
      ("storageClassName", persistence.storageClass.map fun storageClass =>
        .text (if storageClass = "-" then "" else storageClass)),
      ("resources", some (.ofPairs [("requests",
        .ofPairs [("storage", .text persistence.size)])]))])]

/-- The workload that a cluster should have. -/
def desired (c : Cluster) : Workload where
  metadata :=
    { name := some c.workloadName, space := some c.space, labels := some c.labels
      owners := owners c }
  body := .ofPairs [("spec", .ofMembers [("replicas", some (.int c.replicas)),
    ("serviceName", some (.text c.workloadName)),
    ("selector", some (.ofPairs [("matchLabels", .ofTexts c.selector)])),
    ("updateStrategy", some (.ofPairs [("type", .text "OnDelete")])),
    ("template", some (podTemplate c)),
    ("volumeClaimTemplates",
      if c.spec.persistence.enabled then some (.list [claimTemplate c]) else none)])]

end Workload

end RaftMysql
