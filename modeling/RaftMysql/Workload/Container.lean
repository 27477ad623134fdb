import RaftMysql.Json.Basic

/-!
# Containers and volumes

The parts that a pod is put together from, with their written forms. What is left empty is not
written.
-/

namespace RaftMysql

/-- Where the value of an environment variable comes from. -/
inductive EnvSource where
  | value (text : String)
  /-- A field of the pod itself. -/
  | field (path : String)
  /-- A key of a secret, which may be allowed to be missing. -/
  | secret (name key : String) (optional : Bool)
  deriving DecidableEq, Repr

/-- An environment variable. -/
structure EnvVar where
  name : String
  source : EnvSource
  deriving DecidableEq, Repr

/-- Writes an environment variable. -/
def EnvVar.toJson (e : EnvVar) : Json :=
  match e.source with
  | .value text => .ofPairs [("name", .text e.name), ("value", .text text)]
  | .field path => .ofPairs [("name", .text e.name), ("valueFrom", .ofPairs [("fieldRef",
      .ofPairs [("apiVersion", .text "v1"), ("fieldPath", .text path)])])]
  | .secret secret key optional => .ofPairs [("name", .text e.name), ("valueFrom",
      .ofPairs [("secretKeyRef", .ofPairs [("name", .text secret), ("key", .text key),
        ("optional", .flag optional)])])]

/-- A place in the file system of a container where a volume is mounted. -/
structure Mount where
  volume : String
  path : String
  deriving DecidableEq, Repr

/-- Writes a mount. -/
def Mount.toJson (m : Mount) : Json :=
  .ofPairs [("mountPath", .text m.path), ("name", .text m.volume)]

/-- A named port. -/
structure Port where
  name : String
  number : Nat
  deriving DecidableEq, Repr

/-- Writes a port. -/
def Port.toJson (p : Port) : Json :=
  .ofPairs [("containerPort", .int p.number), ("name", .text p.name)]

/-- How a container is checked. -/
inductive CheckAction where
  | run (command : List String)
  | get (path : String) (port : Nat)
  deriving DecidableEq, Repr

/-- A repeated check of a container and the seconds before the first one. -/
structure Check where
  action : CheckAction
  initialDelay : Nat
  deriving DecidableEq, Repr

/-- Writes a check, which is made every ten seconds and fails after three misses. -/
def Check.toJson (c : Check) : Json :=
  let action : String × Json := match c.action with
    | .run command => ("exec", .ofPairs [("command", .list (command.map .text))])
    | .get path port => ("httpGet", .ofPairs [("path", .text path), ("port", .int port)])
  .ofPairs [action, ("initialDelaySeconds", .int c.initialDelay), ("timeoutSeconds", .int 5),
    ("periodSeconds", .int 10), ("successThreshold", .int 1), ("failureThreshold", .int 3)]

/-- Commands run after a container starts and before it stops. -/
structure Hooks where
  afterStart : List String
  beforeStop : List String
  deriving DecidableEq, Repr

/-- Writes the hooks. -/
def Hooks.toJson (h : Hooks) : Json :=
  let run (command : List String) : Json :=
    .ofPairs [("exec", .ofPairs [("command", .list (command.map .text))])]
  .ofPairs [("postStart", run h.afterStart), ("preStop", run h.beforeStop)]

/-- A container. -/
structure Container where
  name : String
  image : String
  pullPolicy : String
  command : List String := []
  env : List EnvVar := []
  ports : List Port := []
  resources : Json
  liveness : Option Check := none
  readiness : Option Check := none
  hooks : Option Hooks := none
  mounts : List Mount := []
  deriving Repr

/-- Writes a container. -/
def Container.toJson (c : Container) : Json :=
  let items (xs : List Json) : Option Json := if xs.isEmpty then none else some (.list xs)
  .ofMembers [("name", some (.text c.name)), ("image", some (.text c.image)),
    ("imagePullPolicy", some (.text c.pullPolicy)), ("command", items (c.command.map .text)),
    ("env", items (c.env.map EnvVar.toJson)), ("ports", items (c.ports.map Port.toJson)),
    ("resources", some c.resources), ("livenessProbe", c.liveness.map Check.toJson),
    ("readinessProbe", c.readiness.map Check.toJson), ("lifecycle", c.hooks.map Hooks.toJson),
    ("volumeMounts", items (c.mounts.map Mount.toJson))]

/-- What a volume holds. -/
inductive VolumeSource where
  | scratch
  | configMap (name : String)
  | hostPath (path : String)
  | secret (name : String)
  deriving DecidableEq, Repr

/-- A volume of a pod. -/
structure Volume where
  name : String
  source : VolumeSource
  deriving DecidableEq, Repr

/-- Writes a volume. -/
def Volume.toJson (v : Volume) : Json :=
  let source : String × Json := match v.source with
    | .scratch => ("emptyDir", .object [])
    | .configMap name => ("configMap", .ofPairs [("name", .text name)])
    | .hostPath path => ("hostPath", .ofPairs [("path", .text path)])
    | .secret name => ("secret", .ofPairs [("secretName", .text name)])
  .ofPairs [("name", .text v.name), source]

end RaftMysql
