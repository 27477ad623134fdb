import RaftMysql.Object.Shape.Volume

/-!
# Shapes of containers

What a container runs, sees, may do and is checked by. `Shape.container` is a container of a pod,
`Shape.ephemeralContainer` one that is added to a running pod.
-/

namespace RaftMysql.Shape

/-! ### The environment -/

/-- A key of a named object. -/
def keyOf : Shape := record [req "key" text, opt "name" text, opt "optional" flag]

/-- A named object, which may be missing. -/
def allOf : Shape := record [opt "name" text, opt "optional" flag]

/-- A variable. -/
def envVariable : Shape := record
  [req "name" text, opt "value" text,
   opt "valueFrom" (record [opt "configMapKeyRef" keyOf, opt "fieldRef" podField,
     opt "resourceFieldRef" containerResource, opt "secretKeyRef" keyOf])]

/-- Variables from all keys of an object. -/
def envVariables : Shape := record
  [opt "configMapRef" allOf, opt "prefix" text, opt "secretRef" allOf]

/-! ### Actions and checks -/

/-- A command to run. -/
def execAction : Shape := record [opt "command" (list text)]

/-- A page to ask for. -/
def httpAction : Shape := record
  (opts text ["host", "path", "scheme"] ++ [req "port" intOrText,
    opt "httpHeaders" (list (record (reqs text ["name", "value"])))])

/-- A port to connect to. -/
def socketAction : Shape := record [opt "host" text, req "port" intOrText]

/-- What is done at a turn of the life of a container. -/
def handler : Shape := record
  [opt "exec" execAction, opt "httpGet" httpAction, opt "tcpSocket" socketAction]

/-- A check of a container. -/
def probe : Shape := record
  (opts int32 ["failureThreshold", "initialDelaySeconds", "periodSeconds", "successThreshold",
      "timeoutSeconds"]
    ++ [opt "exec" execAction, opt "grpc" (record [req "port" int32, opt "service" text]),
      opt "httpGet" httpAction, opt "tcpSocket" socketAction,
      opt "terminationGracePeriodSeconds" int64])

/-! ### Security -/

/-- The labels of a security module. -/
def securityLabels : Shape := record (opts text ["level", "role", "type", "user"])

/-- Which system calls are allowed. -/
def callProfile : Shape := record [opt "localhostProfile" text, req "type" text]

/-- What counts on another kind of node. -/
def windowsOptions : Shape := record
  (opts text ["gmsaCredentialSpec", "gmsaCredentialSpecName", "runAsUserName"]
    ++ [opt "hostProcess" flag])

/-- What the processes of a container or a pod run as. -/
def identity : List Field :=
  opts int64 ["runAsGroup", "runAsUser"]
    ++ [opt "runAsNonRoot" flag, opt "seLinuxOptions" securityLabels,
      opt "seccompProfile" callProfile, opt "windowsOptions" windowsOptions]

/-- What a container may do. -/
def containerSecurity : Shape := record
  (opts flag ["allowPrivilegeEscalation", "privileged", "readOnlyRootFilesystem"]
    ++ [opt "capabilities" (record (opts (list text) ["add", "drop"])), opt "procMount" text]
    ++ identity)

/-! ### Containers -/

/-- A port of a container. -/
def port : Shape := record
  (opts text ["hostIP", "name", "protocol"] ++ [req "containerPort" int32, opt "hostPort" int32])

/-- A volume in a container. -/
def mount : Shape := record
  (opts text ["mountPropagation", "subPath", "subPathExpr"] ++ reqs text ["mountPath", "name"]
    ++ [opt "readOnly" flag])

/-- The fields of a container of any sort. -/
def containerFields : List Field :=
  opts (list text) ["args", "command"]
    ++ opts text ["image", "imagePullPolicy", "terminationMessagePath", "terminationMessagePolicy",
      "workingDir"]
    ++ opts probe ["livenessProbe", "readinessProbe", "startupProbe"]
    ++ opts flag ["stdin", "stdinOnce", "tty"]
    ++ [opt "env" (list envVariable), opt "envFrom" (list envVariables),
      opt "lifecycle" (record (opts handler ["postStart", "preStop"])), req "name" text,
      opt "ports" (list port),
      opt "resizePolicy" (list (record (reqs text ["resourceName", "restartPolicy"]))),
      opt "resources" resources, opt "securityContext" containerSecurity,
      opt "volumeDevices" (list (record (reqs text ["devicePath", "name"]))),
      opt "volumeMounts" (list mount)]

/-- A container of a pod. -/
def container : Shape := record containerFields

/-- A container that is added to a running pod. -/
def ephemeralContainer : Shape := record (opt "targetContainerName" text :: containerFields)

end RaftMysql.Shape
