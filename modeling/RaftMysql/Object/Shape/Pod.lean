import RaftMysql.Object.Shape.Container

/-!
# Shapes of pods

What a pod runs and where, and what has become of it.
-/

namespace RaftMysql.Shape

/-! ### Placement -/

/-- Which nodes one term takes. -/
def nodeTerm : Shape := record (opts (list keyTest) ["matchExpressions", "matchFields"])

/-- Which nodes a pod may run on, and which it likes. -/
def nodeAffinity : Shape := record
  [opt "preferredDuringSchedulingIgnoredDuringExecution"
    (list (record [req "preference" nodeTerm, req "weight" int32])),
   opt "requiredDuringSchedulingIgnoredDuringExecution"
    (record [req "nodeSelectorTerms" (list nodeTerm)])]

/-- Which pods one term takes, and what counts as their place. -/
def podTerm : Shape := record
  (opts labelSelector ["labelSelector", "namespaceSelector"]
    ++ [opt "namespaces" (list text), req "topologyKey" text])

/-- Which other pods a pod should run beside, or apart from. -/
def podAffinity : Shape := record
  [opt "preferredDuringSchedulingIgnoredDuringExecution"
    (list (record [req "podAffinityTerm" podTerm, req "weight" int32])),
   opt "requiredDuringSchedulingIgnoredDuringExecution" (list podTerm)]

/-- Which nodes a pod may or should run on. -/
def affinity : Shape := record
  (opt "nodeAffinity" nodeAffinity :: opts podAffinity ["podAffinity", "podAntiAffinity"])

/-- Which taints of a node a pod bears. -/
def toleration : Shape := record
  (opts text ["effect", "key", "operator", "value"] ++ [opt "tolerationSeconds" int64])

/-- How evenly pods are spread. -/
def spread : Shape := record
  (opts text ["nodeAffinityPolicy", "nodeTaintsPolicy"]
    ++ reqs text ["topologyKey", "whenUnsatisfiable"]
    ++ [opt "labelSelector" labelSelector, opt "matchLabelKeys" (list text), req "maxSkew" int32,
      opt "minDomains" int32])

/-! ### What a pod runs -/

/-- What the processes of a pod run as and may do. -/
def podSecurity : Shape := record
  ([opt "fsGroup" int64, opt "fsGroupChangePolicy" text, opt "supplementalGroups" (list int64),
    opt "sysctls" (list (record (reqs text ["name", "value"])))] ++ identity)

/-- How a pod finds names. -/
def nameService : Shape := record
  (opts (list text) ["nameservers", "searches"]
    ++ [opt "options" (list (record (opts text ["name", "value"])))])

/-- A claim on a resource that is shared. -/
def resourceClaim : Shape := record
  [req "name" text,
   opt "source" (record (opts text ["resourceClaimName", "resourceClaimTemplateName"]))]

/-- What a pod runs. -/
def podSpec : Shape := record
  (opts text ["dnsPolicy", "hostname", "nodeName", "preemptionPolicy", "priorityClassName",
      "restartPolicy", "runtimeClassName", "schedulerName", "serviceAccount", "serviceAccountName",
      "subdomain"]
    ++ opts flag ["automountServiceAccountToken", "enableServiceLinks", "hostIPC", "hostNetwork",
      "hostPID", "hostUsers", "setHostnameAsFQDN", "shareProcessNamespace"]
    ++ opts int64 ["activeDeadlineSeconds", "terminationGracePeriodSeconds"]
    ++ opts (table text) ["nodeSelector", "overhead"]
    ++ [opt "affinity" affinity, req "containers" (list container), opt "dnsConfig" nameService,
      opt "ephemeralContainers" (list ephemeralContainer),
      opt "hostAliases" (list (record [opt "hostnames" (list text), opt "ip" text])),
      opt "imagePullSecrets" (list localName), opt "initContainers" (list container),
      opt "os" (record [req "name" text]), opt "priority" int32,
      opt "readinessGates" (list (record [req "conditionType" text])),
      opt "resourceClaims" (list resourceClaim),
      opt "schedulingGates" (list (record [req "name" text])), opt "securityContext" podSecurity,
      opt "tolerations" (list toleration), opt "topologySpreadConstraints" (list spread),
      opt "volumes" (list volume)])

/-! ### What has become of a pod -/

/-- What a container is doing, or how it ended. -/
def containerState : Shape := record
  [opt "running" (record [opt "startedAt" time]),
   opt "terminated" (record (opts text ["containerID", "message", "reason"]
     ++ opts time ["finishedAt", "startedAt"] ++ [req "exitCode" int32, opt "signal" int32])),
   opt "waiting" (record (opts text ["message", "reason"]))]

/-- What has become of a container. -/
def containerStatus : Shape := record
  (opts containerState ["lastState", "state"] ++ reqs text ["image", "imageID", "name"]
    ++ [opt "allocatedResources" (table text), opt "containerID" text, req "ready" flag,
      opt "resources" resources, req "restartCount" int32, opt "started" flag])

/-- What has become of a pod. -/
def podStatus : Shape := record
  (opts text ["hostIP", "message", "nominatedNodeName", "phase", "podIP", "qosClass", "reason",
      "resize"]
    ++ opts (list containerStatus) ["containerStatuses", "ephemeralContainerStatuses",
      "initContainerStatuses"]
    ++ [opt "conditions" (list (condition ["lastProbeTime", "lastTransitionTime"])),
      opt "podIPs" (list (record [opt "ip" text])), opt "startTime" time])

end RaftMysql.Shape
