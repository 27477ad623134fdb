import RaftMysql.Object.Kind
import RaftMysql.Object.Shape.Pod

/-!
# The shapes of the kinds

`Kind.shape` is the shape of the objects of a kind: what names the kind, what the object says about
itself, and the body. Of clusters and backups, which have types of their own, it is the head alone.
-/

namespace RaftMysql

namespace Shape

/-- A claim that a workload makes for each of its pods. -/
def claimTemplate : Shape := record
  [req "apiVersion" (exactly Kind.claim.apiVersion), req "kind" (exactly Kind.claim.name),
   req "metadata" metadata, opt "spec" claimSpec, opt "status" claimStatus]

/-- What a workload runs. -/
def workloadSpec : Shape := record
  (opts int32 ["minReadySeconds", "replicas", "revisionHistoryLimit"]
    ++ [opt "ordinals" (record [opt "start" int32]),
      opt "persistentVolumeClaimRetentionPolicy" (record (opts text ["whenDeleted", "whenScaled"])),
      opt "podManagementPolicy" text, req "selector" labelSelector, req "serviceName" text,
      req "template" (record [opt "metadata" metadata, opt "spec" podSpec]),
      opt "updateStrategy" (record [opt "rollingUpdate" (record
        [opt "maxUnavailable" intOrText, opt "partition" int32]), opt "type" text]),
      opt "volumeClaimTemplates" (list claimTemplate)])

/-- What has become of a workload. -/
def workloadStatus : Shape := record
  (opts int32 ["availableReplicas", "collisionCount", "currentReplicas", "readyReplicas",
      "updatedReplicas"]
    ++ opts text ["currentRevision", "updateRevision"]
    ++ [opt "conditions" (list (condition ["lastTransitionTime"])), opt "observedGeneration" int64,
      req "replicas" int32])

end Shape

namespace Kind

open Shape

/-- The fields of an object of a kind beyond those at its head. -/
def bodyFields : Kind → List Shape.Field
  | workload => [opt "spec" workloadSpec, opt "status" workloadStatus]
  | pod => [opt "spec" podSpec, opt "status" podStatus]
  | claim => [opt "spec" claimSpec, opt "status" claimStatus]
  | secret => [opt "data" (table bytes), opt "immutable" flag, opt "stringData" (table text),
      opt "type" text]
  | cluster | backup => []

/-- The shape of an object of a kind. -/
def shape (k : Kind) : Shape := record
  ([req "apiVersion" (exactly k.apiVersion), req "kind" (exactly k.name),
    req "metadata" Shape.metadata] ++ k.bodyFields)

end Kind

end RaftMysql
