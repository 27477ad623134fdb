import RaftMysql.Object.Shape.Basic

/-!
# Shapes of what stands at the head of objects

`Shape.metadata` is what every object says about itself, `Shape.listMetadata` what a list of objects
does. `Shape.labelSelector` says which objects are meant by their labels.
-/

namespace RaftMysql.Shape

/-- Who owns an object. -/
def owner : Shape := record
  (reqs text ["apiVersion", "kind", "name", "uid"]
    ++ opts flag ["blockOwnerDeletion", "controller"])

/-- Who manages which fields of an object. -/
def manager : Shape := record
  (opts text ["apiVersion", "fieldsType", "manager", "operation", "subresource"]
    ++ [opt "fieldsV1" anything, opt "time" time])

/-- What every object says about itself. -/
def metadata : Shape := record
  (opts text ["generateName", "name", "namespace", "resourceVersion", "selfLink", "uid"]
    ++ opts (table text) ["annotations", "labels"]
    ++ opts time ["creationTimestamp", "deletionTimestamp"]
    ++ opts int64 ["deletionGracePeriodSeconds", "generation"]
    ++ [opt "finalizers" (list text), opt "managedFields" (list manager),
      opt "ownerReferences" (list owner)])

/-- What a list of objects says about itself. -/
def listMetadata : Shape := record
  (opts text ["continue", "resourceVersion", "selfLink"] ++ [opt "remainingItemCount" int64])

/-- A test of one key: it is there, or has one of several values. -/
def keyTest : Shape := record (reqs text ["key", "operator"] ++ [opt "values" (list text)])

/-- Which objects a selector takes. -/
def labelSelector : Shape := record
  [opt "matchExpressions" (list keyTest), opt "matchLabels" (table text)]

/-- A condition of an object, with the moments that it keeps. -/
def condition (moments : List String) : Shape := record
  (opts text ["message", "reason"] ++ opts time moments ++ reqs text ["status", "type"])

end RaftMysql.Shape
