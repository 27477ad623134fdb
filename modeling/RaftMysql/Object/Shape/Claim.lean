import RaftMysql.Object.Shape.Heading

/-!
# Shapes of storage claims

What a claim asks for and what it has got. What a container may use has the same shape as what a
claim asks for.
-/

namespace RaftMysql.Shape

/-- What a container may use, or a claim asks for. -/
def resources : Shape := record
  [opt "claims" (list (record [req "name" text])), opt "limits" (table text),
   opt "requests" (table text)]

/-- What a claim asks for. -/
def claimSpec : Shape := record
  (opts text ["storageClassName", "volumeMode", "volumeName"]
    ++ [opt "accessModes" (list text),
      opt "dataSource" (record (opts text ["apiGroup"] ++ reqs text ["kind", "name"])),
      opt "dataSourceRef" (record (opts text ["apiGroup", "namespace"]
        ++ reqs text ["kind", "name"])),
      opt "resources" resources, opt "selector" labelSelector])

/-- What a claim has got. -/
def claimStatus : Shape := record
  (opts text ["phase", "resizeStatus"] ++ opts (table text) ["allocatedResources", "capacity"]
    ++ [opt "accessModes" (list text),
      opt "conditions" (list (condition ["lastProbeTime", "lastTransitionTime"]))])

end RaftMysql.Shape
