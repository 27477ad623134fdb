import RaftMysql.Object.Shape.Claim

/-!
# Shapes of volumes

A volume of a pod has a name and one source. `Shape.volume` knows every source that the platform
does; the shapes of what several sources hold come first.
-/

namespace RaftMysql.Shape

/-- The name of something in the same namespace. -/
def localName : Shape := record [opt "name" text]

/-- A key and the path under which its value is shown. -/
def keyPath : Shape := record (reqs text ["key", "path"] ++ [opt "mode" int32])

/-- A field of the pod. -/
def podField : Shape := record [opt "apiVersion" text, req "fieldPath" text]

/-- A limit or request of a container. -/
def containerResource : Shape := record
  (opts text ["containerName", "divisor"] ++ [req "resource" text])

/-- What the pod says about itself, as a file. -/
def podFile : Shape := record
  [opt "fieldRef" podField, opt "mode" int32, req "path" text,
   opt "resourceFieldRef" containerResource]

/-- Keys of a named object, as files. -/
def namedFiles : Shape := record
  [opt "items" (list keyPath), opt "name" text, opt "optional" flag]

/-- One of several sources that share a volume. -/
def projection : Shape := record
  [opt "configMap" namedFiles, opt "downwardAPI" (record [opt "items" (list podFile)]),
   opt "secret" namedFiles,
   opt "serviceAccountToken" (record
     [opt "audience" text, opt "expirationSeconds" int64, req "path" text])]

/-- The sources that hold files of the platform itself. -/
def platformSources : List Field :=
  [opt "configMap" (record [opt "defaultMode" int32, opt "items" (list keyPath), opt "name" text,
     opt "optional" flag]),
   opt "downwardAPI" (record [opt "defaultMode" int32, opt "items" (list podFile)]),
   opt "emptyDir" (record (opts text ["medium", "sizeLimit"])),
   opt "ephemeral" (record [opt "volumeClaimTemplate" (record
     [opt "metadata" metadata, req "spec" claimSpec])]),
   opt "hostPath" (record [req "path" text, opt "type" text]),
   opt "persistentVolumeClaim" (record [req "claimName" text, opt "readOnly" flag]),
   opt "projected" (record [opt "defaultMode" int32, opt "sources" (list projection)]),
   opt "secret" (record [opt "defaultMode" int32, opt "items" (list keyPath), opt "optional" flag,
     opt "secretName" text])]

/-- The sources that hold a disk. -/
def diskSources : List Field :=
  [opt "awsElasticBlockStore" (record [opt "fsType" text, opt "partition" int32,
     opt "readOnly" flag, req "volumeID" text]),
   opt "azureDisk" (record (opts text ["cachingMode", "fsType", "kind"]
     ++ reqs text ["diskName", "diskURI"] ++ [opt "readOnly" flag])),
   opt "cinder" (record [opt "fsType" text, opt "readOnly" flag, opt "secretRef" localName,
     req "volumeID" text]),
   opt "fc" (record ([opt "fsType" text, opt "lun" int32, opt "readOnly" flag]
     ++ opts (list text) ["targetWWNs", "wwids"])),
   opt "gcePersistentDisk" (record [opt "fsType" text, opt "partition" int32, req "pdName" text,
     opt "readOnly" flag]),
   opt "iscsi" (record (opts flag ["chapAuthDiscovery", "chapAuthSession", "readOnly"]
     ++ opts text ["fsType", "initiatorName", "iscsiInterface"] ++ reqs text ["iqn", "targetPortal"]
     ++ [req "lun" int32, opt "portals" (list text), opt "secretRef" localName])),
   opt "photonPersistentDisk" (record [opt "fsType" text, req "pdID" text]),
   opt "portworxVolume" (record [opt "fsType" text, opt "readOnly" flag, req "volumeID" text]),
   opt "rbd" (record (opts text ["fsType", "keyring", "pool", "user"]
     ++ [req "image" text, req "monitors" (list text), opt "readOnly" flag,
       opt "secretRef" localName])),
   opt "scaleIO" (record (reqs text ["gateway", "system"] ++ [req "secretRef" localName]
     ++ opts text ["fsType", "protectionDomain", "storageMode", "storagePool", "volumeName"]
     ++ opts flag ["readOnly", "sslEnabled"])),
   opt "storageos" (record (opts text ["fsType", "volumeName", "volumeNamespace"]
     ++ [opt "readOnly" flag, opt "secretRef" localName])),
   opt "vsphereVolume" (record (opts text ["fsType", "storagePolicyID", "storagePolicyName"]
     ++ [req "volumePath" text]))]

/-- The sources that hold a file system of another machine. -/
def networkSources : List Field :=
  [opt "azureFile" (record (reqs text ["secretName", "shareName"] ++ [opt "readOnly" flag])),
   opt "cephfs" (record (opts text ["path", "secretFile", "user"]
     ++ [req "monitors" (list text), opt "readOnly" flag, opt "secretRef" localName])),
   opt "csi" (record [req "driver" text, opt "fsType" text, opt "nodePublishSecretRef" localName,
     opt "readOnly" flag, opt "volumeAttributes" (table text)]),
   opt "flexVolume" (record [req "driver" text, opt "fsType" text, opt "options" (table text),
     opt "readOnly" flag, opt "secretRef" localName]),
   opt "flocker" (record (opts text ["datasetName", "datasetUUID"])),
   opt "gitRepo" (record (opts text ["directory", "revision"] ++ [req "repository" text])),
   opt "glusterfs" (record (reqs text ["endpoints", "path"] ++ [opt "readOnly" flag])),
   opt "nfs" (record (reqs text ["path", "server"] ++ [opt "readOnly" flag])),
   opt "quobyte" (record (opts text ["group", "tenant", "user"] ++ [opt "readOnly" flag]
     ++ reqs text ["registry", "volume"]))]

/-- A volume of a pod. -/
def volume : Shape := record
  (req "name" text :: platformSources ++ diskSources ++ networkSources)

end RaftMysql.Shape
