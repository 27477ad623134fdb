/-!
# Kinds of objects

Clusters and their backups are defined here; the workload that runs the members, the member pods,
their storage claims and the secret with the credentials are kinds of the platform.
-/

namespace RaftMysql

/-- A kind of object. -/
inductive Kind where
  | cluster
  | workload
  | pod
  | claim
  | secret
  | backup
  deriving DecidableEq, Repr

namespace Kind

/-- The group and version under which the kind is served. -/
def apiVersion : Kind → String
  | cluster | backup => "mysql.radondb.com/v1alpha1"
  | workload => "apps/v1"
  | pod | claim | secret => "v1"

/-- The name of the kind in objects. -/
def name : Kind → String
  | cluster => "MysqlCluster"
  | workload => "StatefulSet"
  | pod => "Pod"
  | claim => "PersistentVolumeClaim"
  | secret => "Secret"
  | backup => "Backup"

/-- The name of the kind in small letters. -/
def singular : Kind → String
  | cluster => "mysqlcluster"
  | workload => "statefulset"
  | pod => "pod"
  | claim => "persistentvolumeclaim"
  | secret => "secret"
  | backup => "backup"

/-- The name of the kind in paths. -/
def plural (k : Kind) : String := k.singular ++ "s"

/-- Every kind. -/
def all : List Kind := [cluster, workload, pod, claim, secret, backup]

/-- The kind with a name in small letters. -/
def ofSingular? (name : String) : Option Kind := all.find? fun k => k.singular == name

end Kind

end RaftMysql
