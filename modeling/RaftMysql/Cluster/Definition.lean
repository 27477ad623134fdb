import RaftMysql.Object.Kind
import RaftMysql.Json.Basic

/-!
# The definitions that the platform needs

Before clusters and backups can be created, the platform must know their kinds. `Kind.definition`
is the object that makes them known, without the schema of their contents.
-/

namespace RaftMysql

namespace Kind

/-- A column in listings of a kind: its title, the type of its values and where they stand. -/
structure Column where
  title : String
  type : String
  path : String

/-- Writes a column. -/
def Column.toJson (c : Column) : Json :=
  .ofPairs [("jsonPath", .text c.path), ("name", .text c.title), ("type", .text c.type)]

/-- The columns in listings of a kind. -/
def columns : Kind → List Column
  | .cluster =>
    [⟨"State", "string", ".status.state"⟩, ⟨"Desired", "integer", ".spec.replicas"⟩,
     ⟨"Current", "integer", ".status.readyNodes"⟩,
     ⟨"Age", "date", ".metadata.creationTimestamp"⟩]
  | .backup =>
    [⟨"Cluster", "string", ".spec.clusterName"⟩, ⟨"Completed", "boolean", ".status.completed"⟩]
  | _ => []

/-- Short names of a kind. -/
def shortNames : Kind → List String
  | .cluster => ["mysql"]
  | _ => []

/-- What can be read and written apart from the rest of an object. -/
def subresources (k : Kind) : Json :=
  .ofMembers [("status", some (.object [])),
    ("scale", if k = .cluster then some (.ofPairs [("specReplicasPath", .text ".spec.replicas"),
      ("statusReplicasPath", .text ".status.readyNodes")]) else none)]

/-- The object that makes a kind known. -/
def definition (k : Kind) : Json :=
  let version : Json := .ofPairs
    [("additionalPrinterColumns", .list (k.columns.map Column.toJson)), ("name", .text "v1alpha1"),
     ("served", .flag true), ("storage", .flag true), ("subresources", k.subresources)]
  .ofPairs
    [("apiVersion", .text "apiextensions.k8s.io/v1"), ("kind", .text "CustomResourceDefinition"),
     ("metadata", .ofPairs [("name", .text (k.plural ++ ".mysql.radondb.com"))]),
     ("spec", .ofPairs [("group", .text "mysql.radondb.com"),
       ("names", .ofPairs [("categories", .list []), ("kind", .text k.name),
         ("plural", .text k.plural), ("shortNames", .list (k.shortNames.map .text)),
         ("singular", .text k.singular)]),
       ("scope", .text "Namespaced"), ("versions", .list [version])])]

end Kind

end RaftMysql
