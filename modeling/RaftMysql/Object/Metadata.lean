import RaftMysql.Object.Shape.Heading
import RaftMysql.Object.Labels

/-!
# What every object says about itself

`Metadata` holds the name of an object, its labels, its owners and what the platform keeps track of:
the uid, which belongs to one incarnation only, the version of the last write, the generation of the
last change of the specification, and the moment of a deletion under way. Everything else passes
through.
-/

namespace RaftMysql

/-- The owner of an object. -/
structure Owner where
  apiVersion : String
  kind : String
  name : String
  uid : String
  controller : Option Bool
  blockDeletion : Option Bool
  deriving DecidableEq, Repr

/-- Writes an owner. -/
def Owner.toJson (o : Owner) : Json :=
  .ofMembers [("apiVersion", some (.text o.apiVersion)), ("kind", some (.text o.kind)),
    ("name", some (.text o.name)), ("uid", some (.text o.uid)),
    ("controller", o.controller.map .flag), ("blockOwnerDeletion", o.blockDeletion.map .flag)]

/-- An owner as written in its form. -/
def Owner.ofJson (v : Json) : Owner where
  apiVersion := ((v.member? "apiVersion").bind Json.asText?).getD ""
  kind := ((v.member? "kind").bind Json.asText?).getD ""
  name := ((v.member? "name").bind Json.asText?).getD ""
  uid := ((v.member? "uid").bind Json.asText?).getD ""
  controller := (v.member? "controller").bind Json.asFlag?
  blockDeletion := (v.member? "blockOwnerDeletion").bind Json.asFlag?

/-- What an object says about itself. -/
structure Metadata where
  name : Option String := none
  generateName : Option String := none
  space : Option String := none
  uid : Option String := none
  version : Option String := none
  generation : Option Int := none
  deletedAt : Option Time := none
  labels : Option Labels := none
  owners : Option (List Owner) := none
  /-- The members that no one here looks at. -/
  rest : Table Json := []
  deriving Repr

namespace Metadata

/-- The name, or where the platform is to make one up, its beginning. -/
def anyName (m : Metadata) : String := (m.name <|> m.generateName).getD ""

/-- The object is on its way out. -/
def isTerminating (m : Metadata) : Bool := m.deletedAt.isSome

/-- The value of a label. -/
def label? (m : Metadata) (key : String) : Option String := (m.labels.getD []).get? key

/-- The labels carry every pair of a selector. -/
def selectedBy (m : Metadata) (selector : Labels) : Bool := (m.labels.getD []).satisfies selector

/-- With a label set. -/
def setLabel (m : Metadata) (key value : String) : Metadata :=
  { m with labels := some ((m.labels.getD []).insert key value) }

/-- The members that have a field of their own. -/
def ownMembers : List String :=
  ["name", "generateName", "namespace", "uid", "resourceVersion", "generation",
   "deletionTimestamp", "labels", "ownerReferences"]

/-- Metadata as written in its form. -/
def ofJson (v : Json) : Metadata :=
  let text (key : String) := (v.member? key).bind Json.asText?
  { name := text "name"
    generateName := text "generateName"
    space := text "namespace"
    uid := text "uid"
    version := text "resourceVersion"
    generation := (v.member? "generation").bind Json.asInt?
    deletedAt := (text "deletionTimestamp").bind Time.read?
    labels := (v.member? "labels").map Json.asTexts
    owners := ((v.member? "ownerReferences").bind Json.asList?).map (·.map Owner.ofJson)
    rest := (v.asObject?.getD []).filter fun p => !ownMembers.contains p.1 }

/-- Writes metadata. -/
def toJson (m : Metadata) : Json :=
  .ofMembers (m.rest.map (fun p => (p.1, some p.2)) ++
    [("name", m.name.map .text), ("generateName", m.generateName.map .text),
     ("namespace", m.space.map .text), ("uid", m.uid.map .text),
     ("resourceVersion", m.version.map .text), ("generation", m.generation.map .int),
     ("deletionTimestamp", m.deletedAt.map fun t => .text t.write),
     ("labels", m.labels.map .ofTexts),
     ("ownerReferences", m.owners.map fun os => .list (os.map Owner.toJson))])

/-- Reads metadata, which must be a record. -/
def ofDocument? : Document.Reader Metadata := fun d => (Shape.metadata.fit? d).map ofJson

/-- A label is read back as it was set, and no other changes. -/
theorem label?_setLabel (m : Metadata) (key value k : String) :
    (m.setLabel key value).label? k = if key = k then some value else m.label? k := by
  simp [label?, setLabel, Table.get?_insert]

end Metadata

end RaftMysql
