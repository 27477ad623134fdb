import RaftMysql.Json.Overlay
import RaftMysql.Object.Metadata
import RaftMysql.Object.Shape.Kinds

/-!
# Objects of the platform's own kinds

A `Manifest` is metadata and a body. Only what the operator looks at has a name: the rest of the
body stays as it is written.
-/

namespace RaftMysql

/-- An object of one of the platform's own kinds. -/
structure Manifest where
  metadata : Metadata := {}
  body : Json := .object []
  deriving Repr

namespace Manifest

/-- The members that stand at the head of every object. -/
def head : List String := ["apiVersion", "kind", "metadata"]

/-- Reads an object of a kind. -/
def ofDocument? (kind : Kind) : Document.Reader Manifest := fun d => do
  let v ← kind.shape.fit? d
  return ⟨Metadata.ofJson ((v.member? "metadata").getD (.object [])), head.foldl Json.eraseMember v⟩

/-- Writes an object of a kind, which always names it and has metadata. -/
def toJson (kind : Kind) (m : Manifest) : Json :=
  ((m.body.setMember "apiVersion" (.text kind.apiVersion)).setMember "kind"
    (.text kind.name)).setMember "metadata" m.metadata.toJson

/-- A live object with a desired one laid over it, as they are written, and whether that changed
anything. -/
def overlay? (kind : Kind) (live desired : Manifest) : Option (Manifest × Bool) :=
  let merged := (live.toJson kind).overlay (desired.toJson kind)
  (ofDocument? kind (.ofJson merged)).map fun m => (m, !(live.toJson kind).same merged)

/-- The name of the object. -/
def name (m : Manifest) : String := m.metadata.anyName

/-- The value of a label. -/
def label? (m : Manifest) (key : String) : Option String := m.metadata.label? key

/-- The text at the end of a path through the body. -/
def text? (m : Manifest) (path : List String) : Option String := (m.body.at? path).bind Json.asText?

/-- The whole number at the end of a path through the body. -/
def int? (m : Manifest) (path : List String) : Option Int := (m.body.at? path).bind Json.asInt?

/-- The list at the end of a path through the body; empty when there is none. -/
def items (m : Manifest) (path : List String) : List Json :=
  ((m.body.at? path).bind Json.asList?).getD []

end Manifest

end RaftMysql
