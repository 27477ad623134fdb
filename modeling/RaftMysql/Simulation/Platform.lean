import RaftMysql.Simulation.Change
import RaftMysql.Simulation.Reference
import RaftMysql.Object.Labels

/-!
# A simulated platform

A `Platform` keeps the objects of every kind under their names and numbers its writes. It stamps what
it stores as the real one does: a uid for every incarnation, a version for every write, a generation
for every change. A write that carries an older version than the stored one is turned away with a
conflict. What its hooks do later is returned with the outcome of a call.
-/

namespace RaftMysql.Simulation

/-- The stored objects, the number of the last write, and the hooks, the latest first. -/
structure Platform where
  objects : Kind → Table Json := fun _ => []
  writes : Nat := 0
  hooks : List Hook := []

/-- What a call that changes something comes to. -/
structure Effect where
  object : Json
  platform : Platform
  /-- What is to be done after the call, and how long after. -/
  later : List (Duration × Change) := []

namespace Platform

/-! ### Objects -/

/-- An object by its name. -/
def get? (p : Platform) (kind : Kind) (name : String) : Option Json := (p.objects kind).get? name

/-- A text of the metadata of an object. -/
def metadataText? (object : Json) (key : String) : Option String :=
  (object.at? ["metadata", key]).bind Json.asText?

/-- The name under which an object is kept. -/
def nameOf (object : Json) : String :=
  (metadataText? object "name" <|> metadataText? object "generateName").getD ""

/-- The generation of an object. -/
def generation? (object : Json) : Option Int :=
  (object.at? ["metadata", "generation"]).bind Json.asInt?

/-- The object with a value in its metadata. -/
def setMetadata (object : Json) (key : String) (value : Json) : Json :=
  object.setAt ["metadata", key] value

/-- The objects of a kind whose labels satisfy a selector, in the order of their names. -/
def list (p : Platform) (kind : Kind) (selector : Labels) : List Json :=
  ((p.objects kind).map (·.2)).filter fun object =>
    Labels.satisfies ((object.at? ["metadata", "labels"]).map Json.asTexts |>.getD []) selector

/-- The platform with the objects of a kind changed. -/
def update (p : Platform) (kind : Kind) (f : Table Json → Table Json) : Platform :=
  { p with objects := fun k => if k = kind then f (p.objects k) else p.objects k }

/-- The platform with an object kept under its name. -/
def keep (p : Platform) (kind : Kind) (object : Json) : Platform :=
  p.update kind fun objects => objects.insert (nameOf object) object

/-- The platform without an object. -/
def remove (p : Platform) (kind : Kind) (name : String) : Platform :=
  p.update kind fun objects => objects.erase name

/-- The version of the next write. -/
def nextVersion (p : Platform) : String := toString (p.writes + 1)

/-- An object kept as the next write. -/
def store (p : Platform) (kind : Kind) (object : Json) : Platform :=
  { p.keep kind (setMetadata object "resourceVersion" (.text p.nextVersion)) with
    writes := p.writes + 1 }

/-! ### Changes from outside -/

/-- A new incarnation of an object as the next write stores it. -/
def incarnation (p : Platform) (kind : Kind) (object : Json) (generation : Int) : Json :=
  let uid := (metadataText? object "uid").getD (kind.singular ++ "-uid-" ++ p.nextVersion)
  setMetadata (setMetadata (setMetadata object "uid" (.text uid)) "resourceVersion"
    (.text p.nextVersion)) "generation" (.int generation)

/-- The platform with an object put in place. -/
def seed (p : Platform) (kind : Kind) (object : Json) : Platform :=
  p.store kind (p.incarnation kind object ((generation? object).getD 1))

/-- The platform with an object patched. What is not there is left alone. -/
def edit (p : Platform) (kind : Kind) (name : String) (patch : Json) : Platform :=
  match p.get? kind name with
  | some object => p.store kind (object.patchResolved patch)
  | none => p

/-! ### Hooks -/

/-- The reaction that applies to an event about an object: that of the latest hook. -/
def reaction? {α : Type} (p : Platform) (kind : Kind) (name : String) (pick : Reaction → Option α) :
    Option α :=
  (p.hooks.filter fun h => h.concerns kind name).findSome? fun h => pick h.reaction

/-- What is to be done later to an object. -/
def edits (kind : Kind) (name : String) (followUps : List FollowUp) : List (Duration × Change) :=
  followUps.map fun f => (f.after, .edit kind name f.patch)

/-- The patch that an object gets when it is written, and what follows it. -/
def onWrite (p : Platform) (kind : Kind) (name : String) : Json × List FollowUp :=
  (p.reaction? kind name fun r => match r with
    | .write patch followUps => some (patch, followUps)
    | _ => none).getD (.object [], [])

/-- Stores an object as the next write, after the hooks. -/
def write (p : Platform) (kind : Kind) (object : Json) : Effect :=
  let name := nameOf object
  let (patch, followUps) := p.onWrite kind name
  let object := object.patchResolved patch
  { object := object
    platform := { p.keep kind object with writes := p.writes + 1 }
    later := edits kind name followUps }

/-- Whether and how a replacement is refused for its content. -/
def rejection? (p : Platform) (kind : Kind) (live object : Json) : Option Error :=
  let name := nameOf object
  match p.reaction? kind name fun r => match r with
    | .reject pointer code reason => some (pointer, code, reason)
    | _ => none with
  | some (pointer, code, reason) =>
    if ((live.pointer? pointer).getD .null).same ((object.pointer? pointer).getD .null) then none
    else some (.refused code reason (name ++ " is invalid"))
  | none => none

/-! ### Calls -/

/-- The object is not there. -/
def missing (name : String) : Error := .refused 404 "NotFound" (name ++ " not found")

/-- Whether an object carries another version than the stored one. -/
def isOutdated (live object : Json) : Bool :=
  match metadataText? object "resourceVersion" with
  | some version => some version != metadataText? live "resourceVersion"
  | none => false

/-- The stored version of an object that is about to be written, which must not be a later one. -/
def current (p : Platform) (kind : Kind) (object : Json) : Except Error Json :=
  let name := nameOf object
  match p.get? kind name with
  | none => .error (missing name)
  | some live =>
    if isOutdated live object then
      .error (.refused 409 "Conflict" (name ++ ": the object has been modified"))
    else .ok live

/-- Creates an object. -/
def create (p : Platform) (kind : Kind) (object : Json) : Except Error Effect :=
  let name := nameOf object
  match p.get? kind name with
  | some _ => .error (.refused 409 "AlreadyExists" (name ++ " exists"))
  | none => .ok (p.write kind (p.incarnation kind object 1))

/-- The object as a write stores it over an older version. -/
def successor (p : Platform) (live object : Json) : Json :=
  let object := match live.at? ["metadata", "uid"] with
    | some uid => setMetadata object "uid" uid
    | none => object.eraseAt ["metadata", "uid"]
  setMetadata (setMetadata object "resourceVersion" (.text p.nextVersion)) "generation"
    (.int ((generation? live).getD 1 + 1))

/-- Replaces an object. -/
def replace (p : Platform) (kind : Kind) (object : Json) : Except Error Effect := do
  let live ← p.current kind object
  match p.rejection? kind live object with
  | some error => throw error
  | none => return p.write kind (p.successor live object)

/-- Replaces the status of an object and nothing else. -/
def replaceStatus (p : Platform) (kind : Kind) (object : Json) : Except Error Effect := do
  let live ← p.current kind object
  let object := match object.member? "status" with
    | some status => live.setMember "status" status
    | none => live.eraseMember "status"
  return { object := object, platform := p.store kind object }

/-- The moment from which a lingering object is on its way out. -/
def deletionMoment : Json := .text "2024-01-01T00:00:00Z"

/-- A copy of a deleted object without what belonged to that incarnation. -/
def copyOf (object patch : Json) : Json :=
  let bare := ["uid", "resourceVersion", "generation", "deletionTimestamp"].foldl
    (fun v key => v.eraseAt ["metadata", key]) object
  bare.patch (object.resolve patch)

/-- Deletes an object, as its hooks have it. -/
def delete (p : Platform) (kind : Kind) (name : String) : Except Error Effect :=
  match p.get? kind name with
  | none => .error (missing name)
  | some object =>
    match p.reaction? kind name fun r => match r with
      | .delete copy after lingers followUps => some (copy, after, lingers, followUps)
      | _ => none with
    | none => .ok { object := object, platform := p.remove kind name }
    | some (copy, after, lingers, followUps) =>
      let p :=
        if lingers then p.store kind (setMetadata object "deletionTimestamp" deletionMoment)
        else p.remove kind name
      let followUps := edits kind name followUps
      match copy.map (copyOf object) with
      | none => .ok { object := object, platform := p, later := followUps }
      | some copy =>
        if after = 0 then .ok { object := object, platform := p.seed kind copy, later := followUps }
        else .ok { object := object, platform := p, later := (after, .seed kind copy) :: followUps }

end Platform

end RaftMysql.Simulation
