import RaftMysql.Wire.Exchange
import RaftMysql.Json.Reader
import RaftMysql.Program.Request

/-!
# The platform's interface for objects

Every request to the object store is one call to the platform: reading is `GET`, making `POST`,
replacing `PUT` and removing `DELETE`, under a path made of the group, the namespace, the kind and the
name. The parts of the path are taken as they are, and where they make no path there is no call. A
status of 400 or more is an error; its cause stands in the body, or is made up from a body that is no
cause. An object that does not exist is told by the reason of the refusal alone, not by its code.
-/

namespace RaftMysql.Wire.ObjectApi

/-! ### Places -/

/-- The path under which the kind is served: one for the kinds at the core of the platform, another
for those of a group. -/
def root (kind : Kind) : String :=
  if kind.apiVersion = "v1" then "/api/v1" else "/apis/" ++ kind.apiVersion

/-- The path of the objects of a kind everywhere. -/
def everywhere (kind : Kind) : String := root kind ++ "/" ++ kind.plural

/-- The path of the objects of a kind in a namespace. -/
def place (kind : Kind) (space : String) : String :=
  root kind ++ "/namespaces/" ++ space ++ "/" ++ kind.plural

/-- The path of an object. -/
def placeOf (kind : Kind) (space name : String) : String := place kind space ++ "/" ++ name

/-! ### Refusals -/

/-- The cause of a refusal as the platform writes it. -/
def cause? : Document.Reader Error := fun d => do
  let given ← Document.fields? ["status", "message", "reason", "code"] d
  let _ ← Document.required given "status" Document.text?
  let message ← Document.field given "message" Document.text? ""
  let reason ← Document.field given "reason" Document.text? ""
  return .refused (← Document.required given "code" Document.nat16?) reason message

/-- The error that a refusal stands for. A body that is no cause is quoted. -/
def refusal (r : Reply) : Error :=
  ((Document.read? r.body).bind cause?).getD
    (.refused r.status "Failed to parse error data" (Text.quoted r.body))

/-- What a reply to a call means. -/
def outcome {α : Type} (read : Document.Reader α) : Option Reply → Except Error α
  | none => .error .platform
  | some r =>
    if 400 ≤ r.status ∧ r.status < 600 then .error (refusal r)
    else match (Document.read? r.body).bind read with
      | some a => .ok a
      | none => .error .platform

/-! ### Replies -/

/-- Reads a list of objects, of which `null` is one without any. -/
def objects? (now : Time) (kind : Kind) : Document.Reader (List kind.Object) := fun d => do
  let given ← Document.fields? ["metadata", "items"] d
  let _ ← Document.required given "metadata" Shape.listMetadata.fit?
  let items ← Document.required given "items" (Document.optional? (Document.list? (kind.read? now)))
  return items.getD []

/-- Reads fields that are texts if they are given. -/
def texts? (given : String → Option Document) (names : List String) : Option Unit :=
  names.forM fun name => do
    let _ ← Document.field given name Document.text? ""

/-- Reads one of the causes in a report. -/
def reportCause? : Document.Reader Unit := fun d => do
  let names := ["reason", "message", "field"]
  texts? (← Document.fields? names d) names

/-- Reads the details of a report. -/
def reportDetails? : Document.Reader Unit := fun d => do
  let given ← Document.fields? ["name", "group", "kind", "uid", "causes", "retryAfterSeconds"] d
  texts? given ["name", "group", "kind", "uid"]
  let _ ← Document.field given "causes" (Document.list? reportCause?) []
  let _ ← Document.field given "retryAfterSeconds" Document.nat32? 0
  return ()

/-- Reads a report on a removal. -/
def report? : Document.Reader Unit := fun d => do
  let given ← Document.fields? ["status", "code", "message", "reason", "details"] d
  let _ ← Document.field given "status"
    (Document.optional? (Document.oneOf? [("Success", ()), ("Failure", ())])) none
  let _ ← Document.field given "code" Document.nat16? 0
  texts? given ["message", "reason"]
  let _ ← Document.field given "details" (Document.optional? reportDetails?) none
  return ()

/-- Reads the reply to a removal, which must stand for a value as a whole: a report, or the object
that is going. -/
def removed? (now : Time) (kind : Kind) : Document.Reader Unit := fun d => do
  let v ← Json.ofDocument? d
  if (v.member? "kind").bind Json.asText? == some "Status" then report? d
  else (kind.read? now d).map fun _ => ()

/-! ### Calls -/

section

variable {m : Type → Type} [Monad m] (send : Carrier m) (now : Time) (space : String) (kind : Kind)

/-- One call and what its reply means. -/
def exchange {α : Type} (method : Method) (target : String) (body : Option Json)
    (read : Document.Reader α) : m (Except Error α) := do
  match Target.ofText? target with
  | none => return .error .platform
  | some target => return outcome read (← send { method := method, target := target, body := body })

/-- Whether objects of the kind are served: a list of at most one. -/
def serves : m (Except Error Unit) := do
  let target := everywhere kind ++ "?" ++ Target.parameter "limit" "1"
  return (← exchange send .get target none (objects? now kind)).map fun _ => ()

/-- An object by its name; that it does not exist is no error. -/
def get (name : String) : m (Except Error (Option kind.Object)) := do
  match ← exchange send .get (placeOf kind space name) none (kind.read? now) with
  | .ok object => return .ok (some object)
  | .error (.refused code reason message) =>
    return if reason = "NotFound" then .ok none else .error (.refused code reason message)
  | .error e => return .error e

/-- The objects that satisfy a selector. -/
def list (selector : Labels) : m (Except Error (List kind.Object)) :=
  exchange send .get
    (place kind space ++ "?" ++ Target.parameter "labelSelector" selector.selectorText) none
    (objects? now kind)

/-- Makes an object. -/
def create (object : kind.Object) : m (Except Error kind.Object) :=
  exchange send .post (place kind space ++ "?") (some (kind.write object)) (kind.read? now)

/-- Replaces an object. -/
def replace (object : kind.Object) : m (Except Error kind.Object) :=
  exchange send .put (placeOf kind space (kind.nameOf object) ++ "?") (some (kind.write object))
    (kind.read? now)

/-- Replaces the status of an object. -/
def replaceStatus (object : kind.Object) : m (Except Error kind.Object) :=
  exchange send .put (placeOf kind space (kind.nameOf object) ++ "/status?")
    (some (kind.write object)) (kind.read? now)

/-- How a removal says what becomes of the objects that are owned. -/
def removal : Propagation → Json
  | .byKind => .object []
  | .orphan => .ofPairs [("propagationPolicy", .text "Orphan")]

/-- Removes an object. -/
def delete (name : String) (propagation : Propagation) : m (Except Error Unit) :=
  exchange send .delete (placeOf kind space name ++ "?") (some (removal propagation))
    (removed? now kind)

end

/-! ### Events -/

/-- An event as it is sent to the platform: what happened, to which cluster, and who says so. -/
def eventBody (c : Cluster) (notice : Notice) (action reporter instance' : String) (now : Time) :
    Json :=
  let regarding := Json.ofMembers
    [("apiVersion", some (.text Kind.cluster.apiVersion)), ("kind", some (.text Kind.cluster.name)),
     ("name", c.metadata.name.map .text), ("namespace", c.metadata.space.map .text),
     ("uid", c.metadata.uid.map .text), ("resourceVersion", c.metadata.version.map .text)]
  .ofPairs
    [("apiVersion", .text "events.k8s.io/v1"), ("kind", .text "Event"), ("action", .text action),
     ("eventTime", .text now.write), ("note", .text notice.note), ("reason", .text notice.reason),
     ("regarding", regarding), ("reportingController", .text reporter),
     ("reportingInstance", .text instance'),
     ("type", .text (if notice.warning then "Warning" else "Normal")),
     ("metadata", .ofMembers [("generateName", some (.text (reporter ++ "-"))),
       ("namespace", c.metadata.space.map .text)])]

end RaftMysql.Wire.ObjectApi
