import RaftMysql.Program.Request

/-!
# Procedures

A `Program` is a procedure as a tree: it is done with a result, or it asks for something and goes on
by the answer. What answers is left open, so that one and the same procedure can be run against the
platform, against a simulation, or against every possible sequence of answers in a proof.
`Program.run` runs one against anything that answers from a state. A `Procedure` may also fail.
-/

namespace RaftMysql

/-- A procedure that touches the world through requests. -/
inductive Program (α : Type) : Type where
  | done (result : α)
  | ask (request : Request) (next : request.Answer → Program α)

namespace Program

variable {α β γ : Type}

/-- One procedure after the other. -/
def bind : Program α → (α → Program β) → Program β
  | done a, f => f a
  | ask q next, f => ask q fun answer => bind (next answer) f

instance : Monad Program where
  pure := done
  bind := bind

@[simp] theorem bind_done (p : Program α) : bind p done = p := by
  induction p with
  | done a => rfl
  | ask q next ih => simp only [bind]; congr; funext a; exact ih a

theorem bind_assoc (p : Program α) (f : α → Program β) (g : β → Program γ) :
    bind (bind p f) g = bind p fun a => bind (f a) g := by
  induction p with
  | done a => rfl
  | ask q next ih => simp only [bind]; congr; funext a; exact ih a

instance : LawfulMonad Program :=
  LawfulMonad.mk' _ bind_done (fun _ _ => rfl) bind_assoc

/-- A single request. -/
def request (q : Request) : Program q.Answer := ask q done

/-- Runs a procedure against something that answers from a state. -/
def run {σ : Type} (answer : (q : Request) → σ → q.Answer × σ) : Program α → σ → α × σ
  | done a, s => (a, s)
  | ask q next, s => run answer (next (answer q s).1) (answer q s).2

end Program

/-- A procedure that may fail. -/
abbrev Procedure := ExceptT Error Program

namespace Procedure

variable {α : Type}

/-- A procedure from a program that says whether it failed. -/
def of (p : Program (Except Error α)) : Procedure α := p

/-- A procedure as a program that says whether it failed. -/
def outcome (p : Procedure α) : Program (Except Error α) := p

/-- A step that cannot fail. -/
def step (p : Program α) : Procedure α := ExceptT.lift p

end Procedure

/-! ### The object store -/

namespace Store

/-- Makes sure that the platform serves a kind. -/
def serves (kind : Kind) : Procedure Unit := .of (Program.request (.serves kind))

/-- An object by its name, if it exists. -/
def get (kind : Kind) (name : String) : Procedure (Option kind.Object) :=
  .of (Program.request (.get kind name))

/-- The objects whose labels satisfy a selector. -/
def list (kind : Kind) (selector : Labels) : Procedure (List kind.Object) :=
  .of (Program.request (.list kind selector))

/-- Stores a new object. -/
def create (kind : Kind) (object : kind.Object) : Procedure kind.Object :=
  .of (Program.request (.create kind object))

/-- Stores an object in place of its older version. -/
def replace (kind : Kind) (object : kind.Object) : Procedure kind.Object :=
  .of (Program.request (.replace kind object))

/-- Stores the status of an object in place of its older version. -/
def replaceStatus (kind : Kind) (object : kind.Object) : Procedure kind.Object :=
  .of (Program.request (.replaceStatus kind object))

/-- Removes an object. -/
def delete (kind : Kind) (name : String) (propagation : Propagation) : Procedure Unit :=
  .of (Program.request (.delete kind name propagation))

/-- Removes an object; that it does not exist is as good. -/
def ensureDeleted (kind : Kind) (name : String) (propagation : Propagation) : Procedure Unit :=
  .of do
    match ← Program.request (.delete kind name propagation) with
    | .ok () => return .ok ()
    | .error e => return if e.isNotFound then .ok () else .error e

end Store

/-! ### Members -/

namespace Member

/-- Asks a consensus agent. -/
def ask (host password : String) (call : AgentCall) : Procedure call.Answer :=
  .of (Program.request (.agent host password call))

/-- The rows that answer a query. -/
def query (session : Session) (statement : String) : Procedure (List Row) :=
  .of (Program.request (.query session statement))

/-- Runs a statement whose answer does not matter. -/
def execute (session : Session) (statement : String) : Procedure Unit :=
  .of (Program.request (.execute session statement))

end Member

/-- Counts an occurrence. -/
def note (occurrence : Occurrence) : Program Unit := Program.request (.record occurrence)

end RaftMysql
