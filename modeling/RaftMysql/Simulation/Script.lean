import RaftMysql.Program.Basic

/-!
# A member that answers from a script

`Script.answer` plays a single member: its agent has one answer, connections succeed or fail as
listed, and every session answers queries and statements from its own copy of two lists. What runs
out succeeds, except that a query without an answer left fails. Pauses only move the clock. Every
call is logged.
-/

namespace RaftMysql

/-- What an open session still has to answer. -/
structure ScriptedSession where
  queries : List (Except Error (List Row))
  statements : List (Option Error)

/-- A member that answers from a script. -/
structure Script where
  view : Except Error AgentView := .ok {}
  connects : List (Option Error) := []
  queries : List (Except Error (List Row)) := []
  statements : List (Option Error) := []
  /-- The open sessions by their numbers. -/
  sessions : List ScriptedSession := []
  clock : Duration := 0
  now : Time := ⟨0, 0⟩
  /-- What was asked, in reverse. -/
  log : List String := []

namespace Script

/-- The script with a line logged. -/
def logged (s : Script) (line : String) : Script := { s with log := line :: s.log }

/-- A fresh session. -/
def openSession (s : Script) : Script :=
  { s with sessions := s.sessions ++ [⟨s.queries, s.statements⟩] }

/-- The outcome of a step that fails with the first error of a list. -/
def outcome {α : Type} (value : α) : Option Error → Except Error α
  | some e => .error e
  | none => .ok value

/-- A login as it is logged. -/
def loginText (l : Login) : String :=
  "connect " ++ l.host ++ ":" ++ toString l.port ++ " " ++ l.user ++ "/" ++ l.password ++ " "
    ++ toString (Duration.millis l.timeout) ++ "ms"

/-- A connection asked for. -/
def connect (s : Script) (l : Login) : Except Error Session × Script :=
  let s := s.logged (loginText l)
  let rest := { s with connects := s.connects.tail }
  match s.connects.head?.join with
  | some e => (.error e, rest)
  | none => (.ok ⟨l.host, rest.sessions.length⟩, rest.openSession)

/-- A query asked. -/
def query (s : Script) (session : Session) (statement : String) :
    Except Error (List Row) × Script :=
  let s := s.logged ("query " ++ statement)
  match s.sessions[session.number]? with
  | some ⟨answer :: queries, statements⟩ =>
    (answer, { s with sessions := s.sessions.set session.number ⟨queries, statements⟩ })
  | _ => (.error (.internal "script exhausted"), s)

/-- A statement run. -/
def execute (s : Script) (session : Session) (statement : String) : Except Error Unit × Script :=
  let s := s.logged ("run " ++ statement)
  match s.sessions[session.number]? with
  | some ⟨queries, answer :: statements⟩ =>
    (outcome () answer, { s with sessions := s.sessions.set session.number ⟨queries, statements⟩ })
  | _ => (.ok (), s)

/-- The answer to a request and the script after it. There is no platform behind a script. -/
def answer : (q : Request) → Script → q.Answer × Script
  | .agent host password call, s =>
    match call with
    | .view => (s.view, s.logged ("raft_status " ++ host ++ " " ++ password))
    | .lead | .ping | .addPeer _ | .removePeer _ => (.ok (), s)
  | .connect login, s => s.connect login
  | .query session statement, s => s.query session statement
  | .execute session statement, s => s.execute session statement
  | .now, s => (s.now.after s.clock, s)
  | .clock, s => (s.clock, s)
  | .sleep d, s => ((), { s with clock := s.clock + d })
  | .inHandoff _, s => (false, s)
  | .startHandoff _, s | .stopHandoff _, s | .record _, s | .publish _, s => ((), s)
  | .serves _, s => (.error .platform, s)
  | .get .., s => (.error .platform, s)
  | .list .., s => (.error .platform, s)
  | .create .., s => (.error .platform, s)
  | .replace .., s => (.error .platform, s)
  | .replaceStatus .., s => (.error .platform, s)
  | .delete .., s => (.error .platform, s)

end Script

end RaftMysql
