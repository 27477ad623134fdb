import RaftMysql.Wire.Exchange
import RaftMysql.Json.Reader
import RaftMysql.Member.Agent
import RaftMysql.Error

/-!
# The agents' interface

Every agent listens on one port and takes its calls under fixed paths, from the super user. It agrees
by the status 200 alone; what else it answers is a refusal, whatever the body says.
-/

namespace RaftMysql.Wire.AgentApi

/-- The port of the agents. -/
def port : Nat := 6601

/-- The user from whom agents take calls. -/
def user : String := "root"

/-- The beginning of the address of an agent. -/
def address (host : String) : String := "http://" ++ host ++ ":" ++ toString port

/-- Looks are `GET`, changes `POST`. -/
def method : AgentCall → Method
  | .view | .ping => .get
  | .lead | .addPeer _ | .removePeer _ => .post

/-- What is sent along with a call. -/
def body? : AgentCall → Option Json
  | .addPeer peer | .removePeer peer => some (.ofPairs [("address", .text peer)])
  | .view | .ping | .lead => none

/-- The call to an agent. -/
def callFor (password : String) (call : AgentCall) : Call where
  method := method call
  target := ⟨call.path, ""⟩
  body := body? call
  account := some ⟨user, password⟩

/-- What a body means after the agent agreed. -/
def answer? : (call : AgentCall) → String → Option call.Answer
  | .view, body => (Document.read? body).bind AgentView.ofDocument?
  | .ping, _ | .lead, _ | .addPeer _, _ | .removePeer _, _ => some ()

/-- What a reply to a call means. -/
def outcome (host : String) (call : AgentCall) : Option Reply → Except Error call.Answer
  | none => .error .agentUnreachable
  | some r =>
    if r.status ≠ 200 then .error (.agentRefused host call.path r.status)
    else match answer? call r.body with
      | some a => .ok a
      | none => .error .agentUnreachable

/-- Asks the agent of a host. -/
def ask {m : Type → Type} [Monad m] (send : String → Carrier m) (host password : String)
    (call : AgentCall) : m (Except Error call.Answer) := do
  return outcome host call (← send (address host) (callFor password call))

end RaftMysql.Wire.AgentApi
