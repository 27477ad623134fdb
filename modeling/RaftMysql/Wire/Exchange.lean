import RaftMysql.Json.Writer
import RaftMysql.Text.Base64
import RaftMysql.Wire.Target

/-!
# Calls and replies

A `Call` is what goes out to the platform or to an agent, a `Reply` what comes back. A `Carrier` takes
calls to where they belong; from a place that cannot be reached there is no reply.
-/

namespace RaftMysql.Wire

/-- What a call asks for. -/
inductive Method where
  | get
  | post
  | put
  | delete
  deriving DecidableEq, Repr

/-- The name of a method. -/
def Method.name : Method → String
  | get => "GET"
  | post => "POST"
  | put => "PUT"
  | delete => "DELETE"

/-- A user and a password. -/
structure Account where
  user : String
  password : String
  deriving DecidableEq, Repr

/-- The header that proves an account. -/
def Account.header (a : Account) : String :=
  "Basic " ++ Text.Base64.encode (a.user ++ ":" ++ a.password).toUTF8.toList

/-- A call. -/
structure Call where
  method : Method
  target : Target
  body : Option Json := none
  account : Option Account := none
  deriving Repr

/-- What comes back from a call. -/
structure Reply where
  status : Nat
  body : String
  deriving DecidableEq, Repr

/-- What takes calls to one place. -/
abbrev Carrier (m : Type → Type) := Call → m (Option Reply)

end RaftMysql.Wire
