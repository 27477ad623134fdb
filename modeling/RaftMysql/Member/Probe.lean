import RaftMysql.Member.Replication
import RaftMysql.Object.Secret

/-!
# Looking at a member

A look at a member asks its consensus agent for its role, and its database server whether it
replicates, keeps up and refuses writes. What was not answered stays unknown, and the last error met
is kept: a look never fails as a whole. A leader that refuses writes is made writable again, unless
its leadership is just moving.
-/

namespace RaftMysql

/-- What a look at a member found. -/
structure Report where
  host : String
  consensus : Consensus := { role := Role.unknown.name }
  leader : Verdict := .unknown
  lagged : Verdict := .unknown
  replicating : Verdict := .unknown
  readOnly : Verdict := .unknown
  message : Option String := none
  deriving DecidableEq, Repr

namespace Report

/-- The role of the member. -/
def role (r : Report) : Role := Role.ofName r.consensus.role

end Report

/-- The login of the operator on a host. -/
def Credentials.login (c : Credentials) (host : String) (s : ProbeSettings) : Login :=
  { host := host, user := c.user, password := c.password, timeout := s.connectTimeout }

namespace Member

/-- Opens a session on a host, in several attempts. -/
def connect (c : Credentials) (host : String) (s : ProbeSettings) : Procedure Session :=
  retry s.attempts s.retryInterval (Procedure.of (Program.request (.connect (c.login host s))))

/-- The statements that make a leader writable. -/
def writeEnabling : List String := ["SET GLOBAL read_only=off", "SET GLOBAL super_read_only=off"]

/-- Whether a role is that of a leader; only leaders and followers are known not to be in
between. -/
def leaderVerdict : Role → Verdict
  | .leader => .yes
  | .follower => .no
  | _ => .unknown

/-- What the consensus agent of a host has to say. -/
def askAgent (host password : String) : Program Report := do
  let report : Report := { host := host }
  match ← (ask host password .view).outcome with
  | .ok (view : AgentView) =>
    return { report with leader := leaderVerdict view.role, consensus := view.toConsensus }
  | .error e => return { report with message := some e.message }

/-- Runs statements one after the other, whatever comes of them. -/
def executeAll (session : Session) : List String → Program Unit
  | [] => return ()
  | statement :: rest => do
    let _ ← (execute session statement).outcome
    executeAll session rest

/-- The leader is known to lead and not known to take writes. -/
def needsWriteFix (r : Report) : Bool := r.leader == .yes && r.readOnly != .no

/-- What the database server has to say, added to a report. -/
def askServer (session : Session) (s : ProbeSettings) (report : Report) : Program Report := do
  let replication ← Replication.check session s.attempts s.retryInterval
  let report :=
    { report with
      lagged := replication.lagged
      replicating := replication.replicating
      message := replication.error <|> report.message }
  match ← (checkReadOnly session).outcome with
  | .ok verdict => return { report with readOnly := verdict }
  | .error e => return { report with message := some e.message }

/-- Looks at the member on a host. -/
def probe (c : Credentials) (s : ProbeSettings) (host : String) (allowWriteFix : Bool) :
    Program Report := do
  let report ← askAgent host c.rootPassword
  match ← (connect c host s).outcome with
  | .error e => return { report with message := some e.message }
  | .ok session =>
    let report ← askServer session s report
    if allowWriteFix && needsWriteFix report then executeAll session writeEnabling
    return report

end Member

end RaftMysql
