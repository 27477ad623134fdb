import RaftMysql.Program.Basic
import RaftMysql.Member.Handoffs

/-!
# Where nothing can be reached

`Nowhere.answer` answers every request the way a disconnected network does: the platform, the agents
and the database servers cannot be talked to. Only the clock, the moves of leadership and the counts
are there, since they need no one else.
-/

namespace RaftMysql.Simulation

/-- What there is without a network. -/
structure Nowhere where
  now : Time
  clock : Duration := 0
  handoffs : Handoffs := {}
  metrics : Metrics := {}

namespace Nowhere

/-- The answer to a request and what there is after it. -/
def answer : (q : Request) → Nowhere → q.Answer × Nowhere
  | .serves _, n | .delete .., n => (.error .platform, n)
  | .get .., n => (.error .platform, n)
  | .list .., n => (.error .platform, n)
  | .create .., n => (.error .platform, n)
  | .replace .., n => (.error .platform, n)
  | .replaceStatus .., n => (.error .platform, n)
  | .agent _ _ _, n => (.error .agentUnreachable, n)
  | .connect _, n => (.error .database, n)
  | .query .., n => (.error .database, n)
  | .execute .., n => (.error .database, n)
  | .now, n => (n.now.after n.clock, n)
  | .clock, n => (n.clock, n)
  | .sleep time, n => ((), { n with clock := n.clock + time })
  | .startHandoff cluster, n => ((), { n with handoffs := n.handoffs.start cluster })
  | .stopHandoff cluster, n => ((), { n with handoffs := n.handoffs.stop cluster })
  | .inHandoff cluster, n => (n.handoffs.inProgress cluster, n)
  | .record occurrence, n => ((), { n with metrics := n.metrics.record occurrence })
  | .publish _, n => ((), n)

/-- Runs a procedure. -/
def run {α : Type} (n : Nowhere) (p : Procedure α) : Except Error α × Nowhere :=
  Program.run answer p.outcome n

/-- The answer that reaches someone who fetches the page of metrics: without a network, none. -/
def fetched? (_ : Nowhere) : Option String := none

end Nowhere

end RaftMysql.Simulation
