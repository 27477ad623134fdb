import RaftMysql.Proofs.Health.Labelling
import RaftMysql.Proofs.Member.Reports

/-!
# When a follower is taken for healthy

A member is a healthy follower by its report just when its last answers say that it `Follows`: the agent says
so, the first row about replication names no lost state and has the statements applied, the number in its
delay is not too large, and writes are refused (`Health.healthy_follower_iff`). Nothing is asked of the thread
that receives the statements, and a delay without a number counts as none. So a member that receives nothing
can be taken for a healthy follower (`Health.exists_stopped_follower`).
-/

namespace RaftMysql

namespace ReplicaState

variable {rows : List Row} {behind : Float}

/-- When the rows about replication say that it runs. -/
theorem ofRows_eq_running : ofRows rows = running behind ↔ ∃ row rest, rows = row :: rest ∧
    (Row.text row "Slave_IO_State").map Char.toLower ∉ lostStates ∧
    Row.text row "Slave_SQL_Running" = "Yes" ∧
    behind = number (Row.text row "Seconds_Behind_Master") := by
  rcases rows with _ | ⟨row, rest⟩
  · simp [ofRows]
  · simp only [ofRows]
    split_ifs with hlost hstopped
    · simp [hlost]
    · simp [hstopped]
    · simp [hlost, not_not.mp hstopped, eq_comm]

end ReplicaState

theorem readOnlyVerdict_eq_yes {value : Option String} :
    readOnlyVerdict value = .ok .yes ↔ ∃ s, value = some s ∧ s ≠ "0" ∧ isByte s = true := by
  unfold readOnlyVerdict
  rcases value with _ | s
  · simp
  · dsimp only
    split_ifs <;> simp_all

namespace Member

/-- The last answers say that the member follows and keeps up: the agent says that it follows, replication
runs by the first row about it, with no more delay than a hundred long queries, and writes are refused. -/
structure Follows (heard : Heard) (row : Row) (longQuery readOnly : List Row) : Prop where
  follower : ∃ view, heard.view = some (.ok view) ∧ view.role = .follower
  status : ∃ rest, heard.status = some (.ok (row :: rest))
  /-- The connection to the leader is in none of the states that tell of a loss. -/
  connected : (Row.text row "Slave_IO_State").map Char.toLower ∉ ReplicaState.lostStates
  /-- Statements that were received are applied. -/
  applied : Row.text row "Slave_SQL_Running" = "Yes"
  measured : heard.longQuery = some (.ok longQuery)
  /-- The delay is no larger, where what is no number counts as zero. -/
  near : ¬ ReplicaState.number ((Heard.value longQuery).getD "") * 100 <
    ReplicaState.number (Row.text row "Seconds_Behind_Master")
  switch : heard.readOnly = some (.ok readOnly)
  refuses : ∃ s, Heard.value readOnly = some s ∧ s ≠ "0" ∧ isByte s = true

variable {heard : Heard} {host : String}

theorem report_readOnly_eq_yes : (heard.report host).readOnly = .yes ↔
    ∃ readOnly, heard.readOnly = some (.ok readOnly) ∧
      ∃ s, Heard.value readOnly = some s ∧ s ≠ "0" ∧ isByte s = true := by
  rw [readOnly_report (by decide), Heard.readOnlyVerdict]
  rcases heard.readOnly with _ | _ | rows
  · simp
  · simp
  · simp [readOnlyVerdict_eq_yes]

/-- When replication is found to run with no delay that matters. -/
theorem replication_keeps_up :
    heard.replication.replicating = .yes ∧ heard.replication.lagged = .no ↔
      ∃ rows behind longQuery, heard.status = some (.ok rows) ∧
        ReplicaState.ofRows rows = .running behind ∧ heard.longQuery = some (.ok longQuery) ∧
        ¬ ReplicaState.number ((Heard.value longQuery).getD "") * 100 < behind := by
  unfold Heard.replication
  rcases heard.status with _ | _ | rows
  · simp
  · simp [Replication.failed]
  · dsimp only
    rcases hstate : ReplicaState.ofRows rows with _ | reason | behind
    · simp [hstate]
    · simp [hstate, Replication.failed]
    · rcases heard.longQuery with _ | _ | longQuery
      · simp
      · simp [Replication.failed]
      · simp [hstate, Replication.lag, Verdict.ofBool]

theorem follower_vouches {r : Report} : r.vouches = true ∧ r.leader = .no ↔
    r.leader = .no ∧ (r.replicating = .yes ∧ r.lagged = .no) ∧ r.readOnly = .yes := by
  unfold Report.vouches
  cases r.leader <;> simp [and_assoc, and_comm]

theorem exists_follows_iff :
    (heard.report host).vouches = true ∧ (heard.report host).leader = .no ↔
      ∃ row longQuery readOnly, Follows heard row longQuery readOnly := by
  rw [follower_vouches, leader_report (by decide), report_readOnly_eq_yes]
  simp only [leaderVerdict_eq_no]
  have hreplication := @replication_keeps_up heard
  constructor
  · rintro ⟨hfollower, hkeeps, readOnly, hswitch, hrefuses⟩
    obtain ⟨rows, behind, longQuery, hstatus, hstate, hmeasured, hnear⟩ := hreplication.mp hkeeps
    obtain ⟨row, rest, rfl, hconnected, happlied, rfl⟩ := ReplicaState.ofRows_eq_running.mp hstate
    exact ⟨row, longQuery, readOnly, hfollower, ⟨rest, hstatus⟩, hconnected, happlied, hmeasured, hnear,
      hswitch, hrefuses⟩
  · rintro ⟨row, longQuery, readOnly, h⟩
    obtain ⟨rest, hstatus⟩ := h.status
    have hstate := ReplicaState.ofRows_eq_running.mpr ⟨row, rest, rfl, h.connected, h.applied, rfl⟩
    exact ⟨h.follower, hreplication.mpr ⟨_, _, longQuery, hstatus, hstate, h.measured, h.near⟩, readOnly,
      h.switch, h.refuses⟩

end Member

namespace Health

variable {c : Credentials} {s : ProbeSettings} {host : String} {allowed : Bool} {t : Trace}
  {report : Report}

/-- **A healthy follower** is made of the last answers: a look makes its member one just when these say
that the member follows and keeps up. -/
theorem healthy_follower_iff (h : (Member.probe c s host allowed).Run t report) (node : Node)
    (now : Time) :
    (node.record report now).conditions.isHealthy = true ∧ report.leader = .no ↔
      ∃ row longQuery readOnly, Member.Follows (Heard.of t) row longQuery readOnly := by
  rw [Node.isHealthy_record, (Member.reports_of_run h).told]
  exact Member.exists_follows_iff

/-! ### A follower that receives nothing -/

/-- What answers for a member that the agent calls a follower and that refuses writes, with this row about
its replication. -/
def followerAnswer (row : Row) : (q : Request) → Unit → q.Answer × Unit
  | .agent _ _ .view, s => (.ok ⟨"FOLLOWER", "l:8801", ["a:8801", "b:8801"]⟩, s)
  | .connect login, s => (.ok ⟨login.host, 0⟩, s)
  | .query _ statement, s =>
    (.ok [if statement = Replication.statusQuery then row
      else if statement = Replication.variableQuery "read_only" then [("@@global.read_only", some "1")]
      else [("@@global.long_query_time", some "3")]], s)
  | q, s => ((Simulation.Nowhere.answer q { now := ⟨0, 0⟩ }).1, s)

/-- A look at this member. -/
def followerLook : Program Report :=
  Member.probe ⟨"op", "pw", "root"⟩ { attempts := 1 } "sample-mysql-0.sample-mysql.db" true

/-- What comes of it where the member is found to follow and keep up. -/
def followerReport : Report where
  host := "sample-mysql-0.sample-mysql.db"
  consensus := ⟨"FOLLOWER", "l:8801", ["a:8801", "b:8801"]⟩
  leader := .no
  lagged := .no
  replicating := .yes
  readOnly := .yes

/-- The row of a member that is five seconds behind. -/
def closeRow : Row :=
  [("Last_SQL_Error", some ""), ("Seconds_Behind_Master", some "5"), ("Slave_IO_Running", some "Yes"),
    ("Slave_IO_State", some "Waiting for master to send event"), ("Slave_SQL_Running", some "Yes")]

/-- The row of a member whose receiving thread is stopped. -/
def stoppedRow : Row :=
  [("Last_SQL_Error", some ""), ("Seconds_Behind_Master", none), ("Slave_IO_Running", some "No"),
    ("Slave_IO_State", some ""), ("Slave_SQL_Running", some "Yes")]

/-- A member that is little behind is taken for a healthy follower. -/
theorem close_follows : ∃ row longQuery readOnly,
    Member.Follows (Heard.of (followerLook.traceOf (followerAnswer closeRow) ())) row longQuery readOnly :=
  (healthy_follower_iff
    (Program.run_traceOf_of_eq (a := followerReport) (followerAnswer closeRow) (by decide +kernel))
    (.unknown "m" ⟨0, 0⟩) ⟨0, 0⟩).mp (by decide +kernel)

/-- A member whose receiving thread is stopped, and of whose delay nothing is known, may be taken for a
healthy follower that keeps up. -/
theorem exists_stopped_follower : ∃ t report row,
    followerLook.Run t report ∧ (Heard.of t).status = some (.ok [row]) ∧
      row.get? "Slave_IO_Running" = some (some "No") ∧ row.get? "Seconds_Behind_Master" = some none ∧
      report.leader = .no ∧ report.readOnly = .yes ∧ report.replicating = .yes ∧ report.lagged = .no ∧
      ∀ (node : Node) (now : Time), (node.record report now).conditions.isHealthy = true := by
  have hrun : followerLook.Run (followerLook.traceOf (followerAnswer stoppedRow) ()) followerReport :=
    Program.run_traceOf_of_eq (followerAnswer stoppedRow) (by decide +kernel)
  refine ⟨_, followerReport, stoppedRow, hrun, by decide +kernel, rfl, rfl, rfl, rfl, rfl, rfl,
    fun node now => ?_⟩
  rw [Node.isHealthy_record]
  rfl

end Health

end RaftMysql
