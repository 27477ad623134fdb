import RaftMysql.Metrics.Basic
import RaftMysql.Decimal.Shortest

/-!
# Metrics as text

`Metrics.render` lists the metrics family by family in the order of their names, and in each family
the samples in the order of their labels. A family without samples is left out. `httpOk` is the
answer of a server to someone who fetches a text.
-/

namespace RaftMysql

/-- A label value between double quotes. -/
def escapeLabel (s : String) : String :=
  String.ofList (s.toList.flatMap fun c =>
    if c = '\\' then ['\\', '\\']
    else if c = '"' then ['\\', '"']
    else if c = '\n' then ['\\', 'n']
    else [c])

/-- A sample: a name with an ending, labels and a value. -/
structure Sample where
  ending : String := ""
  labels : List (String × String)
  value : String

namespace Sample

/-- The line of a sample. -/
def line (family : String) (s : Sample) : String :=
  family ++ s.ending ++ "\x7b"
    ++ ",".intercalate (s.labels.map fun l => l.1 ++ "=\"" ++ escapeLabel l.2 ++ "\"")
    ++ "\x7d " ++ s.value

end Sample

/-- Samples of one name. -/
structure Family where
  name : String
  help : String
  type : String
  samples : List Sample

namespace Family

/-- The lines of a family. -/
def lines (f : Family) : List String :=
  if f.samples.isEmpty then []
  else ["# HELP " ++ f.name ++ " " ++ f.help, "# TYPE " ++ f.name ++ " " ++ f.type]
    ++ f.samples.map (·.line f.name)

end Family

namespace Histogram

/-- A bound as it is written, in seconds. -/
def boundText (millis : Nat) : String := Decimal.plain (Float.ofNat millis / 1000)

/-- The samples of a histogram under the label of its cluster. -/
def samples (cluster : String) (h : Histogram) : List Sample :=
  (bounds.zip h.within).map (fun (bound, n) =>
    ⟨"_bucket", [("cluster", cluster), ("le", boundText bound)], toString n⟩)
  ++ [⟨"_bucket", [("cluster", cluster), ("le", "+Inf")], toString h.count⟩,
      ⟨"_sum", [("cluster", cluster)], Decimal.plain h.sum⟩,
      ⟨"_count", [("cluster", cluster)], toString h.count⟩]

end Histogram

namespace Metrics

/-- A sample for every row of a series. -/
def plainSamples {α : Type} [ToString α] (labels : List String) (s : Series α) : List Sample :=
  s.map fun (values, v) => ⟨"", labels.zip values, toString v⟩

/-- The states in the order of their names. -/
def statesByName : List State :=
  [.closed, .error, .initializing, .ready, .scaleIn, .scaleOut, .updating]

/-- A sample for every state of every cluster: one for the state it is in, zero for the others. -/
def stateSamples (s : Series (Option State)) : List Sample :=
  s.flatMap fun (values, current) => statesByName.map fun state =>
    ⟨"", ["cluster", "state"].zip (values ++ [state.name]),
      if current = some state then "1" else "0"⟩

/-- Every family in the order of the names. -/
def families (m : Metrics) : List Family :=
  [⟨"mysql_operator_cluster_ready_nodes", "Number of ready members per cluster", "gauge",
      plainSamples ["cluster"] m.readyNodes⟩,
   ⟨"mysql_operator_cluster_state", "Current state of each cluster", "gauge",
      stateSamples m.states⟩,
   ⟨"mysql_operator_errors_total", "Total number of errors", "counter",
      plainSamples ["type"] m.errors⟩,
   ⟨"mysql_operator_leader_transfers_total", "Total number of leadership transfers", "counter",
      plainSamples ["cluster"] m.leaderTransfers⟩,
   ⟨"mysql_operator_member_updates_total",
      "Total number of members restarted by rolling updates", "counter",
      plainSamples ["cluster"] m.memberUpdates⟩,
   ⟨"mysql_operator_pvc_expansions_total", "Total number of storage expansions", "counter",
      plainSamples ["cluster"] m.expansions⟩,
   ⟨"mysql_operator_reconciliation_duration_seconds", "Duration of reconciliations", "histogram",
      m.durations.flatMap fun (values, h) => h.samples (values.headD "")⟩,
   ⟨"mysql_operator_reconciliations_total", "Total number of reconciliations", "counter",
      plainSamples ["cluster", "result"] m.passes⟩]

/-- The text of all metrics. -/
def render (m : Metrics) : String :=
  String.join ((m.families.flatMap Family.lines).map (· ++ "\n"))

end Metrics

/-- The answer of a server: a text of some type, with its length in bytes. -/
def httpOk (contentType body : String) : String :=
  "HTTP/1.1 200 OK\r\nContent-Type: " ++ contentType ++ "\r\nContent-Length: "
    ++ toString body.utf8ByteSize ++ "\r\n\r\n" ++ body

namespace Metrics

/-- The answer to someone who fetches the metrics. -/
def page (m : Metrics) : String := httpOk "text/plain; version=0.0.4; charset=utf-8" m.render

end Metrics

end RaftMysql
