import RaftMysql.Text.Blank
import RaftMysql.Text.Utf8
import RaftMysql.Text.Base64
import RaftMysql.Text.Quoted
import RaftMysql.Text.Form
import RaftMysql.Json.Reader
import RaftMysql.Json.Writer
import RaftMysql.Json.Pointer
import RaftMysql.Json.Patch
import RaftMysql.Json.Overlay
import RaftMysql.Time.Rfc3339
import RaftMysql.Time.Span
import RaftMysql.Quantity
import RaftMysql.Error
import RaftMysql.Settings.Form
import RaftMysql.Object.Manifest
import RaftMysql.Cluster.Status
import RaftMysql.Cluster.Backup
import RaftMysql.Object.Pod
import RaftMysql.Object.Secret
import RaftMysql.Workload.Template
import RaftMysql.Metrics.Exposition
import RaftMysql.Member.Handoffs
import RaftMysql.Member.Probe
import RaftMysql.Health.Observation
import RaftMysql.Cluster.Definition
import RaftMysql.Topology.Sync
import RaftMysql.Operator.Reconcile
import RaftMysql.Operator.Options
import RaftMysql.Wire.ObjectApi
import RaftMysql.Wire.AgentApi
import RaftMysql.Wire.Cells
import RaftMysql.Simulation.Script
import RaftMysql.Simulation.Look
import RaftMysql.Simulation.World
import RaftMysql.Simulation.Nowhere
import RaftMysql.Main
import RaftMysql.Proofs.Program.Trace
import RaftMysql.Proofs.Cluster.History
import RaftMysql.Proofs.Health.Errors
import RaftMysql.Proofs.Topology.Freshness
import RaftMysql.Proofs.Topology.Acceptance
import RaftMysql.Proofs.Health.Retention
import RaftMysql.Proofs.Health.Handoff
import RaftMysql.Proofs.Health.Serial
import RaftMysql.Proofs.Topology.Interruption
import RaftMysql.Proofs.Topology.GivingBack
import RaftMysql.Proofs.Json.Overlay
import RaftMysql.Proofs.Object.Shapes
import RaftMysql.Proofs.Workload.Form
import RaftMysql.Proofs.Workload.Merging
import RaftMysql.Proofs.Topology.Leftovers
import RaftMysql.Proofs.Topology.Basis
import RaftMysql.Proofs.Topology.Gates
import RaftMysql.Proofs.Health.Headcount
import RaftMysql.Proofs.Health.Labelling
import RaftMysql.Proofs.Health.Agreement
import RaftMysql.Proofs.Health.Settling
import RaftMysql.Proofs.Json.InPlace
import RaftMysql.Proofs.Object.Heads
import RaftMysql.Proofs.Object.InPlace
import RaftMysql.Proofs.Topology.Idempotence
import RaftMysql.Proofs.Quantity.Order
import RaftMysql.Proofs.Workload.Selection
import RaftMysql.Proofs.Topology.Shrinking
import RaftMysql.Proofs.Topology.Alignment
import RaftMysql.Proofs.Program.Worlds
import RaftMysql.Proofs.Health.Isolation
import RaftMysql.Proofs.Member.Holds
import RaftMysql.Proofs.Health.Roster
import RaftMysql.Proofs.Program.Waits
import RaftMysql.Proofs.Topology.Resizing
import RaftMysql.Proofs.Topology.Transfer
import RaftMysql.Proofs.Json.Standing
import RaftMysql.Proofs.Json.Placing
import RaftMysql.Proofs.Workload.Exact
import RaftMysql.Proofs.Topology.Scaling
import RaftMysql.Proofs.Member.Reports
import RaftMysql.Proofs.Health.Following
import RaftMysql.Proofs.Health.Readiness
import RaftMysql.Proofs.Health.Since
import RaftMysql.Proofs.Program.Schedule
import RaftMysql.Proofs.Json.Written
import RaftMysql.Proofs.Cluster.Stored
import RaftMysql.Proofs.Topology.Numbering
import RaftMysql.Proofs.Program.Attempts
import RaftMysql.Proofs.Settings.Stored
import RaftMysql.Proofs.Quantity.Grammar
