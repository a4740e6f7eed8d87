import NetLatencyMonitor.Agent.Client
import NetLatencyMonitor.Agent.Config
import NetLatencyMonitor.Agent.Payload
import NetLatencyMonitor.Agent.Refresh
import NetLatencyMonitor.Agent.Spoke
import NetLatencyMonitor.Agent.SpoolConfig
import NetLatencyMonitor.Agent.TargetCache
import NetLatencyMonitor.Agent.TargetList
import NetLatencyMonitor.Calendar.Civil
import NetLatencyMonitor.Calendar.Layout
import NetLatencyMonitor.Chrony.Tracking
import NetLatencyMonitor.Clock
import NetLatencyMonitor.Controller.Admin
import NetLatencyMonitor.Controller.Auth
import NetLatencyMonitor.Controller.Config
import NetLatencyMonitor.Controller.Dashboard
import NetLatencyMonitor.Controller.Deletion
import NetLatencyMonitor.Controller.DropsDelta
import NetLatencyMonitor.Controller.DropsMetric
import NetLatencyMonitor.Controller.FeedClients
import NetLatencyMonitor.Controller.FeedLedger
import NetLatencyMonitor.Controller.Gate
import NetLatencyMonitor.Controller.Idempotence
import NetLatencyMonitor.Controller.Keepalive
import NetLatencyMonitor.Controller.LiveFeed
import NetLatencyMonitor.Controller.LivePage
import NetLatencyMonitor.Controller.Matrix
import NetLatencyMonitor.Controller.MatrixText
import NetLatencyMonitor.Controller.Nodes
import NetLatencyMonitor.Controller.Parity
import NetLatencyMonitor.Controller.Persist
import NetLatencyMonitor.Controller.Readiness
import NetLatencyMonitor.Controller.RemoteLimit
import NetLatencyMonitor.Controller.Results
import NetLatencyMonitor.Controller.Schema
import NetLatencyMonitor.Controller.Serializable
import NetLatencyMonitor.Controller.Session
import NetLatencyMonitor.Controller.SpoolSnapshot
import NetLatencyMonitor.Controller.StoreCalls
import NetLatencyMonitor.Controller.Targets
import NetLatencyMonitor.Controller.TargetsVersion
import NetLatencyMonitor.Controller.TicketPruner
import NetLatencyMonitor.Controller.Transaction
import NetLatencyMonitor.Controller.WebSocket
import NetLatencyMonitor.Http.Cookie
import NetLatencyMonitor.Http.RemoteAddr
import NetLatencyMonitor.Http.Request
import NetLatencyMonitor.Keyed.GroupBy
import NetLatencyMonitor.Keyed.OrderBy
import NetLatencyMonitor.Keyed.Table
import NetLatencyMonitor.Litestream.Coverage
import NetLatencyMonitor.Litestream.Watcher
import NetLatencyMonitor.Machine.BatchQueue
import NetLatencyMonitor.Machine.Cells
import NetLatencyMonitor.Machine.Channel
import NetLatencyMonitor.Machine.Execution
import NetLatencyMonitor.Machine.History
import NetLatencyMonitor.Machine.Loop
import NetLatencyMonitor.Machine.Mailbox
import NetLatencyMonitor.Machine.Serial
import NetLatencyMonitor.Machine.Simulation
import NetLatencyMonitor.Machine.Slots
import NetLatencyMonitor.Machine.Ticker
import NetLatencyMonitor.Machine.Unwinding
import NetLatencyMonitor.Machine.VersionedCopy
import NetLatencyMonitor.Spool.Accounting
import NetLatencyMonitor.Spool.Backoff
import NetLatencyMonitor.Spool.CallRun
import NetLatencyMonitor.Spool.Drain
import NetLatencyMonitor.Spool.DrainRun
import NetLatencyMonitor.Spool.Fifo
import NetLatencyMonitor.Spool.InHand
import NetLatencyMonitor.Spool.Retention
import NetLatencyMonitor.Spool.Schema
import NetLatencyMonitor.Spool.Spacing
import NetLatencyMonitor.Spool.TextColumns
import NetLatencyMonitor.System.CatchUp
import NetLatencyMonitor.System.CycleDrain
import NetLatencyMonitor.System.Delivery
import NetLatencyMonitor.System.DeliveryInvariant
import NetLatencyMonitor.System.DeliveryRefinement
import NetLatencyMonitor.System.ExactlyOnce
import NetLatencyMonitor.System.HubDaemon
import NetLatencyMonitor.System.PayloadContract
import NetLatencyMonitor.System.Provisioning
import NetLatencyMonitor.System.TargetsCoherence
import NetLatencyMonitor.Text.Digits
import NetLatencyMonitor.Text.Encoding
import NetLatencyMonitor.Text.Float
import NetLatencyMonitor.Text.GoString
import NetLatencyMonitor.Text.Number
import NetLatencyMonitor.Text.Rounding
import NetLatencyMonitor.Text.Split
import NetLatencyMonitor.Text.Strip
import NetLatencyMonitor.Text.Trim
import NetLatencyMonitor.Text.Utf8
import NetLatencyMonitor.Tickets.BlockCause
import NetLatencyMonitor.Tickets.LimiterRuns
import NetLatencyMonitor.Tickets.RateLimiter
import NetLatencyMonitor.Tickets.RollingWindow
import NetLatencyMonitor.Tickets.Store
import NetLatencyMonitor.Tickets.Throughput
