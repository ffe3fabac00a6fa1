import AiriesUps.Lib.Runs
import AiriesUps.Lib.Tables
import AiriesUps.Lib.RingQueue
import AiriesUps.Lib.RingLog
import AiriesUps.Lib.Aligned
import AiriesUps.Lib.Alternation
import AiriesUps.Lib.PackedBits
import AiriesUps.Lib.Sequences
import AiriesUps.Lib.Custody
import AiriesUps.Lib.Decimal
import AiriesUps.Lib.CString
import AiriesUps.Lib.CBuffer
import AiriesUps.Lib.Hex
import AiriesUps.Lib.ShellWords
import AiriesUps.Lib.Calendar
import AiriesUps.Lib.Nesting
import AiriesUps.Lib.Layout
import AiriesUps.Lib.EventStream
import AiriesUps.Lib.SetCookie
import AiriesUps.Lib.Interleaving
import AiriesUps.Lib.GrowBuffer
import AiriesUps.Lib.Paths
import AiriesUps.Lib.Holdings
import AiriesUps.Lib.WordStore
import AiriesUps.Lib.Patches
import AiriesUps.Ups.Data
import AiriesUps.Ups.Registry
import AiriesUps.Ups.TransportSafety
import AiriesUps.Ups.Descriptors
import AiriesUps.Ups.DescriptorLifetime
import AiriesUps.Ups.Handle
import AiriesUps.Ups.HandleSteps
import AiriesUps.Ups.HandleCustody
import AiriesUps.Ups.Recovery
import AiriesUps.Ups.RegPointers
import AiriesUps.Ups.ResolvedRegs
import AiriesUps.Ups.WriteGate
import AiriesUps.Ups.Capabilities
import AiriesUps.Ups.StatusString
import AiriesUps.Ups.StringBlock
import AiriesUps.Ups.SrtInventory
import AiriesUps.Ups.Pacing
import AiriesUps.Ups.ModbusRegs
import AiriesUps.Ups.ModbusConfig
import AiriesUps.Hid.Parser
import AiriesUps.Hid.Items
import AiriesUps.Hid.Offsets
import AiriesUps.Hid.Nesting
import AiriesUps.Hid.Lookup
import AiriesUps.Hid.FieldRead
import AiriesUps.Hid.FastPaths
import AiriesUps.Hid.ParserMemory
import AiriesUps.Hid.ParserBounds
import AiriesUps.Hid.Registers
import AiriesUps.Hid.Status
import AiriesUps.Hid.ConfigTable
import AiriesUps.Hid.ConfigWrite
import AiriesUps.Hid.AccessBounds
import AiriesUps.Hid.UsbDate
import AiriesUps.Hid.WriteExact
import AiriesUps.Shutdown.Trigger
import AiriesUps.Shutdown.Arming
import AiriesUps.Shutdown.SourceConditions
import AiriesUps.Shutdown.Result
import AiriesUps.Shutdown.Async
import AiriesUps.Shutdown.WorkerCustody
import AiriesUps.Shutdown.Slot
import AiriesUps.Shutdown.Status
import AiriesUps.Shutdown.Latch
import AiriesUps.Shutdown.Target
import AiriesUps.Shutdown.Group
import AiriesUps.Shutdown.GroupExecution
import AiriesUps.Shutdown.GroupRows
import AiriesUps.Shutdown.GroupOrphans
import AiriesUps.Shutdown.Ceiling
import AiriesUps.Shutdown.Workflow
import AiriesUps.Shutdown.WorkflowRows
import AiriesUps.Shutdown.WorkflowOrder
import AiriesUps.Shutdown.WorkflowSummary
import AiriesUps.Shutdown.DryRun
import AiriesUps.Shutdown.CommandLine
import AiriesUps.Shutdown.SshClient
import AiriesUps.Shutdown.Rehearsal
import AiriesUps.Shutdown.Plan
import AiriesUps.Shutdown.PlanSecrecy
import AiriesUps.Shutdown.PlanFollowed
import AiriesUps.Shutdown.ChildLives
import AiriesUps.Shutdown.KeyFiles
import AiriesUps.Api.Sse
import AiriesUps.Api.Replay
import AiriesUps.Api.QueueFrames
import AiriesUps.Api.Slots
import AiriesUps.Api.SlotAccounting
import AiriesUps.Api.BrowserEvents
import AiriesUps.Api.EventsPage
import AiriesUps.Api.Auth
import AiriesUps.Api.Password
import AiriesUps.Api.Sessions
import AiriesUps.Api.Server
import AiriesUps.Api.RequestBody
import AiriesUps.Api.StaticFiles
import AiriesUps.Api.Setup
import AiriesUps.Api.Cookie
import AiriesUps.Api.BrowserSession
import AiriesUps.Api.AuthRoutes
import AiriesUps.Api.AuthCustody
import AiriesUps.Api.ConfigAudit
import AiriesUps.Api.RegJson
import AiriesUps.Monitor.XferRing
import AiriesUps.Monitor.Events
import AiriesUps.Monitor.FastLoop
import AiriesUps.Monitor.XferHistory
import AiriesUps.Monitor.RecentCause
import AiriesUps.Monitor.SlowLoop
import AiriesUps.Monitor.PowerEvents
import AiriesUps.Monitor.FaultEvents
import AiriesUps.Monitor.ShutdownEvent
import AiriesUps.Monitor.EventPairs
import AiriesUps.Monitor.Initialised
import AiriesUps.Monitor.SelfTest
import AiriesUps.Monitor.SnapshotSaves
import AiriesUps.Monitor.StatusSnapshot
import AiriesUps.Monitor.HeReengage
import AiriesUps.Alerts.Engine
import AiriesUps.Alerts.Restart
import AiriesUps.Alerts.Latches
import AiriesUps.Alerts.Settling
import AiriesUps.Alerts.ErrorNames
import AiriesUps.Alerts.Thresholds
import AiriesUps.Daemon.Teardown
import AiriesUps.Daemon.TeardownJoins
import AiriesUps.Daemon.TeardownSafety
import AiriesUps.Cli.Invocation
import AiriesUps.Weather.Assess
import AiriesUps.Weather.Fetch
import AiriesUps.Weather.Control
import AiriesUps.Weather.Restore
import AiriesUps.Weather.Outage
import AiriesUps.Weather.Threads
import AiriesUps.Weather.OriginalValue
import AiriesUps.Weather.Severity
import AiriesUps.Weather.Reasons
