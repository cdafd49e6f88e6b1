import PipelineConsole.Text.Alphabet
import PipelineConsole.Text.Blank
import PipelineConsole.Text.Case
import PipelineConsole.Text.Quoted
import PipelineConsole.Text.Utf8
import PipelineConsole.Number.Shortest
import PipelineConsole.Json.Printer
import PipelineConsole.Json.Numeral
import PipelineConsole.Json.Tree
import PipelineConsole.Time.Reader
import PipelineConsole.Json.Record
import PipelineConsole.Pipeline.Basic
import PipelineConsole.Pipeline.Lifecycle
import PipelineConsole.DeadLetter.Message
import PipelineConsole.Notification.Basic
import PipelineConsole.Connection.Params
import PipelineConsole.Expression.Request
import PipelineConsole.StatusStream.Event
import PipelineConsole.Table
import PipelineConsole.Expression.Filter
import PipelineConsole.Expression.Transform
import PipelineConsole.DeadLetter.Queue
import PipelineConsole.Demo
import PipelineConsole.Console.Settings
import PipelineConsole.Console.IdList
import PipelineConsole.StatusStream.Frame
import PipelineConsole.Sync.Cache
import PipelineConsole.Clock.Interval
import PipelineConsole.Sync.Manager
import PipelineConsole.StatusStream.Feed
import PipelineConsole.Scenario.Tracking
import PipelineConsole.Console.Termination
import PipelineConsole.Scenario.Feeding
import PipelineConsole.Time.Order
import PipelineConsole.Orchestrator.Basic
import PipelineConsole.Orchestrator.Fault
import PipelineConsole.Orchestrator.Transition
import PipelineConsole.Orchestrator.Pipelines
import PipelineConsole.Orchestrator.Notifications
import PipelineConsole.Backend.Operation
import PipelineConsole.Orchestrator.Perform
import PipelineConsole.Http.Message
import PipelineConsole.Http.Percent
import PipelineConsole.Http.Query
import PipelineConsole.Http.MediaType
import PipelineConsole.Http.Extract
import PipelineConsole.Http.Route
import PipelineConsole.Http.Target
import PipelineConsole.Backend.Kind
import PipelineConsole.Backend.Answer
import PipelineConsole.Orchestrator.Routes
import PipelineConsole.Backend.Basic
import PipelineConsole.Connection.Probe
import PipelineConsole.Console.Routes
import PipelineConsole.Scenario.Surroundings
import PipelineConsole.Scenario.Session
import PipelineConsole.Clock.Occasion
import PipelineConsole.Url.Domain.Name
import PipelineConsole.Url.Host
import PipelineConsole.Url.Basic
import PipelineConsole.Url.Reader
import PipelineConsole.Http.Exchange
import PipelineConsole.Backend.Remote
import PipelineConsole.Connection.ClickHouse
import PipelineConsole.Connection.Kafka
import PipelineConsole.Connection.Live
import PipelineConsole.Console.Remote
import PipelineConsole.Sync.HttpSource
import PipelineConsole.Orchestrator.Network
import PipelineConsole.Proofs.Orchestrator.Run
import PipelineConsole.Proofs.Orchestrator.Lifecycle
import PipelineConsole.Proofs.Orchestrator.Service
import PipelineConsole.Proofs.Orchestrator.Quota
import PipelineConsole.Proofs.Orchestrator.Waiting
import PipelineConsole.Proofs.Sync.Reports
import PipelineConsole.Proofs.Sync.Run
import PipelineConsole.Proofs.Sync.Confirmation
import PipelineConsole.Proofs.Text.Utf8
import PipelineConsole.Proofs.Time.Reader
import PipelineConsole.Proofs.Json.Written
import PipelineConsole.Proofs.Json.Tree
import PipelineConsole.Proofs.Json.Printer
import PipelineConsole.Proofs.Json.Codec
import PipelineConsole.Proofs.StatusStream.Wire
import PipelineConsole.Proofs.Console.IdList
import PipelineConsole.Proofs.StatusStream.Rounds
import PipelineConsole.Proofs.Sync.Transports
import PipelineConsole.Proofs.Orchestrator.Chronicle
import PipelineConsole.Proofs.Orchestrator.Spacing
import PipelineConsole.Proofs.Orchestrator.StaleTimers
import PipelineConsole.Proofs.Sync.Delivery
import PipelineConsole.Proofs.Sync.Recovery
import PipelineConsole.Proofs.Sync.Unwatched
import PipelineConsole.Proofs.Sync.Leftovers
import PipelineConsole.Proofs.Console.Refusals
import PipelineConsole.Proofs.Json.Kept
import PipelineConsole.Proofs.Console.Transparency
import PipelineConsole.Proofs.DeadLetter.Queue
import PipelineConsole.Proofs.Orchestrator.DeadLetters
import PipelineConsole.Proofs.Console.DeadLetters
import PipelineConsole.Proofs.StatusStream.Delivery
import PipelineConsole.Proofs.Url.Reader
import PipelineConsole.Proofs.Url.Addressing
import PipelineConsole.Proofs.Documents
import PipelineConsole.Proofs.Sync.StreamRequests
import PipelineConsole.Proofs.Backend.Exchanges
import PipelineConsole.Proofs.Console.InUse
import PipelineConsole.Proofs.Console.Authorization
import PipelineConsole.Proofs.Console.InternalErrors
import PipelineConsole.Proofs.Json.Objects
import PipelineConsole.Proofs.Backend.Messages
import PipelineConsole.Proofs.Sync.Calls
import PipelineConsole.Proofs.Sync.History
import PipelineConsole.Proofs.Sync.Expiry
import PipelineConsole.Proofs.Sync.Scripted
import PipelineConsole.Proofs.Sync.Notices
import PipelineConsole.Proofs.Sync.Overtaking
import PipelineConsole.Proofs.Orchestrator.Commuting
import PipelineConsole.Proofs.Orchestrator.Sections
import PipelineConsole.Proofs.Orchestrator.WellFormed
import PipelineConsole.Proofs.Sync.Membership
import PipelineConsole.Proofs.Sync.IdSet
import PipelineConsole.Proofs.Sync.Course
import PipelineConsole.Proofs.Sync.Fallback
import PipelineConsole.Proofs.Sync.Turns
import PipelineConsole.Proofs.Sync.Budget
import PipelineConsole.Proofs.Sync.Changes
import PipelineConsole.Proofs.StatusStream.Deltas
import PipelineConsole.Proofs.Text.Trimming
import PipelineConsole.Proofs.Text.Faults
import PipelineConsole.Proofs.StatusStream.Chunks
import PipelineConsole.Proofs.StatusStream.Format
import PipelineConsole.Proofs.Backend.Termination
import PipelineConsole.Proofs.Orchestrator.Announcements
import PipelineConsole.Proofs.Orchestrator.Inbox
import PipelineConsole.Proofs.Text.Alphabet
import PipelineConsole.Proofs.Expression.Brackets
import PipelineConsole.Proofs.Expression.Filter
import PipelineConsole.Proofs.Expression.Reading
import PipelineConsole.Proofs.Expression.Paths
import PipelineConsole.Proofs.Expression.Literals
import PipelineConsole.Proofs.Expression.Projections
import PipelineConsole.Proofs.Connection.Quoting
import PipelineConsole.Proofs.Console.NormalForm
