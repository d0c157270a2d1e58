import SqlGateway.Library.BreadthFirst
import SqlGateway.Library.JsonLaws
import SqlGateway.Postgres.QueryExecutor
import SqlGateway.Http.Gateway
import SqlGateway.Postgres.AccessGuard
import SqlGateway.Http.Observability
import SqlGateway.Core
import SqlGateway.Sql.Expression
import SqlGateway.Sql.QueryValidator
import SqlGateway.Postgres.Redaction
import SqlGateway.Postgres.ErrorLeaksLaws
import SqlGateway.Postgres.StructuralSoundness
import SqlGateway.Sql.Assignment
import SqlGateway.Http.Display
import SqlGateway.Http.Agreement
import SqlGateway.Library.Transition
import SqlGateway.Observability.InMemoryRecorder
import SqlGateway.Observability.Delivery
import SqlGateway.Observability.Order
import SqlGateway.Postgres.RuleOrder
import SqlGateway.Sql.RegistryHistory
import SqlGateway.Sql.Writes
import SqlGateway.Observability.Sinks
import SqlGateway.Observability.FanOut
import SqlGateway.Library.Replay
import SqlGateway.Http.LivePageOrder
import SqlGateway.Postgres.AuditLines
import SqlGateway.Library.Triple
import SqlGateway.Library.Transaction
import SqlGateway.Postgres.Atomicity
import SqlGateway.Postgres.EmptyStatements
import SqlGateway.Postgres.AuditEntry
import SqlGateway.Library.Escaping
import SqlGateway.Library.Markup
import SqlGateway.Http.CardLaws
import SqlGateway.Http.LivePageLaws
import SqlGateway.Library.JsonReader
import SqlGateway.Library.JsonReaderLaws
import SqlGateway.Library.Lines
import SqlGateway.Observability.AuditFile
import SqlGateway.Library.EventSource
import SqlGateway.Http.EventStream
import SqlGateway.Library.Program
import SqlGateway.Library.Interleaving
import SqlGateway.Postgres.RequestProgram
import SqlGateway.Postgres.ConcurrentRequests
import SqlGateway.Http.FilteredPage
import SqlGateway.Postgres.Permissions
import SqlGateway.Http.ObservedRequests
import SqlGateway.Library.RegexLanguage
import SqlGateway.Sql.SensitiveNames
import SqlGateway.Http.Draining
import SqlGateway.Http.CaughtUpPage
import SqlGateway.Postgres.Ping
import SqlGateway.Http.Service
import SqlGateway.Observability.Warnings
import SqlGateway.Http.RawResponse
import SqlGateway.Postgres.AuditedRequests
