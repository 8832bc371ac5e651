import AgentFacts.Checks
import AgentFacts.Cluster
import AgentFacts.Host
import AgentFacts.Json.Printer
import AgentFacts.Ledger
import AgentFacts.SlesSubscription
import AgentFacts.Time.Span
import AgentFacts.Json.Reader
import AgentFacts.Table
import AgentFacts.Database.Error
import AgentFacts.EventLog.Error
import AgentFacts.ProjectionError
import AgentFacts.Retry
import AgentFacts.Settings
import AgentFacts.ReadModels.Basic
import AgentFacts.EventLog.Basic
import AgentFacts.ReadModels.Store
import AgentFacts.Journal
import AgentFacts.Program
import AgentFacts.Dispatch
import AgentFacts.Projector.Scripted
import AgentFacts.Collector
import AgentFacts.Replay
import AgentFacts.Pipeline.Faults
import AgentFacts.Pipeline.Ingress
import AgentFacts.Pipeline.World
import AgentFacts.Pipeline.Pool
import AgentFacts.Pipeline.Schedule
import AgentFacts.Json.Shape
import AgentFacts.Server.CollectRequest
import AgentFacts.Server.PathText
import AgentFacts.Server.Routes
import AgentFacts.Database.Row
import AgentFacts.Database.EnvelopeSelect
import AgentFacts.Database.Insertion
import AgentFacts.Database.Statement
import AgentFacts.Database.EnvelopeStream
import AgentFacts.Database.EventLog
import AgentFacts.Database.Migrations
import AgentFacts.Database.ReadModels
import AgentFacts.Database.Service
import AgentFacts.Proofs.AllOrNothing
import AgentFacts.Proofs.CommitOrder
import AgentFacts.Proofs.FailureRows
import AgentFacts.Proofs.Recovery
import AgentFacts.Proofs.Schedules
import AgentFacts.Proofs.AppliedReports
import AgentFacts.Proofs.Handled
import AgentFacts.Proofs.HostLifetimes
import AgentFacts.Proofs.ReferenceModels
import AgentFacts.Proofs.ReplayAgain
import AgentFacts.Proofs.Serializable
import AgentFacts.Proofs.PoolAccounts
import AgentFacts.Proofs.Durability
import AgentFacts.Proofs.CommitComplete
import AgentFacts.Proofs.ValidRows
import AgentFacts.Proofs.NamedEffects
import AgentFacts.Proofs.TableOrder
import AgentFacts.Proofs.HostPresence
import AgentFacts.Proofs.LogPages
import AgentFacts.Proofs.StreamPages
import AgentFacts.Proofs.SelectMeaning
import AgentFacts.Proofs.LedgerSummary
import AgentFacts.Proofs.ReportedSets
import AgentFacts.Proofs.StoredRows
import AgentFacts.Proofs.Bystanders
import AgentFacts.Proofs.ReplaySuffix
import AgentFacts.Proofs.RetryCourse
import AgentFacts.Proofs.WorstResult
import AgentFacts.Proofs.ByteOrder
import AgentFacts.Proofs.Registrations
import AgentFacts.Proofs.StableFormats
