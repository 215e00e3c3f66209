import Sentry.Support.Dict
import Sentry.Support.Decimal
import Sentry.Support.Coroutine
import Sentry.Support.Tasks
import Sentry.Domain.Models
import Sentry.Ledger.FillModels
import Sentry.Ledger.ShadowLedger
import Sentry.Ledger.Positions
import Sentry.Ledger.Fills
import Sentry.Ledger.Quotes
import Sentry.Ledger.Expiry
import Sentry.Ledger.Solvency
import Sentry.Safety.RuntimeState
import Sentry.Ledger.Snapshot
import Sentry.Broker.LocalBrokers
import Sentry.Broker.RoundTrip
import Sentry.Risk.Engine
import Sentry.Execution.Operations
import Sentry.Execution.Service
import Sentry.Execution.Store
import Sentry.Execution.Placement
import Sentry.Execution.Calls
import Sentry.Execution.Guarantees
import Sentry.Execution.PostgresStore
import Sentry.Broker.RobinhoodMcp
import Sentry.Execution.LiveWrites
import Sentry.Ledger.Exposure
import Sentry.Support.Locked
import Sentry.Execution.RiskCaps
import Sentry.Broker.Persistence
import Sentry.Support.Concurrent
import Sentry.Broker.AdapterWrites
import Sentry.Broker.ReadOnly
import Sentry.Execution.ImmutableJournal
import Sentry.Market.Models
import Sentry.Market.Replay
import Sentry.Market.Snapshots
import Sentry.Sentinel.Offline
import Sentry.Sentinel.Cursor
import Sentry.Sentinel.Feeding
import Sentry.Sentinel.Replayable
import Sentry.Execution.InterruptedWrites
import Sentry.Support.Interleaving
import Sentry.Api.Proposals
import Sentry.Api.Rejections
import Sentry.Federal.Registry
import Sentry.Federal.Revisions
import Sentry.Learning.Outcomes
import Sentry.Ledger.Trades
import Sentry.Learning.Agreement
import Sentry.Demo.Journal
import Sentry.Demo.Trading
import Sentry.Learning.HealthyJournals
import Sentry.Sentinel.EventLog
import Sentry.Sentinel.LiveReads
import Sentry.Sentinel.Outbox
import Sentry.Catalysts.Ingestion
import Sentry.Controller.TimeoutLatch
import Sentry.Ledger.Changes
import Sentry.Ledger.OrderBook
import Sentry.Ledger.Lifecycle
import Sentry.Ledger.Bookkeeping
import Sentry.Ledger.Executions
import Sentry.Ledger.Refusals
import Sentry.Ledger.Settlements
import Sentry.Broker.Isolation
import Sentry.Broker.Schema
import Sentry.Broker.Capabilities
import Sentry.Broker.Acknowledgements
import Sentry.Execution.Resolution
import Sentry.Execution.EqualProposals
import Sentry.Execution.Denials
import Sentry.Execution.BrokerUpdates
import Sentry.Demo.Synchronisation
import Sentry.Positions.Exits
import Sentry.Support.Rounding
import Sentry.Support.Ranking
import Sentry.Options.Calculations
import Sentry.Options.Selector
import Sentry.Options.Selection
import Sentry.Options.Scores
import Sentry.Options.RiskAgreement
import Sentry.Execution.Scans
import Sentry.Execution.ReferenceStore
import Sentry.Execution.Transitions
import Sentry.Execution.LatestOrders
import Sentry.Clock.MarketCalendar
import Sentry.Positions.ExitDecisions
import Sentry.Qualification.Completion
import Sentry.Strategy.ScoringLaws
import Sentry.Support.Tree
import Sentry.Domain.Values
import Sentry.Support.Regex
import Sentry.Learning.Review
import Sentry.Observability.Redaction
import Sentry.Replay.Causality
import Sentry.Qualification.Counterfactuals
import Sentry.Qualification.Audit
import Sentry.Qualification.Soundness
import Sentry.Support.Keyset
import Sentry.Federal.Snapshots
import Sentry.Federal.Pages
import Sentry.Federal.PointInTime
import Sentry.Support.Components
import Sentry.Broker.ShadowRuntime
import Sentry.Qualification.Traceability
import Sentry.Sentinel.Deduplication
import Sentry.Catalysts.Collector
import Sentry.Strategy.CanonicalPackets
import Sentry.Learning.AppendOnly
import Sentry.Strategy.ResearchQueue
