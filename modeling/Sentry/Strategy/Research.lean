import Sentry.Sentinel.LiveReads

/-!
# Research on events

`on_event` of `CandidateResearchWorker` of `app/strategy/runtime.py`: one attempt at each event,
between two rows of `candidate_runs`. The attempt itself is a call that may give any proposal, take
any time and fail in any way; it writes no row under the key of an event.
-/
namespace Sentry

open Support Coroutine

/-! ### Rows -/

inductive RunStatus where
  | started | proposed | wait
  deriving DecidableEq

/-- A row of `candidate_runs` under the key of an event. -/
structure CandidateRun where
  createdAt : Time
  runId : UUID
  sourceEventId : String
  dataMode : String
  eventKey : String
  eventHash : String
  status : RunStatus
  reason : String
  proposal : Option TradeProposal
  deriving DecidableEq

/-- A row of `system_runs` under the key of a queue (`_Cursor`). -/
structure ResearchCursor where
  createdAt : Time
  environment : String := "DEMO"
  namespace_ : String
  marketResearchQueueKey : String
  provider : String
  capabilityVersion : String
  eventSequence : ℕ
  eventId : UUID
  eventHash : String
  deriving DecidableEq

structure ResearchStore where
  sentinelEvents : List (AuditRow (Stored Payload))
  snapshots : SnapshotTable → List (AuditRow (Stored Observation))
  candidateRuns : List (AuditRow (Stored CandidateRun))
  systemRuns : List (AuditRow (Stored ResearchCursor))
  market : MarketDataState
  now : Time
  /-- The deadline of a tick has passed. -/
  expired : Bool := false
  /-- The identifier that would be drawn next. -/
  draw : UUID
  /-- The events `_process` was called with; nothing reads them. -/
  processed : List SentinelEvent := []

inductive ResearchOp where
  | findRun (eventKey : String)
  | appendRun (run : CandidateRun)
  | process (event : SentinelEvent)
  | findCursor
  | appendCursor (cursor : ResearchCursor)
  | listEvents
  | findEvent (eventId : String)
  | findObservation (table : SnapshotTable) (key : String)

abbrev ResearchAns : ResearchOp → Type
  | .findRun _ => Option (AuditRow (Stored CandidateRun))
  | .appendRun _ => Unit
  | .process _ => Option TradeProposal × String
  | .findCursor => Option (AuditRow (Stored ResearchCursor))
  | .appendCursor _ => Unit
  | .listEvents => List (AuditRow (Stored Payload))
  | .findEvent _ => Option (AuditRow (Stored Payload))
  | .findObservation _ _ => Option (AuditRow (Stored Observation))

abbrev ResearchProgram (α : Type) := Coroutine ResearchStore Exc ResearchAns α

namespace ResearchStore

def request (op : ResearchOp) : ResearchProgram (ResearchAns op) := call op

end ResearchStore

/-! ### The worker -/

/-- What an attempt is recorded with. -/
structure CandidateResearchWorker where
  hashing : Hashing
  isoformat : Time → String
  binding : RepositoryBinding
  runId : Option UUID := none

namespace CandidateResearchWorker

open ResearchStore

variable (worker : CandidateResearchWorker)

def eventKey (event : SentinelEvent) : String :=
  worker.binding.idempotencyNamespace ++ ":" ++ event.eventId.str

def eventHash (event : SentinelEvent) : String :=
  worker.hashing.sha256Json (.obj (event.dump worker.isoformat))

/-- A row as `_write` makes it of what `_outcome` says. -/
def run (event : SentinelEvent) (status : RunStatus) (reason : String)
    (proposal : Option TradeProposal) (now : Time) (market : MarketDataState) : CandidateRun where
  createdAt := now
  runId := worker.runId.getD
    (worker.hashing.uuid5 NAMESPACE_URL ("candidate:" ++ event.eventId.str))
  sourceEventId := event.eventId.str
  dataMode := if market.capabilities.replay then "REPLAY" else "PROVIDER_DATA"
  eventKey := worker.eventKey event
  eventHash := worker.eventHash event
  status
  reason
  proposal

/-- `_outcome`. -/
def outcome (event : SentinelEvent) (status : RunStatus) (reason : String)
    (proposal : Option TradeProposal) : ResearchProgram Unit := do
  let now ← peek ResearchStore.now
  let market ← peek ResearchStore.market
  request (.appendRun (worker.run event status reason proposal now market))

/-- An attempt: what it gives, or why it gave nothing. -/
def attempted (event : SentinelEvent) : ResearchProgram (Option TradeProposal × String) := do
  change fun g => { g with processed := g.processed ++ [event] }
  attempt (request (.process event)) fun e =>
    if e = .timeout then pure (none, "research_timeout")
    else if e.isException then pure (none, "research_failed:" ++ e.typeName)
    else raise e

def onEvent (event : SentinelEvent) : ResearchProgram (Option TradeProposal) := do
  match ← request (.findRun (worker.eventKey event)) with
  | some existing =>
    let known := existing.payload.payload
    raiseIf (decide (known.eventHash ≠ worker.eventHash event))
      (.safetyCritical "candidate event identity has conflicting content")
    -- an attempt that was interrupted is closed, not made again
    if known.status = .started then do
      worker.outcome event .wait "interrupted_prior_attempt" none
      pure known.proposal
    else pure known.proposal
  | none => do
    -- recorded before the attempt, so that a crash leaves a trace of it
    worker.outcome event .started "research_attempt_started" none
    let (proposal, reason) ← attempted event
    worker.outcome event (if proposal.isSome then .proposed else .wait) reason proposal
    pure proposal

/-- The rows under a key that the bound repository sees. -/
def keepsUnder (eventKey : String) (row : Stored CandidateRun) : Bool :=
  worker.binding.owns row && row.payload.eventKey == eventKey

end CandidateResearchWorker
end Sentry
