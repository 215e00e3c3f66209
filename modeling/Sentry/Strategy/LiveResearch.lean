import Sentry.Strategy.Research

/-!
# The market research queue

`LiveMarketResearchQueue` of `app/strategy/live_research.py`: a tick takes the oldest market event
after the last checkpoint, checks it against the observation it was made of, hands it to the
researcher, and appends a checkpoint once the outcome is stored. The scan is newest first and
bounded.

Every call may fail, and a failed write may have been committed. A deadline that passes cancels the
call that is awaited.
-/
namespace Sentry

open Support Coroutine

/-- Whether a value can be looked up in a set. -/
def Json.hashable : Json → Bool
  | .arr _ | .obj _ => false
  | _ => true

/-- `re.fullmatch(r"[A-Z0-9][A-Z0-9.-]{0,11}", ticker)`. -/
def tickerShape (ticker : String) : Bool :=
  match ticker.toList with
  | [] => false
  | first :: rest => (first.isUpper || first.isDigit) && decide (rest.length ≤ 11) &&
    rest.all fun c => c.isUpper || c.isDigit || c == '.' || c == '-'

/-- 64 lower-case hexadecimal digits. -/
def hexDigest (chars : List Char) : Bool :=
  chars.length == 64 && chars.all fun c => c.isDigit || decide ('a' ≤ c ∧ c ≤ 'f')

/-- `re.fullmatch` of the key of an observation's event, with its groups. -/
def observationIdentity (deduplicationKey : String) : Option (String × String) :=
  let chars := deduplicationKey.toList
  let surveillance := (chars.drop 10).take 64
  let content := (chars.drop 75).take 64
  if chars = "live-read:".toList ++ surveillance ++ ':' :: content ++ ":event".toList ∧
      hexDigest surveillance ∧ hexDigest content then
    some (String.ofList surveillance, String.ofList content)
  else none

/-- The constructor's arguments and what the provider said of itself. What the constructor checks
of bindings and bounds cannot change afterwards. -/
structure LiveMarketResearchQueue where
  researcher : CandidateResearchWorker
  py : MarketRuntime
  isSpace : Char → Bool
  /-- `UUID(text)` accepts the text. -/
  isUuid : String → Bool
  /-- `quote.model_dump(mode="json", exclude={"snapshot_id"})`. -/
  content : Quote → Json
  identity : String
  capabilityVersion : String
  maximumRecords : ℕ
  maximumRecords_pos : 0 < maximumRecords
  maximumRecords_le : maximumRecords ≤ 1000
  demo : researcher.binding.environment = .demo
  shadow : researcher.binding.demoBackend = some .brokerShadow
  noWrites : researcher.binding.externalWriteAuthority = false
  named : researcher.binding.idempotencyNamespace ≠ ""

namespace LiveMarketResearchQueue

open ResearchStore

variable (queue : LiveMarketResearchQueue)

def version : String := "live-market-research-queue-v1"

/-- `_EVENT_TYPES`. -/
def eventTypes : List String := ["MARKET_BASELINE", "MARKET_MEASURED_CHANGE"]

abbrev binding : RepositoryBinding := queue.researcher.binding

abbrev hashing : Hashing := queue.researcher.hashing

/-- `_key`. -/
def key : String :=
  queue.hashing.sha256Json (.obj
    [("version", .str version),
      ("environment", .str queue.binding.environment.value),
      ("namespace", .str queue.binding.idempotencyNamespace),
      ("provider", .str queue.identity),
      ("capability_version", .str queue.capabilityVersion)])

/-! ### Checks -/

def guardFailure (market : MarketDataState) : Option Exc :=
  if queue.identity.toList.all queue.isSpace ∨ queue.capabilityVersion.toList.all queue.isSpace ∨
      market.identity ≠ queue.identity ∨ market.capabilityVersion ≠ queue.capabilityVersion ∨
      market.capabilities.replay ∨ !market.capabilities.equityQuotes ∨
      !market.capabilities.optionChains then
    some (.safetyCritical "market research provider identity/capabilities changed")
  else none

/-- `_guard`. -/
def guard : ResearchProgram Unit := do
  let market ← peek ResearchStore.market
  match queue.guardFailure market with
  | some e => raise e
  | none => pure ()

/-- `_payload` of a row of an environment table. -/
def payloadFailure (row : Stored Payload) : Option Exc :=
  if !queue.binding.owns row then
    some (.safetyCritical "market research read crossed its environment/namespace binding")
  else if !row.payload.has "environment" queue.binding.environment.value ||
      !row.payload.has "namespace" queue.binding.idempotencyNamespace then
    some (.safetyCritical "market research payload crossed its environment/namespace binding")
  else none

/-- Whether an event is one of the surveillance of this provider, up to the kind of its quote. -/
def ofProvider (event : SentinelEvent) : Bool :=
  eventTypes.contains event.eventType && event.source == queue.identity &&
    event.payload.has "provider" queue.identity &&
    event.payload.has "capability_version" queue.capabilityVersion &&
    event.payload.has "worker_version" LiveReadSurveillanceWorker.version &&
    event.payload.has "data_mode" "LIVE_READ"

/-- The other fields of an event that are tied to each other. -/
def coherent (event : SentinelEvent) (createdAt : Time) : Bool :=
  let baseline := event.eventType == "MARKET_BASELINE"
  (event.payload.has "quote_kind" "equity" || event.payload.has "quote_kind" "option") &&
    event.payload.get? "baseline" == some (.bool baseline) &&
    event.severity == (if baseline then 0 else 1) &&
    (match event.payload.get? "changes" with
      | some (.obj changes) => changes.isEmpty == baseline
      | _ => false) &&
    event.tickers.length == 1 && event.tickers.all tickerShape &&
    event.rawReferenceIds.length == (if baseline then 1 else 2) &&
    decide event.rawReferenceIds.Nodup && decide (event.effectiveAt ≤ event.createdAt) &&
    event.createdAt == createdAt

/-- The fields of the event in a row. -/
def eventFields (row : Stored Payload) : Payload :=
  row.payload.filter fun entry => entry.1 != "environment" && entry.1 != "namespace"

/-- `_event`, with what validation draws. -/
def readEvent (draw : UUID) (row : Stored Payload) : Except Exc SentinelEvent :=
  match queue.payloadFailure row with
  | some e => .error e
  | none =>
    match SentinelEvent.modelValidate queue.py draw (eventFields row) with
    | none => .error (.unlisted "ValidationError")
    | some event =>
      if !queue.ofProvider event then
        .error (.dataInvalid "market event failed queue provenance validation")
      else if !(event.payload.get? "quote_kind").all Json.hashable then
        .error (.typeError "unhashable type")
      else if !coherent event row.createdAt then
        .error (.dataInvalid "market event failed queue provenance validation")
      else if !event.rawReferenceIds.all queue.isUuid then
        .error (.valueError "badly formed hexadecimal UUID string")
      else .ok event

def event (row : Stored Payload) : ResearchProgram SentinelEvent := do
  let draw ← peek ResearchStore.draw
  lift (queue.readEvent draw row)

/-- What an observation is checked for before its event is read. -/
def observed (stored : Observation) (event : SentinelEvent) (surveillance content : String) :
    Bool :=
  stored.workerVersion == LiveReadSurveillanceWorker.version && stored.dataMode == "LIVE_READ" &&
    stored.observationKey == "live-read:" ++ surveillance ++ ":" ++ content &&
    stored.surveillanceKey == surveillance && stored.streamKey == stored.quote.stream &&
    queue.hashing.sha256Json (queue.content stored.quote) == content &&
    stored.quote.snapshotId == queue.hashing.uuid5 NAMESPACE_URL stored.observationKey &&
    event.eventId == queue.hashing.uuid5 NAMESPACE_URL event.deduplicationKey &&
    event.rawReferenceIds.getLast? == some stored.quote.snapshotId.str

/-- What the quote of an observation is checked for against the event. -/
def announced (row : Stored Observation) (event : SentinelEvent) (now : Time) : Bool :=
  let quote := row.payload.quote
  quote.metadata.provider == queue.identity &&
    quote.metadata.capabilityVersion == queue.capabilityVersion &&
    event.tickers == [quote.symbol] && event.effectiveAt == quote.metadata.effectiveAt &&
    row.payload.createdAt == event.createdAt && row.createdAt == event.createdAt &&
    decide (quote.metadata.effectiveAt ≤ quote.metadata.observedAt ∧
      quote.metadata.observedAt ≤ event.createdAt ∧ event.createdAt ≤ now)

/-- The checks of the observation that was found. -/
def verifyObservation (row : Stored Observation) (event : SentinelEvent) (now : Time)
    (option : Bool) (surveillance content : String) : ResearchProgram Unit := do
  let stored := row.payload
  raiseIf (row.environment.isSome || row.namespace_.isSome)
    (.safetyCritical "market research read crossed its environment/namespace binding")
  raiseIf (stored.environment != queue.binding.environment.value ||
      stored.namespace_ != queue.binding.idempotencyNamespace)
    (.safetyCritical "market research payload crossed its environment/namespace binding")
  raiseIf (stored.quote.isOption != option) (.unlisted "ValidationError")
  raiseIf (!queue.observed stored event surveillance content)
    (.dataInvalid "market event does not match its durable observation")
  match stored.event with
  | none => raise (.unlisted "ValidationError")
  | some known => do
    raiseIf (decide (known ≠ event) || !queue.announced row event now)
      (.dataInvalid "market event does not match its durable observation")
    pure ()

/-- `_verify_snapshot`. -/
def verifySnapshot (event : SentinelEvent) (now : Time) : ResearchProgram Unit := do
  match observationIdentity event.deduplicationKey with
  | none => raise (.dataInvalid "market event has an invalid observation identity")
  | some (surveillance, content) => do
    let option := event.payload.has "quote_kind" "option"
    let table := if option then SnapshotTable.optionSnapshots else .marketSnapshots
    match ← request (.findObservation table ("live-read:" ++ surveillance ++ ":" ++ content)) with
    | none => raise (.dataInvalid "market event is missing its durable observation")
    | some row => queue.verifyObservation row.payload event now option surveillance content

/-- `_payload` and `_Cursor.model_validate` of a checkpoint, and what else it is checked for. -/
def cursorFailure (row : Stored ResearchCursor) (now : Time) : Option Exc :=
  if !queue.binding.owns row then
    some (.safetyCritical "market research read crossed its environment/namespace binding")
  else if row.payload.environment ≠ queue.binding.environment.value ∨
      row.payload.namespace_ ≠ queue.binding.idempotencyNamespace then
    some (.safetyCritical "market research payload crossed its environment/namespace binding")
  else if row.payload.provider ≠ queue.identity ∨
      row.payload.capabilityVersion ≠ queue.capabilityVersion ∨
      row.payload.marketResearchQueueKey ≠ queue.key ∨ now < row.payload.createdAt ∨
      row.createdAt ≠ row.payload.createdAt then
    some (.safetyCritical "market research checkpoint provenance or clock is invalid")
  else none

/-- `_cursor`. -/
def cursor (now : Time) : ResearchProgram ℕ := do
  match ← request .findCursor with
  | none => pure 0
  | some row => do
    let saved := row.payload.payload
    match queue.cursorFailure row.payload now with
    | some e => raise e
    | none => do
      match ← request (.findEvent saved.eventId.str) with
      | none =>
        raise (.safetyCritical "market research checkpoint cannot prove its journal position")
      | some eventRow => do
        raiseIf (decide (eventRow.appendSequence ≠ saved.eventSequence))
          (.safetyCritical "market research checkpoint cannot prove its journal position")
        let event ← queue.event eventRow.payload
        raiseIf (decide (saved.createdAt < event.createdAt ∨
            queue.researcher.eventHash event ≠ saved.eventHash))
          (.safetyCritical "market research checkpoint event content changed")
        pure saved.eventSequence

/-- `_verify_research_result`. -/
def verifyResearchResult (event : SentinelEvent) (proposal : Option TradeProposal) :
    ResearchProgram Unit := do
  match ← request (.findRun (queue.researcher.eventKey event)) with
  | none => raise (.safetyCritical "research must be durable before advancing its queue")
  | some row => do
    let saved := row.payload.payload
    let now ← peek ResearchStore.now
    raiseIf (decide (saved.eventHash ≠ queue.researcher.eventHash event ∨
        saved.status ≠ (if proposal.isSome then .proposed else .wait) ∨
        saved.proposal ≠ proposal ∨ now < saved.createdAt))
      (.safetyCritical "research result lacks matching terminal durable evidence")
    raiseIf (proposal.any fun proposal => decide (
        proposal.environment ≠ queue.binding.environment ∨
        proposal.namespace_ ≠ queue.binding.idempotencyNamespace ∨ now < proposal.createdAt))
      (.safetyCritical "research proposal crossed its namespace or causal boundary")
    pure ()

/-! ### The scan -/

/-- The rows of a page, each checked, and no sequence twice. -/
def checkRows : List (AuditRow (Stored Payload)) → List ℕ → Except Exc Unit
  | [], _ => .ok ()
  | row :: rest, sequences =>
    match queue.payloadFailure row.payload with
    | some e => .error e
    | none =>
      if row.appendSequence = 0 ∨ row.appendSequence ∈ sequences then
        .error (.safetyCritical "market research requires unique positive journal sequences")
      else checkRows rest (row.appendSequence :: sequences)

/-- `row["payload"].get("event_type") in _EVENT_TYPES`. -/
def ofTypes (row : Stored Payload) : Bool :=
  eventTypes.any fun type => row.payload.has "event_type" type

/-- The rows after the checkpoint that are of the queue's types. -/
def pending (rows : List (AuditRow (Stored Payload))) (cursor : ℕ) :
    Except Exc (List (AuditRow (Stored Payload))) :=
  let later := rows.filter fun row => decide (cursor < row.appendSequence)
  if later.all fun row => (row.payload.payload.get? "event_type").all Json.hashable then
    .ok (later.filter fun row => ofTypes row.payload)
  else .error (.typeError "unhashable type")

/-- The first row with the smallest sequence. -/
def oldest : List (AuditRow (Stored Payload)) → Option (AuditRow (Stored Payload))
  | [] => none
  | row :: rest => match oldest rest with
    | none => some row
    | some other => some (if row.appendSequence ≤ other.appendSequence then row else other)

/-- What a page says is next, if it shows all that is after the checkpoint. -/
def next (rows : List (AuditRow (Stored Payload))) (cursor : ℕ) :
    Except Exc (Option (AuditRow (Stored Payload))) :=
  if queue.maximumRecords < rows.length then
    .error (.safetyCritical "market research scan exceeded its bound")
  else match queue.checkRows rows [] with
    | .error e => .error e
    | .ok () =>
      -- a full page that does not reach the checkpoint may hide older events
      if rows.length = queue.maximumRecords ∧ cursor < minSequence rows then
        .error (.safetyCritical
          "market research pending prefix exceeds its bounded scan; no events skipped")
      else (pending rows cursor).map oldest

/-! ### A tick -/

def checkpoint (row : AuditRow (Stored Payload)) (event : SentinelEvent) (now : Time) :
    ResearchCursor where
  createdAt := now
  namespace_ := queue.binding.idempotencyNamespace
  marketResearchQueueKey := queue.key
  provider := queue.identity
  capabilityVersion := queue.capabilityVersion
  eventSequence := row.appendSequence
  eventId := event.eventId
  eventHash := queue.researcher.eventHash event

/-- One event: the research, its outcome, the checkpoint. -/
def research (row : AuditRow (Stored Payload)) (event : SentinelEvent) :
    ResearchProgram (Option TradeProposal) := do
  let proposal ← queue.researcher.onEvent event
  -- the provider may have changed during the research
  queue.guard
  queue.verifyResearchResult event proposal
  let now ← peek ResearchStore.now
  request (.appendCursor (queue.checkpoint row event now))
  pure proposal

def scanned : ResearchProgram (Option TradeProposal) := do
  queue.guard
  let now ← peek ResearchStore.now
  let cursor ← queue.cursor now
  let rows ← request .listEvents
  match ← lift (queue.next rows cursor) with
  | none => pure none
  | some row => do
    let event ← queue.event row.payload
    -- a future event is kept, not skipped
    if now < event.createdAt ∨ now < event.effectiveAt then pure none
    else do
      queue.verifySnapshot event now
      queue.research row event

def tick : ResearchProgram (Option TradeProposal) :=
  attempt queue.scanned fun e => do
    -- the deadline cancels the tick, and shows as a timeout
    let expired ← peek ResearchStore.expired
    if e = .cancelled ∧ expired then raise .timeout else raise e

/-! ### What the calls do -/

/-- The checkpoints of this queue. -/
def mine (row : Stored ResearchCursor) : Bool :=
  queue.binding.owns row && row.payload.marketResearchQueueKey == queue.key

/-- The events of the provider that the bound repository sees. -/
def scans (row : Stored Payload) : Bool :=
  queue.binding.owns row && row.payload.has "source" queue.identity

def announces (eventId : String) (row : Stored Payload) : Bool :=
  queue.binding.owns row && row.payload.has "event_id" eventId

def keepsUnder (observationKey : String) (row : Stored Observation) : Bool :=
  row.payload.observationKey == observationKey

/-- What others do: they store any events, research events under `foreign` keys, and keep other
checkpoints. The clocks, the provider and the deadline are theirs. -/
structure Others (foreign : String → Bool) (g g' : ResearchStore) : Prop where
  sentinelEvents : AuditRow.Grows (fun _ => false) g.sentinelEvents g'.sentinelEvents
  candidateRuns : AuditRow.Grows (fun row => !foreign row.payload.eventKey) g.candidateRuns
    g'.candidateRuns
  systemRuns : AuditRow.Grows queue.mine g.systemRuns g'.systemRuns
  processed : g'.processed = g.processed

/-- The answer of a read; an attempt may give any proposal. -/
def Answers : (op : ResearchOp) → ResearchStore → ResearchAns op → Prop
  | .findRun eventKey, g, row =>
    row = AuditRow.findPayload (queue.researcher.keepsUnder eventKey) g.candidateRuns
  | .findCursor, g, row => row = AuditRow.findPayload queue.mine g.systemRuns
  | .listEvents, g, rows =>
    rows = AuditRow.listPayloads queue.scans queue.maximumRecords none g.sentinelEvents
  | .findEvent eventId, g, row =>
    row = AuditRow.findPayload (queue.announces eventId) g.sentinelEvents
  | .findObservation table key, g, row =>
    row = AuditRow.findPayload (keepsUnder key) (g.snapshots table)
  | _, _, _ => True

/-- The effect of a call, once it is committed. -/
def Commits : ResearchOp → ResearchStore → ResearchStore → Prop
  | .appendRun run, g, g' => ∃ rows,
    AuditRow.Appended (queue.binding.row run.createdAt run) g.candidateRuns rows ∧
      g' = { g with candidateRuns := rows }
  | .appendCursor cursor, g, g' => ∃ rows,
    AuditRow.Appended (queue.binding.row cursor.createdAt cursor) g.systemRuns rows ∧
      g' = { g with systemRuns := rows }
  | _, g, g' => g' = g

/-- The calls of a tick; one that fails may have been committed. -/
def service (foreign : String → Bool) : Service ResearchStore Exc ResearchAns where
  others := queue.Others foreign
  answers := queue.Answers
  commits := queue.Commits
  after _ g := g

abbrev rely (foreign : String → Bool) := (queue.service foreign).rely

end LiveMarketResearchQueue
end Sentry
