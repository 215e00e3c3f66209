import Sentry.Market.Replay
import Sentry.Ledger.ShadowLedger
import Sentry.Support.Attempts

/-!
# The offline replay session

`OfflineReplaySession` of `app/sentinel/offline.py`: a worker that feeds a fixture to its
callbacks one timestamp group at a time and emits a checkpoint after each. The repository,
the quote consumer, the event handler and the checkpoint sink are awaited and may fail at
any call; what was done of a group is remembered in flags, so that `step` can be called
again. The session's own lock lets one `step` run at a time.

The normalised payloads are kept as the values they are read back as. What the validation
library prints of a value is only hashed and is a parameter.
-/
namespace Sentry

open Support Coroutine

/-! ### Observations and events -/

inductive MarketObservation where
  | equity (quote : EquityQuote)
  | option (quote : OptionQuote)
  | bar (priceBar : PriceBar)

namespace MarketObservation

def metadata : MarketObservation → ProviderMetadata
  | .equity quote => quote.metadata
  | .option quote => quote.metadata
  | .bar priceBar => priceBar.metadata

def symbol : MarketObservation → String
  | .equity quote => quote.symbol
  | .option quote => quote.contract.symbol
  | .bar priceBar => priceBar.symbol

/-- The snapshot identifier of a quote; bars have none. -/
def snapshotId : MarketObservation → Option UUID
  | .equity quote => some quote.snapshotId
  | .option quote => some quote.snapshotId
  | .bar _ => none

def optionQuote : MarketObservation → Option OptionQuote
  | .option quote => some quote
  | _ => none

/-- The freshness stream of an observation. -/
def stream : MarketObservation → String
  | .option quote => "option_quote:" ++ quote.contract.instrumentId
  | .equity quote => "equity_quote:" ++ quote.symbol
  | .bar priceBar => "bar:" ++ priceBar.symbol ++ ":" ++ priceBar.timeframe

end MarketObservation

structure SentinelEvent where
  createdAt : Time
  eventId : UUID
  eventType : String
  source : String
  effectiveAt : Time
  tickers : List String
  severity : ℕ
  deduplicationKey : String
  rawReferenceIds : List String
  payload : Payload

structure OfflineReplayCheckpoint where
  namespace_ : String
  fixtureHash : String
  fixtureVersion : String
  provider : String
  capabilityVersion : String
  lastSequence : Option ℕ := none
  replayTime : Time
  complete : Bool := false
  deriving DecidableEq

/-! ### What a session is made of -/

inductive DemoBackend where
  | offlineSim | brokerShadow
  deriving DecidableEq

/-- The fields of a repository's binding that a session looks at. -/
structure RepositoryBinding where
  environment : ExecutionEnvironment
  demoBackend : Option DemoBackend
  externalWriteAuthority : Bool
  idempotencyNamespace : String

/-- The arguments of the constructor, and the platform. -/
structure ReplayConfig where
  py : MarketRuntime
  hashing : Hashing
  /-- `value.model_dump(mode="json")`. -/
  dump : MarketObservation → Json
  /-- `fixture.model_dump(mode="json")`. -/
  dumpFixture : ReplayFixture → Json
  fixture : ReplayFixture
  binding : RepositoryBinding
  eventHandler : Bool
  quoteConsumer : Bool
  namespace_ : Option String := none
  runId : Option UUID := none
  maxRecordsPerStep : ℤ := 1000
  eventBusMaxsize : ℤ := 1000

/-- A record with the value its normalised payload stands for. -/
structure ReplayEntry where
  record : ReplayRecord
  value : MarketObservation

namespace ReplayEntry

def sequence (entry : ReplayEntry) : ℕ := entry.record.sequence

def availableAt (entry : ReplayEntry) : Time := entry.record.availableAt

end ReplayEntry

namespace ReplayConfig

variable (cfg : ReplayConfig)

def sessionNamespace : String := cfg.namespace_.getD cfg.binding.idempotencyNamespace

/-- The fixture with its records in sequence. -/
def source : ReplayFixture :=
  { cfg.fixture with
    records := cfg.fixture.ordered
    sequences_unique := cfg.fixture.ordered_nodup
    deterministic_order := by
      have sorted : ReplayRecord.inSequence cfg.fixture.ordered = cfg.fixture.ordered := by
        apply List.Pairwise.insertionSort_eq
        exact cfg.fixture.ordered_sequence.imp fun smaller => Nat.le_of_lt smaller
      rw [sorted]
      exact cfg.fixture.deterministic_order }

def fixtureHash : String := cfg.hashing.sha256Json (cfg.dumpFixture cfg.source)

/-- The payload of a record; a quote without a snapshot identifier gets a stable one. -/
def withIdentity (record : ReplayRecord) : Payload :=
  if record.kind ≠ .bar ∧ (record.payload.get? "snapshot_id").isNone then
    record.payload ++ [("snapshot_id", .str (cfg.hashing.uuid5 NAMESPACE_URL
      (cfg.fixtureHash ++ ":" ++ toString record.sequence)).str)]
  else record.payload

/-- The value of a record. Its payload carries an identifier, so none is drawn. -/
def read (record : ReplayRecord) : Option MarketObservation :=
  match record.kind with
  | .equityQuote =>
    (EquityQuote.modelValidate cfg.py ⟨0⟩ (cfg.withIdentity record)).map .equity
  | .optionQuote =>
    (OptionQuote.modelValidate cfg.py ⟨0⟩ (cfg.withIdentity record)).map .option
  | .bar => (PriceBar.modelValidate cfg.py (cfg.withIdentity record)).map .bar

def fingerprint (value : MarketObservation) : String := cfg.hashing.sha256Json (cfg.dump value)

/-- `_normalize`, over the records left and the fingerprints seen. -/
def normalize : Dict UUID String → List ReplayRecord → Except Exc (List ReplayEntry)
  | _, [] => .ok []
  | hashes, record :: rest =>
    match cfg.read record with
    | none => .error (.valueError "ValidationError")
    | some value =>
      match value.snapshotId with
      | none => do
        let entries ← normalize hashes rest
        pure (⟨record, value⟩ :: entries)
      | some id =>
        if (hashes.get? id).any fun seen => seen != cfg.fingerprint value then
          .error (.dataInvalid "replay snapshot identity has conflicting payloads")
        else do
          let entries ← normalize (hashes.set id (cfg.fingerprint value)) rest
          pure (⟨record, value⟩ :: entries)

/-- The timestamp groups, in order. -/
def groups (entries : List ReplayEntry) : List (List ReplayEntry) :=
  entries.splitBy fun a b => a.availableAt == b.availableAt

/-- One round of the provider's check, on a normalised record. -/
def describes (entry : ReplayEntry) : Except Exc Unit :=
  let metadata := entry.value.metadata
  if metadata.provider ≠ cfg.fixture.provider then
    .error (.dataInvalid "invalid replay payload: payload provider differs from fixture provider")
  else if metadata.capabilityVersion ≠ cfg.fixture.capabilityVersion then
    .error (.dataInvalid "invalid replay payload: payload capability version differs from fixture")
  else if metadata.observedAt ≠ entry.record.observedAt then
    .error (.dataInvalid "invalid replay payload: payload observed_at differs from replay record")
  else if metadata.effectiveAt ≠ entry.record.effectiveAt then
    .error (.dataInvalid "invalid replay payload: payload effective_at differs from replay record")
  else .ok ()

/-- The constructor up to its provider: the entries the session will replay. -/
def prepare : Except Exc (List ReplayEntry) := do
  if cfg.maxRecordsPerStep ≤ 0 then
    .error (.valueError "max_records_per_step must be positive")
  else if cfg.binding.environment ≠ .demo ∨ cfg.binding.demoBackend ≠ some .offlineSim ∨
      cfg.binding.externalWriteAuthority = true then
    .error (.safetyCritical "replay requires a no-write DEMO/OFFLINE_SIM repository")
  else if strip cfg.sessionNamespace = "" then
    .error (.valueError "namespace cannot be empty")
  else if cfg.sessionNamespace ≠ cfg.binding.idempotencyNamespace then
    .error (.safetyCritical "replay namespace does not match repository binding")
  else
    let entries ← cfg.normalize .empty cfg.fixture.ordered
    if (groups entries).any fun group => decide (cfg.maxRecordsPerStep < group.length) then
      .error (.dataInvalid "replay timestamp group exceeds max_records_per_step")
    else
      entries.forM cfg.describes
      if cfg.eventBusMaxsize ≤ 0 then .error (.valueError "maxsize must be positive")
      else pure entries

/-- The checkpoint of a session that has processed nothing. -/
def initial (now : Time) : OfflineReplayCheckpoint where
  namespace_ := cfg.sessionNamespace
  fixtureHash := cfg.fixtureHash
  fixtureVersion := cfg.fixture.version
  provider := cfg.fixture.provider
  capabilityVersion := cfg.fixture.capabilityVersion
  replayTime := now

/-- The identity of a record in this session. -/
def deduplicationKey (record : ReplayRecord) : String :=
  "offline-replay:" ++ cfg.sessionNamespace ++ ":" ++ cfg.fixtureHash ++ ":" ++
    toString record.sequence ++ ":" ++ record.kind.value

/-- `_context`. -/
def context (record : ReplayRecord) : Payload :=
  [("data_mode", .str "REPLAY"), ("environment", .str "DEMO"),
    ("demo_backend", .str "OFFLINE_SIM"), ("namespace", .str cfg.sessionNamespace),
    ("run_id", Json.optionStr (cfg.runId.map UUID.str)), ("fixture_hash", .str cfg.fixtureHash),
    ("fixture_version", .str cfg.fixture.version), ("replay_sequence", .int record.sequence),
    ("replay_kind", .str record.kind.value),
    ("deduplication_key", .str (cfg.deduplicationKey record))]

/-- `_event`. -/
def event (entry : ReplayEntry) : SentinelEvent :=
  let key := cfg.deduplicationKey entry.record
  let identity := cfg.hashing.uuid5 NAMESPACE_URL key
  { createdAt := entry.record.observedAt
    eventId := identity
    eventType := "REPLAY_MARKET_OBSERVATION"
    source := cfg.fixture.provider
    effectiveAt := entry.record.effectiveAt
    tickers := [entry.value.symbol]
    severity := 0
    deduplicationKey := key
    rawReferenceIds := [(entry.value.snapshotId.getD identity).str]
    payload := cfg.context entry.record }

end ReplayConfig

/-- A session that was constructed, without what changes over its life. -/
structure OfflineReplaySession where
  cfg : ReplayConfig
  entries : List ReplayEntry
  prepared : cfg.prepare = .ok entries

/-! ### The state of a session -/

/-- `_PendingRecord`. -/
structure PendingRecord where
  entry : ReplayEntry
  event : SentinelEvent
  snapshotPersisted : Bool := false
  eventPersisted : Bool := false
  eventEnqueued : Bool := false
  eventReceived : Bool := false
  eventDispatched : Bool := false

/-- The session's fields, the clock and the event bus it shares with others, and whatever
its callbacks work on. -/
structure ReplayState (W : Type) where
  clock : Time
  nextIndex : ℕ := 0
  pending : List PendingRecord := []
  consumedQuotes : List UUID := []
  checkpoint : OfflineReplayCheckpoint
  freshnessTimes : Dict String Time := .empty
  /-- The observations of the freshness monitor. -/
  freshness : Dict String Time := .empty
  bus : List SentinelEvent := []
  world : W

namespace ReplayState

variable {W : Type}

/-- One stream of `_observe`; the monitor refuses to move backward. -/
def observeStream (name : String) (effectiveAt : Time) (s : ReplayState W) :
    Except Exc (ReplayState W) :=
  if (s.freshnessTimes.get? name).all fun previous => decide (previous < effectiveAt) then
    if (s.freshness.get? name).any fun previous => decide (effectiveAt < previous) then
      .error (.valueError "freshness observation moved backward")
    else .ok { s with
      freshness := s.freshness.set name effectiveAt
      freshnessTimes := s.freshnessTimes.set name effectiveAt }
  else .ok s

end ReplayState

/-! ### Construction -/

namespace OfflineReplaySession

variable {W : Type} (session : OfflineReplaySession)

/-- The first identity field in which a saved checkpoint differs, in the source's order. -/
def mismatch (saved initial : OfflineReplayCheckpoint) : Option String :=
  if saved.namespace_ ≠ initial.namespace_ then some "namespace"
  else if saved.fixtureHash ≠ initial.fixtureHash then some "fixture_hash"
  else if saved.fixtureVersion ≠ initial.fixtureVersion then some "fixture_version"
  else if saved.provider ≠ initial.provider then some "provider"
  else if saved.capabilityVersion ≠ initial.capabilityVersion then some "capability_version"
  else none

/-- Where a saved cursor points: the index after its last record. -/
def resumeAt (saved : OfflineReplayCheckpoint) : Except Exc ℕ :=
  match saved.lastSequence with
  | none =>
    if saved.complete = true ∧ session.entries ≠ [] then
      .error (.dataInvalid "nonempty replay cannot be complete without a sequence")
    else .ok 0
  | some sequence =>
    match session.entries.findIdx? fun entry => entry.sequence == sequence with
    | none => .error (.dataInvalid "replay checkpoint sequence is not in fixture")
    | some index =>
      if (session.entries[index]?).any fun entry => saved.replayTime != entry.availableAt then
        .error (.dataInvalid "replay checkpoint time does not match sequence")
      else if (session.entries[index + 1]?).any fun entry =>
          entry.availableAt == saved.replayTime then
        .error (.dataInvalid "replay checkpoint splits a timestamp group")
      else if saved.complete ≠ decide (index + 1 = session.entries.length) then
        .error (.dataInvalid "replay checkpoint completion does not match sequence")
      else .ok (index + 1)

/-- `_observe`. -/
def observed (value : MarketObservation) (s : ReplayState W) : Except Exc (ReplayState W) := do
  let s ← s.observeStream "market_data" value.metadata.effectiveAt
  s.observeStream value.stream value.metadata.effectiveAt

/-- The records before a restored cursor were observed and their quotes consumed. -/
def replayed : List ReplayEntry → ReplayState W → Except Exc (ReplayState W)
  | [], s => .ok s
  | entry :: rest, s => do
    let s ← observed entry.value s
    replayed rest { s with
      consumedQuotes := s.consumedQuotes ++ (entry.value.optionQuote.map (·.snapshotId)).toList }

/-- `_restore`, on the fields of a new session. -/
def restore (now : Time) (saved : OfflineReplayCheckpoint) (world : W) :
    Except Exc (ReplayState W) :=
  match mismatch saved (session.cfg.initial now) with
  | some field => .error (.dataInvalid ("replay checkpoint " ++ field ++ " does not match"))
  | none =>
    if now < saved.replayTime then
      .error (.dataInvalid "restore clock precedes checkpoint replay_time")
    else if saved.complete = true ∧ now ≠ saved.replayTime then
      .error (.dataInvalid "completed replay clock must equal checkpoint replay_time")
    else
      match session.resumeAt saved with
      | .error e => .error e
      | .ok nextIndex =>
        if saved.lastSequence = none ∧
            (session.entries[0]?).any fun entry => decide (entry.availableAt < saved.replayTime) then
          .error (.dataInvalid "initial checkpoint time exceeds first observation")
        else if (session.entries[nextIndex]?).any fun entry => decide (entry.availableAt < now) then
          .error (.dataInvalid "replay clock passed the next unprocessed observation")
        else replayed (session.entries.take nextIndex)
          { clock := now, nextIndex, checkpoint := saved, world }

end OfflineReplaySession

/-- The constructor: a session and its first state. -/
def ReplayConfig.create {W : Type} (cfg : ReplayConfig) (now : Time)
    (checkpoint : Option OfflineReplayCheckpoint) (world : W) :
    Except Exc (OfflineReplaySession × ReplayState W) :=
  match prepared : cfg.prepare with
  | .error e => .error e
  | .ok entries =>
    let session : OfflineReplaySession := ⟨cfg, entries, prepared⟩
    (session.restore now (checkpoint.getD (cfg.initial now)) world).map (session, ·)

/-! ### Steps -/

structure SnapshotRow where
  table : String
  entry : ReplayEntry
  context : Payload
  createdAt : Time

structure EventRow where
  entry : ReplayEntry
  event : SentinelEvent
  namespace_ : String
  runId : Option UUID

inductive ReplayOp where
  | appendSnapshot (row : SnapshotRow)
  | appendEvent (row : EventRow)
  | consumeQuote (quote : OptionQuote)
  | receive
  | handleEvent (event : SentinelEvent)
  | saveCheckpoint (checkpoint : OfflineReplayCheckpoint)

abbrev ReplayAns : ReplayOp → Type
  | .receive => SentinelEvent
  | _ => Unit

abbrev ReplayProgram (W α : Type) := Coroutine (ReplayState W) Exc ReplayAns α

structure OfflineReplayStep where
  processedSequences : List ℕ
  events : List SentinelEvent
  optionQuotes : List OptionQuote
  checkpoint : OfflineReplayCheckpoint

namespace OfflineReplaySession

variable {W : Type} (session : OfflineReplaySession)

/-- Change one pending record. -/
def mark (i : ℕ) (f : PendingRecord → PendingRecord) : ReplayProgram W Unit :=
  change fun s => { s with pending := s.pending.modify i f }

def snapshotRow (entry : ReplayEntry) : SnapshotRow where
  table := match entry.value with
    | .option _ => "option_snapshots"
    | _ => "market_snapshots"
  entry
  context := session.cfg.context entry.record
  createdAt := entry.record.observedAt

def eventRow (pending : PendingRecord) : EventRow where
  entry := pending.entry
  event := pending.event
  namespace_ := session.cfg.sessionNamespace
  runId := session.cfg.runId

def persistSnapshot (i : ℕ) (pending : PendingRecord) : ReplayProgram W Unit :=
  if pending.snapshotPersisted then pure ()
  else do
    let _ ← call (ReplayOp.appendSnapshot (session.snapshotRow pending.entry))
    mark i fun p => { p with snapshotPersisted := true }

def persistEvent (i : ℕ) (pending : PendingRecord) : ReplayProgram W Unit :=
  if pending.eventPersisted then pure ()
  else do
    let _ ← call (ReplayOp.appendEvent (session.eventRow pending))
    mark i fun p => { p with eventPersisted := true }

def offer (quote : OptionQuote) : ReplayProgram W Unit :=
  if session.cfg.quoteConsumer then call (ReplayOp.consumeQuote quote) else pure ()

/-- Offer an option quote that was not consumed before. -/
def consume (value : MarketObservation) : ReplayProgram W Unit :=
  match value.optionQuote with
  | none => pure ()
  | some quote => do
    let seen ← peek fun s : ReplayState W => s.consumedQuotes.contains quote.snapshotId
    if seen then pure ()
    else do
      session.offer quote
      change fun s => { s with consumedQuotes := s.consumedQuotes ++ [quote.snapshotId] }

def observeOne (name : String) (effectiveAt : Time) : ReplayProgram W Unit :=
  .read fun s => match s.observeStream name effectiveAt with
    | .ok s' => change fun _ => s'
    | .error e => raise e

/-- `_observe`. -/
def observe (value : MarketObservation) : ReplayProgram W Unit := do
  observeOne "market_data" value.metadata.effectiveAt
  observeOne value.stream value.metadata.effectiveAt

/-- `event_bus.publish`. -/
def publish (event : SentinelEvent) : ReplayProgram W Unit := do
  let waiting ← peek fun s : ReplayState W => s.bus.length
  raiseIf (decide (session.cfg.eventBusMaxsize ≤ waiting))
    (.unlisted "RuntimeError: sentinel event bus is full")
  change fun s => { s with bus := s.bus ++ [event] }

def enqueue (i : ℕ) (pending : PendingRecord) : ReplayProgram W Unit :=
  if pending.eventEnqueued then pure ()
  else do
    session.publish pending.event
    mark i fun p => { p with eventEnqueued := true }

def takeBack (i : ℕ) (pending : PendingRecord) : ReplayProgram W Unit :=
  if pending.eventReceived then pure ()
  else do
    let received : SentinelEvent ← call ReplayOp.receive
    raiseIf (decide (received.eventId ≠ pending.event.eventId))
      (.unlisted "RuntimeError: replay worker requires exclusive bus consumption")
    mark i fun p => { p with eventReceived := true }

/-- With a handler the session consumes its own event from the bus. -/
def handle (i : ℕ) (pending : PendingRecord) : ReplayProgram W Unit :=
  if session.cfg.eventHandler then do
    takeBack i pending
    call (ReplayOp.handleEvent pending.event)
  else pure ()

def dispatch (i : ℕ) (pending : PendingRecord) : ReplayProgram W Unit :=
  if pending.eventDispatched then pure ()
  else do
    session.enqueue i pending
    session.handle i pending
    mark i fun p => { p with eventDispatched := true }

/-- `_process` of the pending record at an index. -/
def process (i : ℕ) (pending : PendingRecord) : ReplayProgram W Unit := do
  session.persistSnapshot i pending
  session.persistEvent i pending
  session.consume pending.entry.value
  observe pending.entry.value
  session.dispatch i pending

/-- One round of the loop over the pending records. -/
def processOne (i : ℕ) (pending : PendingRecord) : ReplayProgram W Unit := do
  session.process i pending
  let now ← peek fun s : ReplayState W => s.clock
  raiseIf (decide (now ≠ pending.entry.availableAt))
    (.dataInvalid "replay callback changed the trading clock")

/-- The pending records from an index on. -/
def processFrom : ℕ → List PendingRecord → ReplayProgram W Unit
  | _, [] => pure ()
  | i, pending :: rest => do
    session.processOne i pending
    processFrom (i + 1) rest

/-- The entries of the group that starts at an index. -/
def groupAt (index : ℕ) : List ReplayEntry :=
  match session.entries[index]? with
  | none => []
  | some first => (session.entries.drop index).takeWhile fun entry =>
      entry.availableAt == first.availableAt

/-- Take up the next timestamp group, if there is one and none is under way. -/
def takeUp : ReplayProgram W Unit := do
  let s ← peek id
  match s.pending, session.entries[s.nextIndex]? with
  | [], some next => do
    raiseIf (decide (next.availableAt < s.clock))
      (.dataInvalid "replay clock passed the next unprocessed observation")
    change fun s => { s with
      clock := next.availableAt
      pending := (session.groupAt s.nextIndex).map fun entry =>
        { entry, event := session.cfg.event entry } }
  | _, _ => pure ()

/-- The cursor after the pending group. -/
def candidate (s : ReplayState W) : OfflineReplayCheckpoint :=
  { s.checkpoint with
    lastSequence := (s.pending.getLast?.map fun pending => pending.entry.sequence).or
      s.checkpoint.lastSequence
    replayTime := s.clock
    complete := decide (s.nextIndex + s.pending.length = session.entries.length) }

/-- `_result`. -/
def result (completed : List PendingRecord) (checkpoint : OfflineReplayCheckpoint) :
    OfflineReplayStep where
  processedSequences := completed.map fun pending => pending.entry.sequence
  events := completed.map PendingRecord.event
  optionQuotes := completed.filterMap fun pending => pending.entry.value.optionQuote
  checkpoint

/-- Emit the cursor and, once it is stored, move on. -/
def commit : ReplayProgram W OfflineReplayStep := do
  let checkpoint ← peek fun s : ReplayState W => session.candidate s
  call (ReplayOp.saveCheckpoint checkpoint)
  let completed ← peek fun s : ReplayState W => s.pending
  change fun s => { s with
    checkpoint
    nextIndex := s.nextIndex + completed.length
    pending := [] }
  pure (result completed checkpoint)

def work : ReplayProgram W OfflineReplayStep := do
  session.takeUp
  let s ← peek id
  raiseIf ((s.pending.head?).any fun pending => decide (s.clock ≠ pending.entry.availableAt))
    (.dataInvalid "replay clock changed during an uncheckpointed group")
  session.processFrom 0 s.pending
  session.commit

def step : ReplayProgram W OfflineReplayStep := do
  let checkpoint ← peek fun s : ReplayState W => s.checkpoint
  if checkpoint.complete then pure (result [] checkpoint) else session.work

end OfflineReplaySession
end Sentry
