import Mathlib.Data.Prod.Lex
import Sentry.Db.Paging
import Sentry.Domain.Exceptions
import Sentry.Sentinel.EventLog
import Sentry.Support.Dict
import Sentry.Support.Services

/-!
# Live surveillance

`LiveReadSurveillanceWorker` of `app/sentinel/live_reads.py`: a tick reads the quotes of a
watchlist, stores each new one as an observation, and then stores the event the observation
carries. Observations and events are separate writes. What the worker remembers of a stream
is lost with the process and rebuilt from the stored observations.

Every repository call and every provider call may fail, and a failed write may have been
committed. A deadline that passes is a `timeout` at the call that is awaited.
-/
namespace Sentry

open Support Coroutine

/-! ### Quotes -/

inductive Quote where
  | equity (quote : EquityQuote)
  | option (quote : OptionQuote)
  deriving DecidableEq

/-- A number of a quote, as a decimal or as an integer. -/
inductive Measure where
  | decimal (q : ℚ)
  | count (n : ℤ)
  deriving DecidableEq

/-- The two tables of market snapshots. -/
inductive SnapshotTable where
  | marketSnapshots | optionSnapshots
  deriving DecidableEq

namespace Quote

def isOption : Quote → Bool
  | .equity _ => false
  | .option _ => true

def table : Quote → SnapshotTable
  | .equity _ => .marketSnapshots
  | .option _ => .optionSnapshots

def metadata : Quote → ProviderMetadata
  | .equity quote => quote.metadata
  | .option quote => quote.metadata

def snapshotId : Quote → UUID
  | .equity quote => quote.snapshotId
  | .option quote => quote.snapshotId

def bid : Quote → ℚ
  | .equity quote => quote.bid
  | .option quote => quote.bid

def ask : Quote → ℚ
  | .equity quote => quote.ask
  | .option quote => quote.ask

def contract? : Quote → Option OptionContract
  | .equity _ => none
  | .option quote => some quote.contract

/-- `_symbol`. -/
def symbol : Quote → String
  | .equity quote => quote.symbol
  | .option quote => quote.contract.symbol

/-- `_stream`. -/
def stream : Quote → String
  | .equity quote => "equity:" ++ quote.symbol
  | .option quote => "option:" ++ quote.contract.instrumentId

/-- `quote.model_copy(update={"snapshot_id": …})`. -/
def withSnapshotId (id : UUID) : Quote → Quote
  | .equity quote => .equity { quote with snapshotId := id }
  | .option quote => .option { quote with snapshotId := id }

/-- The values that are compared, under their names. -/
def measures : Quote → List (String × Option Measure)
  | .equity quote =>
    [("bid", some (.decimal quote.bid)), ("ask", some (.decimal quote.ask)),
      ("last", some (.decimal quote.last)), ("volume", some (.count quote.volume))]
  | .option quote =>
    [("bid", some (.decimal quote.bid)), ("ask", some (.decimal quote.ask)),
      ("last", quote.last.map .decimal), ("mark", quote.mark.map .decimal),
      ("volume", quote.volume.map fun n => .count n),
      ("open_interest", quote.openInterest.map fun n => .count n),
      ("implied_volatility", quote.impliedVolatility.map .decimal)]

@[simp] theorem metadata_withSnapshotId (quote : Quote) (id : UUID) :
    (quote.withSnapshotId id).metadata = quote.metadata := by
  cases quote <;> rfl

@[simp] theorem stream_withSnapshotId (quote : Quote) (id : UUID) :
    (quote.withSnapshotId id).stream = quote.stream := by
  cases quote <;> rfl

@[simp] theorem table_withSnapshotId (quote : Quote) (id : UUID) :
    (quote.withSnapshotId id).table = quote.table := by
  cases quote <;> rfl

end Quote

/-! ### The worker and its surroundings -/

structure MarketDataCapabilities where
  equityQuotes : Bool := true
  optionChains : Bool := true
  replay : Bool := false

/-- What a provider says of itself. -/
structure MarketDataState where
  identity : String
  capabilityVersion : String
  capabilities : MarketDataCapabilities

structure LiveReadLimits where
  maximumSymbols : ℕ := 20
  maximumOptionsPerSymbol : ℕ := 200
  maximumQuoteAgeSeconds : ℕ := 120
  maximumBaselineAgeSeconds : ℕ := 1800
  tickTimeoutSeconds : ℚ := 30
  maximumRecoverySnapshots : ℕ := 10000

structure Observation where
  workerVersion : String := "live-read-surveillance-v1"
  dataMode : String := "LIVE_READ"
  environment : String := "DEMO"
  namespace_ : String
  surveillanceKey : String
  observationKey : String
  streamKey : String
  createdAt : Time
  quote : Quote
  event : Option SentinelEvent
  deriving DecidableEq

namespace Observation

variable (stored : Observation)

def effectiveAt : Time := stored.quote.metadata.effectiveAt

def observedAt : Time := stored.quote.metadata.observedAt

/-- `_recency`, in the order of tuples. -/
def recency : Time ×ₗ Time ×ₗ Time :=
  toLex (stored.effectiveAt, toLex (stored.observedAt, stored.createdAt))

end Observation

/-- The arguments of the constructor, with the watchlist as it is normalised and sorted and
what the provider said of itself. -/
structure LiveReadSurveillanceWorker where
  hashing : Hashing
  isoformat : Time → String
  isSpace : Char → Bool
  /-- `str(value)` of a decimal. -/
  decimal : ℚ → String
  /-- `quote.model_dump(mode="json", exclude={"snapshot_id"})`. -/
  content : Quote → Json
  binding : RepositoryBinding
  identity : String
  capabilityVersion : String
  watchlist : List String
  limits : LiveReadLimits := {}

/-- What the worker keeps in memory. -/
structure SurveillanceMemory where
  restored : Bool := false
  previous : Dict String Observation := .empty
  lastScanHealthy : Bool := false
  lastSuccessfulQuotes : List Quote := []
  lastSuccessfulAt : Option Time := none

structure SurveillanceStore where
  snapshots : SnapshotTable → List (AuditRow (Stored Observation))
  sentinelEvents : List (AuditRow (Stored Payload))
  market : MarketDataState
  now : Time
  memory : SurveillanceMemory := {}

inductive LiveReadOp where
  | healthcheck
  | listObservations (table : SnapshotTable) (beforeSequence : Option ℕ)
  | findObservation (table : SnapshotTable) (key : String)
  | findEvent (deduplicationKey : String)
  | appendObservation (table : SnapshotTable) (stored : Observation)
  | appendEvent (event : SentinelEvent)
  | appendHealth (healthy : Bool) (quotes events : ℕ) (failure : String)
  | getEquityQuote (symbol : String) (asOf : Time)
  | getOptionChain (symbol : String) (asOf : Time)

abbrev LiveReadAns : LiveReadOp → Type
  | .healthcheck => Bool
  | .listObservations _ _ => List (AuditRow (Stored Observation))
  | .findObservation _ _ => Option (AuditRow (Stored Observation))
  | .findEvent _ => Option (AuditRow (Stored Payload))
  | .appendObservation _ _ => Unit
  | .appendEvent _ => Unit
  | .appendHealth _ _ _ _ => Unit
  | .getEquityQuote _ _ => Quote
  -- nothing, where the answer is not a sequence
  | .getOptionChain _ _ => Option (List Quote)

abbrev LiveReadProgram (α : Type) := Coroutine SurveillanceStore Exc LiveReadAns α

def LiveReadLimits.dump (limits : LiveReadLimits) : Json :=
  .obj [("maximum_symbols", .int limits.maximumSymbols),
    ("maximum_options_per_symbol", .int limits.maximumOptionsPerSymbol),
    ("maximum_quote_age_seconds", .int limits.maximumQuoteAgeSeconds),
    ("maximum_baseline_age_seconds", .int limits.maximumBaselineAgeSeconds),
    ("tick_timeout_seconds", .number limits.tickTimeoutSeconds),
    ("maximum_recovery_snapshots", .int limits.maximumRecoverySnapshots)]

/-- `timedelta(seconds=n)`. -/
def seconds (n : ℕ) : Time := n * 1000000

/-- `moment.date()` of a moment in UTC. -/
def utcDate (moment : Time) : Date := moment / 86400000000

namespace SurveillanceMemory

def remember (stream : String) (stored : Observation) (memory : SurveillanceMemory) :
    SurveillanceMemory :=
  { memory with previous := memory.previous.set stream stored }

end SurveillanceMemory

namespace SurveillanceStore

def updateMemory (f : SurveillanceMemory → SurveillanceMemory) (g : SurveillanceStore) :
    SurveillanceStore :=
  { g with memory := f g.memory }

end SurveillanceStore

namespace LiveReadSurveillanceWorker

variable (worker : LiveReadSurveillanceWorker)

def version : String := "live-read-surveillance-v1"

/-- `_key`. -/
def key : String :=
  worker.hashing.sha256Json (.obj
    [("worker", .str version),
      ("namespace", .str worker.binding.idempotencyNamespace),
      ("provider", .str worker.identity),
      ("capability_version", .str worker.capabilityVersion),
      ("watchlist", .arr (worker.watchlist.map .str)),
      ("limits", worker.limits.dump)])

/-- `_observation_key`. -/
def observationKey (quote : Quote) : String :=
  "live-read:" ++ worker.key ++ ":" ++ worker.hashing.sha256Json (worker.content quote)

def eventKey (observationKey : String) : String := observationKey ++ ":event"

/-- The rows of this worker in the shared tables of snapshots. -/
def keeps (row : Stored Observation) : Bool :=
  row.payload.surveillanceKey == worker.key &&
    row.payload.namespace_ == worker.binding.idempotencyNamespace &&
    row.payload.environment == "DEMO"

def keepsUnder (key : String) (row : Stored Observation) : Bool :=
  row.payload.observationKey == key &&
    row.payload.namespace_ == worker.binding.idempotencyNamespace &&
    row.payload.environment == "DEMO"

/-- The events under a key that the bound repository sees. -/
def announces (deduplicationKey : String) (row : Stored Payload) : Bool :=
  worker.binding.owns row && row.payload.has "deduplication_key" deduplicationKey

/-- The payload under which an event is stored. -/
def document (event : SentinelEvent) : Payload :=
  event.dump worker.isoformat ++
    [("environment", .str "DEMO"), ("namespace", .str worker.binding.idempotencyNamespace)]

def ask (op : LiveReadOp) : LiveReadProgram (LiveReadAns op) := call op

/-! ### Checks -/

def guardFailure (market : MarketDataState) : Option Exc :=
  if worker.binding.environment ≠ .demo ∨ worker.binding.demoBackend ≠ some .brokerShadow ∨
      worker.binding.externalWriteAuthority then
    some (.safetyCritical "live reads require the no-write BROKER_SHADOW binding")
  else if market.capabilities.replay ∨ !market.capabilities.equityQuotes ∨
      !market.capabilities.optionChains then
    some (.safetyCritical "current equity and option-chain read capabilities required")
  else if worker.identity.toList.all worker.isSpace ∨
      worker.capabilityVersion.toList.all worker.isSpace ∨
      market.identity ≠ worker.identity ∨
      market.capabilityVersion ≠ worker.capabilityVersion then
    some (.safetyCritical "market provider identity or capability version changed")
  else none

/-- `_guard`. -/
def guard : LiveReadProgram Unit := do
  let market ← peek SurveillanceStore.market
  match worker.guardFailure market with
  | some e => raise e
  | none => pure ()

/-- `_validate_quote` at a moment; the numbers of a quote are finite by its type. -/
def validateQuote (quote : Quote) (symbol : String) (cutoff now : Time) (option : Bool) :
    Except Exc Unit :=
  let metadata := quote.metadata
  if quote.isOption ≠ option ∨ quote.symbol ≠ symbol then
    .error (.dataInvalid "provider returned an unrelated quote")
  else if metadata.provider ≠ worker.identity ∨
      metadata.capabilityVersion ≠ worker.capabilityVersion ∨
      ¬ (metadata.effectiveAt ≤ metadata.observedAt ∧ metadata.observedAt ≤ cutoff ∧
        cutoff ≤ now) ∨
      seconds worker.limits.maximumQuoteAgeSeconds < now - metadata.effectiveAt then
    .error (.dataInvalid "quote provenance, causal ordering, or freshness failed")
  else if quote.ask ≤ 0 ∨ quote.ask < quote.bid then
    .error (.dataInvalid "quote does not contain a valid bid/ask market")
  else match quote with
    | .equity equity =>
      if equity.last ≤ 0 then .error (.dataInvalid "equity last price must be positive")
      else .ok ()
    | .option option =>
      if option.contract.expiration < utcDate metadata.effectiveAt then
        .error (.dataInvalid "option contract is expired or invalid")
      else .ok ()

def validate (quote : Quote) (symbol : String) (cutoff : Time) (option : Bool) :
    LiveReadProgram Unit := do
  let now ← peek SurveillanceStore.now
  lift (worker.validateQuote quote symbol cutoff now option)

/-- What a recovered observation is checked for. -/
def provenance (stored : Observation) (now : Time) : Bool :=
  let quote := stored.quote
  stored.namespace_ == worker.binding.idempotencyNamespace &&
    stored.surveillanceKey == worker.key && stored.streamKey == quote.stream &&
    worker.watchlist.contains quote.symbol &&
    stored.observationKey == worker.observationKey quote &&
    quote.snapshotId == worker.hashing.uuid5 NAMESPACE_URL stored.observationKey &&
    quote.metadata.provider == worker.identity &&
    quote.metadata.capabilityVersion == worker.capabilityVersion &&
    decide (quote.metadata.effectiveAt ≤ quote.metadata.observedAt ∧
      quote.metadata.observedAt ≤ stored.createdAt ∧ stored.createdAt ≤ now)

/-- What the event of an observation is checked for. -/
def identifies (stored : Observation) (event : SentinelEvent) : Bool :=
  event.eventId == worker.hashing.uuid5 NAMESPACE_URL (eventKey stored.observationKey) &&
    event.deduplicationKey == eventKey stored.observationKey &&
    event.rawReferenceIds.contains stored.quote.snapshotId.str &&
    event.createdAt == stored.createdAt &&
    event.effectiveAt == stored.quote.metadata.effectiveAt &&
    event.source == worker.identity && event.payload.has "data_mode" "LIVE_READ"

/-! ### Writes -/

/-- `_ensure_event`. -/
def ensureEvent (stored : Observation) : LiveReadProgram Bool :=
  match stored.event with
  | none => pure false
  | some event => do
    raiseIf (!worker.identifies stored event)
      (.safetyCritical "market snapshot event identity is inconsistent")
    match ← ask (.findEvent event.deduplicationKey) with
    | some existing =>
      raiseIf (decide (existing.payload.payload ≠ worker.document event))
        (.safetyCritical "stored market event has conflicting content")
      pure false
    | none =>
      ask (.appendEvent event)
      pure true

def Measure.text : Measure → String
  | .decimal q => worker.decimal q
  | .count n => toString n

/-- `str(new - old)`, of two decimals or two integers. -/
def Measure.delta : Measure → Measure → String
  | .decimal old, .decimal new => worker.decimal (new - old)
  | .count old, .count new => toString (new - old)
  | .decimal old, .count new => worker.decimal (new - old)
  | .count old, .decimal new => worker.decimal (new - old)

/-- `_changes`: an unknown value that becomes available is not a change. -/
def changes (previous current : Quote) : Payload :=
  current.measures.filterMap fun (name, new) =>
    match (previous.measures.find? fun entry => entry.1 == name).bind Prod.snd, new with
    | some old, some new =>
      if old ≠ new then
        some (name, .obj [("previous", .str (Measure.text worker old)),
          ("current", .str (Measure.text worker new)),
          ("delta", .str (Measure.delta worker old new))])
      else none
    | _, _ => none

/-- An observation that moved backward from the last one of its stream. -/
def backward (quote old : Quote) : Bool :=
  decide (quote.metadata.effectiveAt < old.metadata.effectiveAt ∨
    quote.metadata.observedAt < old.metadata.observedAt) ||
    match quote.contract?, old.contract? with
    | some contract, some before => contract != before
    | _, _ => false

/-- Whether a stream starts anew with a quote. -/
def baseline (previous : Option Observation) (quote : Quote) : Bool :=
  match previous with
  | none => true
  | some stored => decide (seconds worker.limits.maximumBaselineAgeSeconds <
      quote.metadata.effectiveAt - stored.quote.metadata.effectiveAt)

/-- The event of a new observation. -/
def surveillanceEvent (previous : Option Observation) (quote : Quote) (key : String) (now : Time) :
    Option SentinelEvent :=
  let changed := match previous with
    | none => []
    | some stored => worker.changes stored.quote quote
  let baseline := worker.baseline previous quote
  if baseline ∨ changed ≠ [] then
    some
      { eventId := worker.hashing.uuid5 NAMESPACE_URL (eventKey key)
        createdAt := now
        eventType := if baseline then "MARKET_BASELINE" else "MARKET_MEASURED_CHANGE"
        source := worker.identity
        effectiveAt := quote.metadata.effectiveAt
        tickers := [quote.symbol]
        severity := if baseline then 0 else 1
        deduplicationKey := eventKey key
        rawReferenceIds := match baseline, previous with
          | false, some stored => [stored.quote.snapshotId.str, quote.snapshotId.str]
          | _, _ => [quote.snapshotId.str]
        payload :=
          [("data_mode", .str "LIVE_READ"),
            ("worker_version", .str version),
            ("quote_kind", .str (if quote.isOption then "option" else "equity")),
            ("provider", .str worker.identity),
            ("capability_version", .str worker.capabilityVersion),
            ("baseline", .bool baseline),
            ("changes", .obj (if baseline then [] else changed))] }
  else none

def observation (previous : Option Observation) (quote : Quote) (key : String) (now : Time) :
    Observation where
  namespace_ := worker.binding.idempotencyNamespace
  surveillanceKey := worker.key
  observationKey := key
  streamKey := quote.stream
  createdAt := now
  quote
  event := worker.surveillanceEvent previous quote key now

/-- Values that changed while the provider's time stood still. -/
def conflicts (previous : Option Observation) (quote : Quote) : Bool :=
  match previous with
  | none => false
  | some stored => worker.changes stored.quote quote != [] &&
      quote.metadata.effectiveAt == stored.quote.metadata.effectiveAt

/-- `_persist`. -/
def persist (received : Quote) : LiveReadProgram (Option SentinelEvent) := do
  let key := worker.observationKey received
  let stream := received.stream
  let quote := received.withSnapshotId (worker.hashing.uuid5 NAMESPACE_URL key)
  let previous ← peek fun g => g.memory.previous.get? stream
  raiseIf (previous.any fun stored => backward quote stored.quote)
    (.dataInvalid "market stream or contract identity moved backward")
  match ← ask (.findObservation quote.table key) with
  | some existing =>
    let _ ← worker.ensureEvent existing.payload.payload
    pure none
  | none =>
    raiseIf (worker.conflicts previous quote)
      (.dataInvalid "conflicting market values share one effective timestamp")
    let now ← peek SurveillanceStore.now
    let stored := worker.observation previous quote key now
    ask (.appendObservation quote.table stored)
    let _ ← worker.ensureEvent stored
    change (SurveillanceStore.updateMemory (.remember stream stored))
    pure stored.event

def persistAll : List Quote → List SentinelEvent → LiveReadProgram (List SentinelEvent)
  | [], events => pure events
  | quote :: rest, events => do
    let event ← worker.persist quote
    persistAll rest (events ++ event.toList)

/-! ### Recovery -/

def restoreRow (row : AuditRow (Stored Observation)) (repaired : List SentinelEvent) :
    LiveReadProgram (List SentinelEvent) := do
  let stored := row.payload.payload
  let now ← peek SurveillanceStore.now
  raiseIf (!worker.provenance stored now)
    (.safetyCritical "stored market observation failed provenance validation")
  change fun g =>
    if (g.memory.previous.get? stored.streamKey).all
        (fun current => decide (current.recency < stored.recency)) then
      g.updateMemory (.remember stored.streamKey stored)
    else g
  match stored.event with
  | none => pure repaired
  | some event => do
    let _ ← worker.ensureEvent stored
    -- eligible events are offered again, consumers tell them apart by their identifiers
    let now ← peek SurveillanceStore.now
    let age := now - event.effectiveAt
    pure (if 0 ≤ age ∧ age ≤ seconds worker.limits.maximumQuoteAgeSeconds then
      repaired ++ [event] else repaired)

def restoreRows : List (AuditRow (Stored Observation)) → List SentinelEvent →
    LiveReadProgram (List SentinelEvent)
  | [], repaired => pure repaired
  | row :: rest, repaired => do
    let repaired ← worker.restoreRow row repaired
    restoreRows rest repaired

/-- The pages of a table, newest first. Each but the last counts towards the budget, so that
the scan ends within `maximum_recovery_snapshots` pages and one. -/
def restoreTable (table : SnapshotTable) : ℕ → Option ℕ → ℕ → List SentinelEvent →
    LiveReadProgram (ℕ × List SentinelEvent)
  | 0, _, _, _ => raise (.safetyCritical "market snapshot recovery budget exhausted")
  | pages + 1, before, count, repaired => do
    let rows ← ask (.listObservations table before)
    if rows.isEmpty then pure (count, repaired)
    else
      let count := count + rows.length
      raiseIf (decide (worker.limits.maximumRecoverySnapshots < count))
        (.safetyCritical "market snapshot recovery budget exhausted")
      let repaired ← worker.restoreRows rows repaired
      raiseIf (before.any fun bound => decide (bound ≤ minSequence rows))
        (.safetyCritical "market recovery pagination did not advance")
      if rows.length < 1000 then pure (count, repaired)
      else restoreTable table pages (some (minSequence rows)) count repaired

/-- `sorted(…, key=lambda event: (event.created_at, str(event.event_id)))`. -/
def inOrder (events : List SentinelEvent) : List SentinelEvent :=
  events.mergeSort fun a b => decide (a.createdAt < b.createdAt ∨
    a.createdAt = b.createdAt ∧ a.eventId.str ≤ b.eventId.str)

/-- `_restore`. -/
def restore : LiveReadProgram (List SentinelEvent) := do
  let pages := worker.limits.maximumRecoverySnapshots + 1
  change (SurveillanceStore.updateMemory fun memory => { memory with previous := .empty })
  let (count, repaired) ← worker.restoreTable .marketSnapshots pages none 0 []
  let (_, repaired) ← worker.restoreTable .optionSnapshots pages none count repaired
  change (SurveillanceStore.updateMemory fun memory => { memory with restored := true })
  pure (inOrder repaired)

/-! ### A tick -/

/-- The options of a chain, each checked, and no instrument twice. -/
def observeChain (symbol : String) (cutoff : Time) : List Quote → List String →
    LiveReadProgram Unit
  | [], _ => pure ()
  | quote :: rest, instruments => do
    worker.validate quote symbol cutoff true
    let instrument := (quote.contract?.map OptionContract.instrumentId).getD ""
    raiseIf (instruments.contains instrument)
      (.dataInvalid "duplicate option instrument in one chain")
    observeChain symbol cutoff rest (instruments ++ [instrument])

def observe (cutoff : Time) : List String → LiveReadProgram (List Quote)
  | [] => pure []
  | symbol :: rest => do
    let equity ← ask (.getEquityQuote symbol cutoff)
    worker.validate equity symbol cutoff false
    let answer ← ask (.getOptionChain symbol cutoff)
    match answer with
    | none => raise (.dataInvalid "option chain is empty or exceeds its budget")
    | some chain => do
      raiseIf (decide (¬ (1 ≤ chain.length ∧
          chain.length ≤ worker.limits.maximumOptionsPerSymbol)))
        (.dataInvalid "option chain is empty or exceeds its budget")
      worker.observeChain symbol cutoff chain []
      let others ← observe cutoff rest
      pure (equity :: chain ++ others)

/-- A slow later request must not make earlier stale quotes look fresh. -/
def revalidate (cutoff : Time) : List Quote → LiveReadProgram Unit
  | [] => pure ()
  | quote :: rest => do
    worker.validate quote quote.symbol cutoff quote.isOption
    revalidate cutoff rest

def scanned : LiveReadProgram (List SentinelEvent) := do
  worker.guard
  let healthy ← ask .healthcheck
  raiseIf (!healthy) (.safetyCritical "market surveillance requires writable audit storage")
  let restored ← peek fun g => g.memory.restored
  let repaired ← if restored then pure [] else worker.restore
  let cutoff ← peek SurveillanceStore.now
  let observations ← worker.observe cutoff worker.watchlist
  worker.revalidate cutoff observations
  let events ← worker.persistAll observations repaired
  ask (.appendHealth true observations.length events.length "")
  change fun g => g.updateMemory fun memory =>
    { memory with
      lastSuccessfulQuotes := observations
      lastSuccessfulAt := some g.now
      lastScanHealthy := true }
  pure events

/-- What an exception of a tick leads to. -/
def failed (e : Exc) : LiveReadProgram (List SentinelEvent) :=
  if e = .cancelled then do
    change (SurveillanceStore.updateMemory fun memory => { memory with restored := false })
    raise e
  else if e.isException then do
    change (SurveillanceStore.updateMemory fun memory => { memory with restored := false })
    attempt (ask (.appendHealth false 0 0 e.typeName)) fun second =>
      if second.isException then
        change (SurveillanceStore.updateMemory fun memory =>
          { memory with lastScanHealthy := false })
      else raise second
    if e.isSafetyCritical then
      raise (.safetyCritical "read-only market scan failed its safety checks")
    else if e.isDataInvalid then
      raise (.dataInvalid "read-only market scan received invalid evidence")
    else raise (.transient "read-only market scan failed or exceeded its deadline")
  else raise e

def tick : LiveReadProgram (List SentinelEvent) := do
  change (SurveillanceStore.updateMemory fun memory => { memory with lastScanHealthy := false })
  attempt worker.scanned failed

/-! ### What the calls do -/

/-- The events this worker may store. -/
def ours (row : Stored Payload) : Bool :=
  worker.binding.owns row && match row.payload.get? "deduplication_key" with
    | some (.str text) => ("live-read:" ++ worker.key ++ ":").toList.isPrefixOf text.toList
    | _ => false

end LiveReadSurveillanceWorker

namespace SurveillanceStore

/-- A new process has nothing in memory. -/
def restart (g : SurveillanceStore) : SurveillanceStore := { g with memory := {} }

/-- An interrupt ends the process. -/
def after (e : Exc) (g : SurveillanceStore) : SurveillanceStore :=
  if e = .interrupt then g.restart else g

end SurveillanceStore

namespace LiveReadSurveillanceWorker

variable (worker : LiveReadSurveillanceWorker)

/-- What others do: they write rows of their own, and the clock and the provider change. -/
structure Others (g g' : SurveillanceStore) : Prop where
  snapshots : ∀ table, AuditRow.Grows worker.keeps (g.snapshots table) (g'.snapshots table)
  sentinelEvents : AuditRow.Grows worker.ours g.sentinelEvents g'.sentinelEvents
  memory : g'.memory = g.memory

/-- The answer of a read. -/
def Answers : (op : LiveReadOp) → SurveillanceStore → LiveReadAns op → Prop
  | .listObservations table before, g, rows =>
    rows = AuditRow.listPayloads worker.keeps 1000 before (g.snapshots table)
  | .findObservation table key, g, row =>
    row = AuditRow.findPayload (worker.keepsUnder key) (g.snapshots table)
  | .findEvent key, g, row => row = AuditRow.findPayload (worker.announces key) g.sentinelEvents
  | _, _, _ => True

/-- The effect of a call, once it is committed. -/
def Commits : LiveReadOp → SurveillanceStore → SurveillanceStore → Prop
  | .appendObservation table stored, g, g' => ∃ rows,
    AuditRow.Appended { createdAt := stored.createdAt, payload := stored } (g.snapshots table)
      rows ∧ g' = { g with snapshots := Function.update g.snapshots table rows }
  | .appendEvent event, g, g' => ∃ rows,
    AuditRow.Appended (worker.binding.row event.createdAt (worker.document event))
      g.sentinelEvents rows ∧ g' = { g with sentinelEvents := rows }
  | _, g, g' => g' = g

/-- The calls of a tick; one that fails may have been committed. -/
def service : Service SurveillanceStore Exc LiveReadAns where
  others := worker.Others
  answers := worker.Answers
  commits := worker.Commits
  after := SurveillanceStore.after

abbrev rely := worker.service.rely

/-- Between two ticks the process may end and another one begin. -/
def idle (g g' : SurveillanceStore) : Prop :=
  ∃ g₁, worker.Others g g₁ ∧ (g' = g₁ ∨ g' = g₁.restart)

end LiveReadSurveillanceWorker
end Sentry
