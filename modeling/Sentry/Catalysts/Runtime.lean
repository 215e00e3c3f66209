import Sentry.Catalysts.EntityMapping
import Sentry.Db.Paging
import Sentry.Domain.Exceptions
import Sentry.Support.Services

/-!
# Ingestion of public sources

`CatalystIngestionWorker` of `app/catalysts/runtime.py`: a poll first goes through the stored
documents and stores the events that are missing, then fetches every source and stores what is
new. A document and its event are separate writes.

Every repository call and every fetch may fail, and a failed write may have been committed. The
tables are shared: others store rows too.
-/
namespace Sentry

open Support Coroutine

variable {rt : SourceRuntime}

/-- The arguments of the constructor, as it accepts them. -/
structure CatalystIngestionWorker (rt : SourceRuntime) where
  mapper : ExplicitIssuerMapper rt
  binding : RepositoryBinding
  /-- `publication.isoformat()`. -/
  isoformat : Time → String
  maximumEventAge : Time := 604800000000
  live : binding.demoBackend ≠ some .offlineSim
  maximumEventAge_pos : 0 < maximumEventAge

/-- A row of `health_events`, without its constant fields. -/
structure SourceHealth where
  createdAt : Time
  sourceId : String
  startedAt : Time
  failureType : Option String
  documentsReceived : ℕ
  newEvents : ℕ
  repairedEvents : ℕ
  sourceConfigVersion : String

def SourceHealth.healthy (health : SourceHealth) : Bool := health.failureType.isNone

structure CatalystStore (rt : SourceRuntime) where
  sourceDocuments : List (AuditRow (Stored Payload))
  sentinelEvents : List (AuditRow (Stored Payload))
  now : Time
  /-- The identifier that would be drawn next. -/
  draw : rt.Identifier

inductive CatalystOp (rt : SourceRuntime) where
  | healthcheck
  | listDocuments (beforeSequence : Option ℕ)
  | findDocument (documentId : String)
  | findEvent (eventId : String)
  | appendDocument (document : SourceDocument rt)
  | appendEvent (event : SentinelEvent)
  | appendHealth (health : SourceHealth)
  | fetch (source : OfficialSourceConfig)

abbrev CatalystAns (rt : SourceRuntime) : CatalystOp rt → Type
  | .healthcheck => Bool
  | .listDocuments _ => List (AuditRow (Stored Payload))
  | .findDocument _ => Option (AuditRow (Stored Payload))
  | .findEvent _ => Option (AuditRow (Stored Payload))
  | .appendDocument _ => Unit
  | .appendEvent _ => Unit
  | .appendHealth _ => Unit
  | .fetch _ => List (SourceDocument rt)

abbrev CatalystProgram (rt : SourceRuntime) (α : Type) :=
  Coroutine (CatalystStore rt) Exc (CatalystAns rt) α

namespace CatalystIngestionWorker

variable (worker : CatalystIngestionWorker rt)

abbrev config : SourcesConfig worker.mapper.names := worker.mapper.config

def ask (op : CatalystOp rt) : CatalystProgram rt (CatalystAns rt op) := call op

/-! ### One document -/

/-- The identity of the event of a document, under the configured mapping. -/
def eventId (documentId : String) : UUID :=
  rt.hashing.uuid5 NAMESPACE_URL ("official-source-event-v2:" ++
    worker.binding.idempotencyNamespace ++ ":" ++ documentId ++ ":" ++ worker.mapper.configDigest)

/-- The publication of a document that is known, not in the future and not too old. -/
def publication (document : SourceDocument rt) (now : Time) : Option Time :=
  (document.publicationTime.map Subtype.val).filter fun publication =>
    decide (0 ≤ now - publication ∧ now - publication ≤ worker.maximumEventAge)

def event (documentId : String) (document : SourceDocument rt) (mapping : SourceEntityMapping)
    (publication now : Time) : SentinelEvent where
  eventId := worker.eventId documentId
  createdAt := now
  eventType := "official_source_document"
  source := document.sourceId
  effectiveAt := now
  tickers := match mapping.status, mapping.mappedTicker with
    | .mapped, some ticker => [ticker]
    | _, _ => []
  severity := 1
  deduplicationKey := rt.hashing.sha256Json (.obj
    [("document", .str document.deduplicationKey),
      ("entity_mapping", .str mapping.mappingConfigDigest)])
  rawReferenceIds := [documentId]
  payload :=
    [("data_mode", .str "LIVE_READ"),
      ("publication_time", .str (worker.isoformat publication)),
      ("content_hash", .str document.contentHash),
      ("untrusted_external_text", .bool true),
      ("entity_mapping", mapping.dump)]

/-- A row as a document. -/
def readRow (row : AuditRow (Stored Payload)) : CatalystProgram rt (SourceDocument rt) := do
  let draw ← peek CatalystStore.draw
  match SourceDocument.modelValidate rt draw row.payload.payload with
  | some document => pure document
  | none => raise (.unlisted "ValidationError")

/-- The document that is stored under the identifier, which is the earliest observation. -/
def durable (document : SourceDocument rt) : CatalystProgram rt (SourceDocument rt) := do
  match ← ask (.findDocument document.storedId.val.str) with
  | none => do
    ask (.appendDocument document.stored)
    pure document.stored
  | some existing => readRow existing

/-- The event of a stored document. -/
def announce (documentId : String) (document : SourceDocument rt) (now : Time) :
    CatalystProgram rt Bool := do
  let mapping ← lift (worker.mapper.map document)
  match worker.publication document now with
  | none => pure false
  | some publication => do
    match ← ask (.findEvent (worker.eventId documentId).str) with
    | some _ => pure false
    | none => do
      ask (.appendEvent (worker.event documentId document mapping publication now))
      pure true

/-- `_persist`. -/
def persist (document : SourceDocument rt) : CatalystProgram rt Bool := do
  let now ← peek CatalystStore.now
  raiseIf (decide (now < document.fetchedAt.val))
    (.dataInvalid "source fetch timestamp lies in the future")
  let known ← durable document
  worker.announce document.storedId.val.str known now

/-! ### Repair -/

/-- `enabled`. -/
def enabled : List String :=
  (worker.config.officialSources.filter OfficialSourceConfig.enabled).map OfficialSourceConfig.id

def repairRow (row : AuditRow (Stored Payload)) (repaired : Dict String ℕ) :
    CatalystProgram rt (Dict String ℕ) := do
  let document ← readRow row
  if document.sourceId ∈ worker.enabled then do
    let created ← worker.persist document
    pure (if created then
      repaired.set document.sourceId ((repaired.get? document.sourceId).getD 0 + 1) else repaired)
  else pure repaired

def repairRows : List (AuditRow (Stored Payload)) → Dict String ℕ →
    CatalystProgram rt (Dict String ℕ)
  | [], repaired => pure repaired
  | row :: rest, repaired => do
    let repaired ← worker.repairRow row repaired
    repairRows rest repaired

/-- The pages of stored documents, newest first. -/
def repairPages : ℕ → Option ℕ → Dict String ℕ → CatalystProgram rt (Dict String ℕ)
  | 0, _, _ => raise (.safetyCritical "source outbox scan exceeds durable recovery bound")
  | pages + 1, before, repaired => do
    let rows ← ask (.listDocuments before)
    let repaired ← worker.repairRows rows repaired
    if rows.length < 1000 then pure repaired
    else repairPages pages (some (minSequence rows)) repaired

/-- `_repair_events`. -/
def repairEvents : CatalystProgram rt (Dict String ℕ) := worker.repairPages 100 none .empty

/-! ### A poll -/

def persistAll : List (SourceDocument rt) → ℕ → CatalystProgram rt ℕ
  | [], created => pure created
  | document :: rest, created => do
    let new ← worker.persist document
    persistAll rest (if new then created + 1 else created)

/-- What was fetched, or the class of the failure. -/
def fetched (source : OfficialSourceConfig) :
    CatalystProgram rt (List (SourceDocument rt) × Option String) :=
  attempt
    (do
      let documents ← ask (.fetch source)
      pure (documents, none))
    fun e => if e.isDataInvalid || e.isTransient then pure ([], some e.typeName) else raise e

def pollSource (source : OfficialSourceConfig) (repaired : Dict String ℕ) :
    CatalystProgram rt Unit := do
  let started ← peek CatalystStore.now
  let (documents, failure) ← fetched source
  let created ← worker.persistAll (deduplicateDocuments documents) 0
  let now ← peek CatalystStore.now
  ask (.appendHealth
    { createdAt := now
      sourceId := source.id
      startedAt := started
      failureType := failure
      documentsReceived := documents.length
      newEvents := created
      repairedEvents := (repaired.get? source.id).getD 0
      sourceConfigVersion := worker.config.version })

def pollSources (repaired : Dict String ℕ) :
    List OfficialSourceConfig → CatalystProgram rt Unit
  | [] => pure ()
  | source :: rest =>
    if source.enabled then do
      worker.pollSource source repaired
      pollSources repaired rest
    else pollSources repaired rest

def poll : CatalystProgram rt Unit := do
  let healthy ← ask .healthcheck
  raiseIf (!healthy) (.safetyCritical "source ingestion requires writable audit storage")
  let repaired ← worker.repairEvents
  worker.pollSources repaired worker.config.officialSources

/-! ### What the calls do -/

/-- The documents under an identifier. -/
def keepsUnder (documentId : String) (row : Stored Payload) : Bool :=
  row.payload.has "document_id" documentId

/-- The documents that were read from live sources. -/
def liveRead (row : Stored Payload) : Bool := row.payload.has "data_mode" "LIVE_READ"

/-- The events under an identifier that the bound repository sees. -/
def announces (eventId : String) (row : Stored Payload) : Bool :=
  worker.binding.owns row && row.payload.has "event_id" eventId

/-- The events this worker may store. -/
def ours (row : Stored Payload) : Bool :=
  worker.binding.owns row && row.payload.has "event_type" "official_source_document"

/-- What others do: they store events of other kinds or elsewhere, and documents among the
`foreign` ones. The clock does not go back. -/
structure Others (foreign : Stored Payload → Bool) (g g' : CatalystStore rt) : Prop where
  sourceDocuments : AuditRow.Grows (fun row => !foreign row) g.sourceDocuments g'.sourceDocuments
  sentinelEvents : AuditRow.Grows worker.ours g.sentinelEvents g'.sentinelEvents
  now : g.now ≤ g'.now

/-- The answer of a read; a fetch may give any documents. -/
def Answers : (op : CatalystOp rt) → CatalystStore rt → CatalystAns rt op → Prop
  | .listDocuments before, g, rows =>
    rows = AuditRow.listPayloads liveRead 1000 before g.sourceDocuments
  | .findDocument documentId, g, row =>
    row = AuditRow.findPayload (keepsUnder documentId) g.sourceDocuments
  | .findEvent eventId, g, row =>
    row = AuditRow.findPayload (worker.announces eventId) g.sentinelEvents
  | _, _, _ => True

/-- The effect of a call, once it is committed. -/
def Commits : CatalystOp rt → CatalystStore rt → CatalystStore rt → Prop
  | .appendDocument document, g, g' => ∃ rows,
    AuditRow.Appended { createdAt := document.createdAt.val, payload := document.dump }
      g.sourceDocuments rows ∧ g' = { g with sourceDocuments := rows }
  | .appendEvent event, g, g' => ∃ rows,
    AuditRow.Appended (worker.binding.row event.createdAt (event.dump rt.timestamp))
      g.sentinelEvents rows ∧ g' = { g with sentinelEvents := rows }
  | _, g, g' => g' = g

/-- The calls of a poll; one that fails may have been committed. -/
def service (foreign : Stored Payload → Bool) :
    Service (CatalystStore rt) Exc (CatalystAns rt) where
  others := worker.Others foreign
  answers := worker.Answers
  commits := worker.Commits
  after _ g := g

abbrev rely (foreign : Stored Payload → Bool) := (worker.service foreign).rely

end CatalystIngestionWorker
end Sentry
