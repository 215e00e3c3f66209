import Mathlib.Data.String.Basic
import Mathlib.Order.Bounds.Basic
import Sentry.Clock.Timestamps
import Sentry.Domain.Identifiers
import Sentry.Domain.Values
import Sentry.Market.Replay
import Sentry.Support.Ranking

/-!
# Candidate packets

`app/strategy/candidates.py`: a packet is built from the facts that the clock shows, and its
identity is the digest of what is in it. Facts are put in the order of their names and
identifiers in the order of their texts before anything is hashed. A packet is checked against a
clock by reading the times of its facts back from their texts.

What the libraries make of values is a parameter.
-/
namespace Sentry

open Support

inductive AttentionLevel where
  | background | watch | candidate | tradeWorthy | deepResearch | position
  deriving DecidableEq

def AttentionLevel.value : AttentionLevel → ℤ
  | .background => 0
  | .watch => 1
  | .candidate => 2
  | .tradeWorthy => 3
  | .deepResearch => 4
  | .position => 5

structure CandidateRuntime where
  /-- `canonical_json`, which raises on what has no canonical form. -/
  canonicalJson : AnyValue → Except Exc String
  sha256 : String → String
  /-- `uuid5` in the namespace of the packets. -/
  uuid5 : String → UUID
  /-- A value of any type in JSON mode. -/
  dump : AnyValue → Except Exc AnyValue
  dumpTime : Datetime → String
  uppercase : Char → List Char
  /-- Which objects are times. -/
  datetime : AnyLeaf → Option Datetime
  /-- The texts other than those of `isoformat` that can be read as times. -/
  otherFormats : String → Option Datetime

namespace CandidateRuntime

variable (py : CandidateRuntime)

def sha256Json (value : AnyValue) : Except Exc String := do
  let text ← py.canonicalJson value
  pure (py.sha256 text)

/-- `str.upper`. -/
def upper (s : String) : String := String.ofList (s.toList.flatMap py.uppercase)

end CandidateRuntime

/-! ### Values -/

section

variable (py : CandidateRuntime)

structure CandidateFact where
  factId : String
  value : AnyValue
  sourceId : String
  effectiveAt : Time
  observedAt : Time
  inference : Bool := false
  factId_length : 1 ≤ factId.length ∧ factId.length ≤ 128
  sourceId_length : 1 ≤ sourceId.length ∧ sourceId.length ≤ 256
  effectiveAt_representable : effectiveAt.Representable
  observedAt_representable : observedAt.Representable
  causally_ordered : effectiveAt ≤ observedAt
  serializable : ∃ text, py.canonicalJson value = .ok text

/-- `Sequence[CandidateFact] | Mapping[str, Any]`. -/
inductive CandidateFacts where
  | sequence (facts : List (CandidateFact py))
  | mapping (facts : Dict String AnyValue)

/-- The arguments of `build`. -/
structure PacketRequest where
  runId : UUID
  symbol : String
  attention : AttentionLevel
  surveillanceScore : Decimal
  facts : CandidateFacts py
  sourceIds : List String := []
  marketSnapshotIds : List WideUUID := []

end

structure CandidatePacket where
  createdAt : Time
  packetId : UUID
  runId : UUID
  symbol : String
  attention : AttentionLevel
  surveillanceScore : Decimal
  facts : Dict String AnyValue
  sourceIds : List String
  marketSnapshotIds : List WideUUID
  availableAt : Datetime
  surveillanceScore_range : 0 ≤ surveillanceScore.val ∧ surveillanceScore.val ≤ 100

/-- 64 hexadecimal digits. -/
def isDigest (text : String) : Bool :=
  text.length == 64 && text.toList.all fun c => c.isDigit || ('a' ≤ c && c ≤ 'f')

structure PacketManifest where
  packetHash : String
  canonicalBytes : ℕ
  estimatedTokens : ℕ
  factIds : List String
  packetHash_pattern : isDigest packetHash = true
  deriving DecidableEq

structure CandidatePacketBuilder where
  maximumEstimatedTokens : ℤ := 4000
  maximumEstimatedTokens_pos : 0 < maximumEstimatedTokens

/-! ### Building a packet -/

namespace Candidates

variable (py : CandidateRuntime)

def text (content : String) : AnyValue := .scalar (.str content)

def awareUtc (name : String) : Datetime → Except Exc Time
  | .aware utc => .ok utc
  | .naive _ => .error (.valueError (name ++ " must be timezone-aware"))

variable {py} in
/-- What a fact is in the map of facts. -/
def entry (fact : CandidateFact py) : AnyValue :=
  .mapping [(.str "value", fact.value), (.str "source_id", text fact.sourceId),
    (.str "effective_at", text fact.effectiveAt.isoformat),
    (.str "observed_at", text fact.observedAt.isoformat),
    (.str "inference", .scalar (.bool fact.inference))]

/-- A dictionary with texts as keys, as a value. -/
def mapping (facts : Dict String AnyValue) : AnyValue :=
  .mapping (facts.entries.map fun entry => (.str entry.1, entry.2))

/-- `except TypeError`. -/
def unserializable : Exc → Exc
  | .typeError _ => .valueError "facts are not canonically serializable"
  | e => e

def factMap (ordered : List (CandidateFact py)) : Dict String AnyValue :=
  Dict.ofPairs (ordered.map fun fact => (fact.factId, entry fact))

/-- The later of the two times of each fact, or the time of the clock. -/
def latest (ordered : List (CandidateFact py)) (now : Time) : Time :=
  ((ordered.map fun fact => max fact.effectiveAt fact.observedAt).max?).getD now

/-- `_normalize_facts`. -/
def normalizeFacts (now : Time) :
    CandidateFacts py → Except Exc (Dict String AnyValue × List String × Time)
  | .mapping facts => do
    let map := Dict.ofPairs (ranking Prod.fst facts.entries)
    if map.keys.contains "" then
      throw (.valueError "fact IDs cannot be empty")
    let _ ← (py.canonicalJson (mapping map)).mapError unserializable
    pure (map, [], now)
  | .sequence facts =>
    if ¬(facts.map CandidateFact.factId).Nodup then
      .error (.valueError "candidate fact IDs must be unique")
    else match facts.find? fun fact =>
        decide (fact.effectiveAt > now) || decide (fact.observedAt > now) with
      | some fact =>
        .error (.dataInvalid ("fact " ++ fact.factId ++ " is not available at the replay clock"))
      | none =>
        let ordered := ranking CandidateFact.factId facts
        .ok (factMap py ordered, ordered.map CandidateFact.sourceId, latest py ordered now)

/-- What a packet says, beside its identifier and the time at which it was made. -/
structure Contents where
  runId : UUID
  symbol : String
  attention : AttentionLevel
  surveillanceScore : Decimal
  facts : Dict String AnyValue
  sourceIds : List String
  marketSnapshotIds : List WideUUID
  availableAt : Time

def identityPayload (c : Contents) : AnyValue :=
  .mapping [(.str "run_id", text c.runId.str), (.str "symbol", text c.symbol),
    (.str "attention", .scalar (.int c.attention.value)),
    (.str "surveillance_score", text c.surveillanceScore.str), (.str "facts", mapping c.facts),
    (.str "source_ids", .tuple (c.sourceIds.map text)),
    (.str "market_snapshot_ids", .tuple (c.marketSnapshotIds.map fun id => text id.val.str)),
    (.str "available_at", .scalar (.object "datetime" (c.availableAt.isoformat ' ')))]

/-- `model_dump(mode="json", exclude={"created_at"})`. -/
def modelDump (packet : CandidatePacket) : Except Exc AnyValue := do
  let facts ← packet.facts.entries.mapM fun entry => do
    let value ← py.dump entry.2
    pure (AnyKey.str entry.1, value)
  pure (.mapping [(.str "packet_id", text packet.packetId.str), (.str "run_id", text packet.runId.str),
    (.str "symbol", text packet.symbol), (.str "attention", .scalar (.int packet.attention.value)),
    (.str "surveillance_score", text packet.surveillanceScore.str), (.str "facts", .mapping facts),
    (.str "source_ids", .list (packet.sourceIds.map text)),
    (.str "market_snapshot_ids", .list (packet.marketSnapshotIds.map fun id => text id.val.str)),
    (.str "available_at", text (py.dumpTime packet.availableAt))])

def contentHash (packet : CandidatePacket) : Except Exc String := do
  py.sha256Json (← modelDump py packet)

def inspectPacket (packet : CandidatePacket) : Except Exc PacketManifest := do
  let value ← modelDump py packet
  let encoded ← py.canonicalJson value
  let digest ← py.sha256Json value
  if pattern : isDigest digest = true then
    pure {
      packetHash := digest
      canonicalBytes := encoded.utf8ByteSize
      estimatedTokens := (encoded.utf8ByteSize + 2) / 3
      factIds := ranking id packet.facts.keys
      packetHash_pattern := pattern }
  else throw (.valueError "packet_hash does not match its pattern")

/-- `CandidatePacket(...)`. -/
def candidatePacket (now : Time) (packetId : UUID) (c : Contents) : Except Exc CandidatePacket :=
  if range : 0 ≤ c.surveillanceScore.val ∧ c.surveillanceScore.val ≤ 100 then
    .ok {
      createdAt := now
      packetId := packetId
      runId := c.runId
      symbol := c.symbol
      attention := c.attention
      surveillanceScore := c.surveillanceScore
      facts := c.facts
      sourceIds := c.sourceIds
      marketSnapshotIds := c.marketSnapshotIds
      availableAt := .aware c.availableAt
      surveillanceScore_range := range }
  else .error (.valueError "surveillance_score is out of range")

/-- The packet with some contents, if it is short enough. -/
def assemble (b : CandidatePacketBuilder) (now : Time) (c : Contents) :
    Except Exc CandidatePacket := do
  let digest ← py.sha256Json (identityPayload c)
  let packet ← candidatePacket now (py.uuid5 digest) c
  let manifest ← inspectPacket py packet
  if manifest.estimatedTokens > b.maximumEstimatedTokens then
    throw (.dataInvalid ("candidate packet estimate " ++ toString manifest.estimatedTokens ++
      " exceeds limit " ++ toString b.maximumEstimatedTokens))
  else pure packet

/-- `build`. -/
def build (b : CandidatePacketBuilder) (clock : Datetime) (request : PacketRequest py) :
    Except Exc CandidatePacket := do
  let now ← awareUtc "Clock.now()" clock
  let normalizedSymbol := py.upper (strip request.symbol)
  if normalizedSymbol = "" then
    throw (.valueError "symbol cannot be empty")
  else
    let (facts, derivedSources, availableAt) ← normalizeFacts py now request.facts
    assemble py b now {
      runId := request.runId
      symbol := normalizedSymbol
      attention := request.attention
      surveillanceScore := request.surveillanceScore
      facts := facts
      sourceIds := sortedSet id (request.sourceIds ++ derivedSources)
      marketSnapshotIds := sortedSet (fun id => id.val.str) request.marketSnapshotIds
      availableAt := availableAt }

/-! ### Availability -/

/-- One of the times of a fact, whatever it is. -/
def checkTime (now : Time) (factId key : String) (timestamp : Option AnyValue) : Except Exc Unit :=
  let timely (moment : Datetime) : Except Exc Unit := do
    let utc ← awareUtc key moment
    if utc > now then
      throw (.dataInvalid ("packet fact " ++ factId ++ " contains future " ++ key))
  match timestamp with
  | none | some (.scalar .none) => .ok ()
  | some (.scalar (.str written)) =>
    match fromisoformat py.otherFormats (withoutZulu written) with
    | none => .error (.valueError ("Invalid isoformat string: " ++ written))
    | some moment => timely moment
  | some (.scalar leaf) =>
    match py.datetime leaf with
    | none => .ok ()
    | some moment => timely moment
  | some _ => .ok ()

def checkFact (now : Time) (fact : String × AnyValue) : Except Exc Unit :=
  match fact.2 with
  | .mapping raw => do
    checkTime py now fact.1 "effective_at" (Dict.lookup (.str "effective_at") raw)
    checkTime py now fact.1 "observed_at" (Dict.lookup (.str "observed_at") raw)
  | _ => .ok ()

def validatePacketAvailability (packet : CandidatePacket) (clock : Datetime) : Except Exc Unit := do
  let now ← awareUtc "Clock.now()" clock
  let availableAt ← awareUtc "packet.available_at" packet.availableAt
  if availableAt > now then
    throw (.dataInvalid "candidate packet is not yet available to the injected clock")
  else packet.facts.entries.forM (checkFact py now)

end Candidates

end Sentry
