import Mathlib.Data.List.Sort
import Mathlib.Data.Prod.Lex
import Sentry.Domain.Models

/-!
# Market data and replay fixtures

`app/market/models.py` and the quotes of `app/domain/models.py`: what a replay fixture
holds and how its payloads are read. A payload is a JSON object. Which documents the
validation library takes for a number, a time, a date or an identifier, and how the
language maps a character to upper case, are parameters; which fields a record has, their
defaults and their bounds are not.
-/
namespace Sentry

/-! ### Payloads -/

abbrev Payload := List (String × Json)

/-- The value under a key; of two equal keys a parser keeps the last. -/
def Payload.get? (name : String) (payload : Payload) : Option Json :=
  (payload.reverse.find? fun entry => entry.1 == name).map Prod.snd

/-- A `datetime` as it is passed in, with or without a time zone. -/
inductive Datetime where
  | aware (utc : Time)
  | naive (wall : Time)
  deriving DecidableEq

/-- What the validation library and the language make of single values. -/
structure MarketRuntime where
  uuid : Json → Option UUID
  decimal : Json → Option ℚ
  integer : Json → Option ℤ
  datetime : Json → Option Datetime
  date : Json → Option Date
  /-- `str(value)` of a document that is not a text. -/
  str : Json → String
  /-- The full upper-case mapping of a character. -/
  uppercase : Char → List Char
  isoformat : Time → String
  uppercase_ne : ∀ c, uppercase c ≠ []

def Json.fields? : Json → Option Payload
  | .obj members => some members
  | _ => none

/-- A `str` field takes a text and nothing else. -/
def Json.strField : Json → Option String
  | .str s => some s
  | _ => none

namespace MarketRuntime

variable (py : MarketRuntime)

def text : Json → String
  | .str s => s
  | other => py.str other

/-- The time of a field that must carry a time zone. -/
def instant (document : Json) : Option Time :=
  match py.datetime document with
  | some (.aware utc) => some utc
  | _ => none

/-- A `Decimal` field with `ge=0`. -/
def amount (document : Json) : Option ℚ := (py.decimal document).filter fun q => decide (0 ≤ q)

/-- An `int` field with `ge=0`. -/
def count (document : Json) : Option ℕ :=
  ((py.integer document).filter fun n => decide (0 ≤ n)).map Int.toNat

end MarketRuntime

namespace Payload

/-- `extra="forbid"`: no other keys than these. -/
def declares (names : List String) (payload : Payload) : Bool :=
  payload.all fun entry => names.contains entry.1

def required {α : Type} (name : String) (read : Json → Option α) (payload : Payload) : Option α :=
  (payload.get? name).bind read

/-- A field that may be left out. -/
def defaulted {α : Type} (name : String) (default : α) (read : Json → Option α)
    (payload : Payload) : Option α :=
  match payload.get? name with
  | none => some default
  | some document => read document

/-- A field that may be left out or null. -/
def optional {α : Type} (name : String) (read : Json → Option α) (payload : Payload) :
    Option (Option α) :=
  match payload.get? name with
  | none | some .null => some none
  | some document => (read document).map some

end Payload

/-- A text of at least one and at most so many characters. -/
def boundedText (limit : ℕ) (document : Json) : Option String :=
  document.strField.filter fun s => decide (1 ≤ s.length ∧ s.length ≤ limit)

/-! ### The records -/

structure EquityQuote where
  snapshotId : UUID
  symbol : String
  bid : ℚ
  ask : ℚ
  last : ℚ
  volume : ℕ
  metadata : ProviderMetadata
  valid_market : ask ≠ 0 → bid ≤ ask := by norm_num

/-- Two quotes with the same figures are one quote. -/
instance : DecidableEq EquityQuote := fun a b =>
  decidable_of_iff (a.snapshotId = b.snapshotId ∧ a.symbol = b.symbol ∧ a.bid = b.bid ∧
      a.ask = b.ask ∧ a.last = b.last ∧ a.volume = b.volume ∧ a.metadata = b.metadata) (by
    cases a
    cases b
    simp)

structure PriceBar where
  symbol : String
  timeframe : String
  startsAt : Time
  endsAt : Time
  open_ : ℚ
  high : ℚ
  low : ℚ
  close : ℚ
  volume : ℕ
  metadata : ProviderMetadata
  /-- `valid_bar`. -/
  valid_bar : startsAt < endsAt ∧ max open_ (max close low) ≤ high ∧
    low ≤ min open_ (min close high) ∧ metadata.effectiveAt = endsAt
  deriving DecidableEq

section Validation

variable (py : MarketRuntime)

def ProviderMetadata.modelValidate (document : Json) : Option ProviderMetadata := do
  let fields ← document.fields?
  guard (fields.declares
    ["provider", "capability_version", "observed_at", "effective_at", "source_id"])
  let provider ← fields.required "provider" Json.strField
  let capabilityVersion ← fields.required "capability_version" Json.strField
  let observedAt ← fields.required "observed_at" py.instant
  let effectiveAt ← fields.required "effective_at" py.instant
  let sourceId ← fields.optional "source_id" Json.strField
  pure { provider, capabilityVersion, observedAt, effectiveAt, sourceId }

def OptionType.modelValidate : Json → Option OptionType
  | .str "call" => some .call
  | .str "put" => some .put
  | _ => none

def OptionContract.modelValidate (document : Json) : Option OptionContract := do
  let fields ← document.fields?
  guard (fields.declares
    ["instrument_id", "symbol", "option_type", "strike", "expiration", "multiplier"])
  let instrumentId ← fields.required "instrument_id" Json.strField
  let symbol ← fields.required "symbol" (boundedText 12)
  let optionType ← fields.required "option_type" OptionType.modelValidate
  let strike ← fields.required "strike" py.decimal
  let expiration ← fields.required "expiration" py.date
  let multiplier ← fields.defaulted "multiplier" 100 py.integer
  if valid : instrumentId ≠ "" ∧ 0 < strike ∧ 0 < multiplier then
    some
      { instrumentId, symbol, optionType, strike, expiration, multiplier
        instrumentId_ne := valid.1
        strike_pos := valid.2.1
        multiplier_pos := valid.2.2 }
  else none

/-- `EquityQuote.model_validate`; a missing snapshot identifier is drawn. -/
def EquityQuote.modelValidate (draw : UUID) (fields : Payload) : Option EquityQuote := do
  guard (fields.declares ["snapshot_id", "symbol", "bid", "ask", "last", "volume", "metadata"])
  let snapshotId ← fields.defaulted "snapshot_id" draw py.uuid
  let symbol ← fields.required "symbol" (boundedText 12)
  let bid ← fields.required "bid" py.amount
  let ask ← fields.required "ask" py.amount
  let last ← fields.required "last" py.amount
  let volume ← fields.required "volume" py.count
  let metadata ← fields.required "metadata" (ProviderMetadata.modelValidate py)
  if valid : ask ≠ 0 → bid ≤ ask then
    some { snapshotId, symbol, bid, ask, last, volume, metadata, valid_market := valid }
  else none

/-- The market fields of an option quote, all but its identifier. -/
def OptionQuote.modelValidateFields (fields : Payload) : Option (UUID → OptionQuote) := do
  guard (fields.declares
    ["snapshot_id", "contract", "bid", "ask", "last", "mark", "volume", "open_interest",
      "implied_volatility", "delta", "bid_size", "ask_size", "metadata"])
  let contract ← fields.required "contract" (OptionContract.modelValidate py)
  let bid ← fields.required "bid" py.decimal
  let ask ← fields.required "ask" py.decimal
  let last ← fields.optional "last" py.amount
  let mark ← fields.optional "mark" py.amount
  let volume ← fields.optional "volume" py.count
  let openInterest ← fields.optional "open_interest" py.count
  let impliedVolatility ← fields.optional "implied_volatility" py.amount
  let delta ← fields.optional "delta" py.decimal
  let bidSize ← fields.optional "bid_size" py.count
  let askSize ← fields.optional "ask_size" py.count
  let metadata ← fields.required "metadata" (ProviderMetadata.modelValidate py)
  if valid : 0 ≤ bid ∧ 0 ≤ ask ∧ (ask ≠ 0 → bid ≤ ask) then
    some fun snapshotId =>
      { snapshotId, contract, bid, ask, last, mark, volume, openInterest, impliedVolatility, delta
        bidSize, askSize, metadata
        bid_nonneg := valid.1
        ask_nonneg := valid.2.1
        valid_market := valid.2.2 }
  else none

/-- `OptionQuote.model_validate`; a missing snapshot identifier is drawn. -/
def OptionQuote.modelValidate (draw : UUID) (fields : Payload) : Option OptionQuote := do
  let snapshotId ← fields.defaulted "snapshot_id" draw py.uuid
  let quote ← OptionQuote.modelValidateFields py fields
  pure (quote snapshotId)

def PriceBar.modelValidate (fields : Payload) : Option PriceBar := do
  guard (fields.declares
    ["symbol", "timeframe", "starts_at", "ends_at", "open", "high", "low", "close", "volume",
      "metadata"])
  let symbol ← fields.required "symbol" (boundedText 12)
  let timeframe ← fields.required "timeframe" (boundedText 16)
  let startsAt ← fields.required "starts_at" py.instant
  let endsAt ← fields.required "ends_at" py.instant
  let open_ ← fields.required "open" py.amount
  let high ← fields.required "high" py.amount
  let low ← fields.required "low" py.amount
  let close ← fields.required "close" py.amount
  let volume ← fields.required "volume" py.count
  let metadata ← fields.required "metadata" (ProviderMetadata.modelValidate py)
  if valid : startsAt < endsAt ∧ max open_ (max close low) ≤ high ∧
      low ≤ min open_ (min close high) ∧ metadata.effectiveAt = endsAt then
    some
      { symbol, timeframe, startsAt, endsAt, open_, high, low, close, volume, metadata
        valid_bar := valid }
  else none

end Validation

structure EquityScanRequest where
  symbols : List String := []
  minimumPrice : Option ℚ := none
  maximumPrice : Option ℚ := none
  minimumVolume : Option ℕ := none
  limit : ℕ := 100
  limit_bounds : 1 ≤ limit ∧ limit ≤ 10000 := by decide
  price_range_is_ordered : ∀ low ∈ minimumPrice, ∀ high ∈ maximumPrice, low ≤ high := by simp

/-! ### Fixtures -/

inductive ReplayKind where
  | equityQuote | optionQuote | bar
  deriving DecidableEq, Repr

def ReplayKind.value : ReplayKind → String
  | .equityQuote => "equity_quote"
  | .optionQuote => "option_quote"
  | .bar => "bar"

structure ReplayRecord where
  sequence : ℕ
  kind : ReplayKind
  observedAt : Time
  effectiveAt : Time
  payload : Payload
  observation_is_not_early : effectiveAt ≤ observedAt := by decide

namespace ReplayRecord

def availableAt (record : ReplayRecord) : Time := max record.observedAt record.effectiveAt

/-- A record is never observed before it is effective. -/
@[simp] theorem availableAt_eq (record : ReplayRecord) : record.availableAt = record.observedAt :=
  max_eq_left record.observation_is_not_early

/-- `sorted(records, key=lambda item: item.sequence)`. -/
def inSequence (records : List ReplayRecord) : List ReplayRecord :=
  records.insertionSort fun a b => a.sequence ≤ b.sequence

end ReplayRecord

structure ReplayFixture where
  version : String
  provider : String
  capabilityVersion : String
  records : List ReplayRecord
  version_ne : version ≠ "" := by simp
  provider_ne : provider ≠ "" := by simp
  capabilityVersion_ne : capabilityVersion ≠ "" := by simp
  sequences_unique : (records.map ReplayRecord.sequence).Nodup
  /-- Sequence follows the order of observation. -/
  deterministic_order :
    (ReplayRecord.inSequence records).IsChain fun a b => a.observedAt ≤ b.observedAt

namespace ReplayFixture

/-- The records in the order of their sequence. -/
def ordered (fixture : ReplayFixture) : List ReplayRecord :=
  ReplayRecord.inSequence fixture.records

theorem mem_ordered {fixture : ReplayFixture} {record : ReplayRecord} :
    record ∈ fixture.ordered ↔ record ∈ fixture.records := by
  simp [ordered, ReplayRecord.inSequence]

theorem ordered_nodup (fixture : ReplayFixture) :
    (fixture.ordered.map ReplayRecord.sequence).Nodup := by
  have perm : fixture.ordered.Perm fixture.records := List.perm_insertionSort _ _
  exact (perm.map _).nodup_iff.mpr fixture.sequences_unique

/-- Distinct sequence numbers make the order of the records strict. -/
theorem ordered_sequence (fixture : ReplayFixture) :
    fixture.ordered.Pairwise fun a b => a.sequence < b.sequence := by
  have sorted : fixture.ordered.Pairwise fun a b => a.sequence ≤ b.sequence := by
    have : Std.Total fun a b : ReplayRecord => a.sequence ≤ b.sequence :=
      ⟨fun a b => Nat.le_total a.sequence b.sequence⟩
    have : IsTrans ReplayRecord fun a b => a.sequence ≤ b.sequence :=
      ⟨fun _ _ _ first second => Nat.le_trans first second⟩
    exact List.pairwise_insertionSort _ _
  have distinct := List.pairwise_map.mp fixture.ordered_nodup
  exact (sorted.and distinct).imp fun both => Nat.lt_of_le_of_ne both.1 both.2

theorem ordered_observed (fixture : ReplayFixture) :
    fixture.ordered.Pairwise fun a b => a.observedAt ≤ b.observedAt := by
  have : IsTrans ReplayRecord fun a b => a.observedAt ≤ b.observedAt :=
    ⟨fun _ _ _ first second => Int.le_trans first second⟩
  exact List.isChain_iff_pairwise.mp fixture.deterministic_order

end ReplayFixture
end Sentry
