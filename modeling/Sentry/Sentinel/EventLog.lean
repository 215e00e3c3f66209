import Sentry.Db.Repository
import Sentry.Sentinel.Offline

/-!
# The event log

The table `sentinel_events` as its writers and readers share it: a row with its columns, the
JSON payload of an event, and how a payload is read back as an event. The validation library
draws an identifier where a payload leaves it out.
-/
namespace Sentry

/-! ### Equal documents -/

mutual

/-- Equality of documents whose members are in the order in which they were written. -/
def Json.same : Json → Json → Bool
  | .null, .null => true
  | .bool a, .bool b => a == b
  | .int m, .int n => m == n
  | .number p, .number q => p == q
  | .infinity a, .infinity b => a == b
  | .nan, .nan => true
  | .str s, .str t => s == t
  | .arr xs, .arr ys => Json.sameItems xs ys
  | .obj xs, .obj ys => Json.sameMembers xs ys
  | _, _ => false

def Json.sameItems : List Json → List Json → Bool
  | [], [] => true
  | x :: xs, y :: ys => x.same y && Json.sameItems xs ys
  | _, _ => false

def Json.sameMembers : List (String × Json) → List (String × Json) → Bool
  | [], [] => true
  | (k, x) :: xs, (j, y) :: ys => k == j && x.same y && Json.sameMembers xs ys
  | _, _ => false

end

mutual

theorem Json.same_iff : (a b : Json) → (a.same b = true ↔ a = b)
  | .null, b => by cases b <;> simp [Json.same]
  | .bool a, b => by cases b <;> simp [Json.same]
  | .int n, b => by cases b <;> simp [Json.same]
  | .number q, b => by cases b <;> simp [Json.same]
  | .infinity a, b => by cases b <;> simp [Json.same]
  | .nan, b => by cases b <;> simp [Json.same]
  | .str s, b => by cases b <;> simp [Json.same]
  | .arr xs, b => by cases b <;> simp [Json.same, Json.sameItems_iff xs]
  | .obj xs, b => by cases b <;> simp [Json.same, Json.sameMembers_iff xs]

theorem Json.sameItems_iff : (xs ys : List Json) → (Json.sameItems xs ys = true ↔ xs = ys)
  | [], ys => by cases ys <;> simp [Json.sameItems]
  | x :: xs, ys => by
    cases ys with
    | nil => simp [Json.sameItems]
    | cons y ys => simp [Json.sameItems, Json.same_iff x y, Json.sameItems_iff xs ys]

theorem Json.sameMembers_iff :
    (xs ys : List (String × Json)) → (Json.sameMembers xs ys = true ↔ xs = ys)
  | [], ys => by cases ys <;> simp [Json.sameMembers]
  | (k, x) :: xs, ys => by
    cases ys with
    | nil => simp [Json.sameMembers]
    | cons y ys =>
      obtain ⟨j, y⟩ := y
      simp [Json.sameMembers, Json.same_iff x y, Json.sameMembers_iff xs ys, and_assoc]

end

instance : DecidableEq Json := fun a b => decidable_of_iff (a.same b = true) (Json.same_iff a b)

deriving instance DecidableEq for SentinelEvent

/-! ### Rows -/

/-- A row's columns beside its sequence; shared tables have no environment and namespace. -/
structure Stored (α : Type) where
  createdAt : Time
  environment : Option String := none
  namespace_ : Option String := none
  payload : α
  deriving DecidableEq

namespace RepositoryBinding

variable (binding : RepositoryBinding) {α : Type}

/-- The rows of an environment table that the bound repository sees. -/
def owns (row : Stored α) : Bool :=
  row.environment == some binding.environment.value &&
    row.namespace_ == some binding.idempotencyNamespace

/-- A row as `append` stores it in an environment table. -/
def row (createdAt : Time) (payload : α) : Stored α where
  createdAt
  environment := some binding.environment.value
  namespace_ := some binding.idempotencyNamespace
  payload

@[simp] theorem owns_row (createdAt : Time) (payload : α) :
    binding.owns (binding.row createdAt payload) = true := by
  simp [owns, row]

end RepositoryBinding

/-- `payload.get(key) == value`. -/
def Payload.has (key value : String) (payload : Payload) : Bool :=
  payload.get? key == some (.str value)

/-! ### Events as documents -/

namespace SentinelEvent

/-- `event.model_dump(mode="json")`. -/
def dump (isoformat : Time → String) (event : SentinelEvent) : Payload :=
  [("created_at", .str (isoformat event.createdAt)),
    ("event_id", .str event.eventId.str),
    ("event_type", .str event.eventType),
    ("source", .str event.source),
    ("effective_at", .str (isoformat event.effectiveAt)),
    ("tickers", .arr (event.tickers.map .str)),
    ("severity", .int event.severity),
    ("deduplication_key", .str event.deduplicationKey),
    ("raw_reference_ids", .arr (event.rawReferenceIds.map .str)),
    ("payload", .obj event.payload)]

/-- A tuple of texts. -/
def texts : Json → Option (List String)
  | .arr items => items.mapM Json.strField
  | _ => none

/-- `SentinelEvent.model_validate`. -/
def modelValidate (py : MarketRuntime) (draw : UUID) (fields : Payload) :
    Option SentinelEvent := do
  guard (fields.declares
    ["created_at", "event_id", "event_type", "source", "effective_at", "tickers", "severity",
      "deduplication_key", "raw_reference_ids", "payload"])
  let createdAt ← fields.required "created_at" py.instant
  let eventId ← fields.defaulted "event_id" draw py.uuid
  let eventType ← fields.required "event_type" Json.strField
  let source ← fields.required "source" Json.strField
  let effectiveAt ← fields.required "effective_at" py.instant
  let tickers ← fields.defaulted "tickers" [] texts
  let severity ← fields.required "severity" py.count
  guard (severity ≤ 5)
  let deduplicationKey ← fields.required "deduplication_key" Json.strField
  let rawReferenceIds ← fields.defaulted "raw_reference_ids" [] texts
  let payload ← fields.defaulted "payload" [] Json.fields?
  pure
    { createdAt, eventId, eventType, source, effectiveAt, tickers, severity, deduplicationKey
      rawReferenceIds, payload }

section Fields

variable (isoformat : Time → String) (event : SentinelEvent)

@[simp] theorem dump_eventId :
    (event.dump isoformat).get? "event_id" = some (.str event.eventId.str) := by
  simp [dump, Payload.get?]

@[simp] theorem dump_deduplicationKey :
    (event.dump isoformat).get? "deduplication_key" = some (.str event.deduplicationKey) := by
  simp [dump, Payload.get?]

@[simp] theorem dump_rawReferenceIds :
    (event.dump isoformat).get? "raw_reference_ids" =
      some (.arr (event.rawReferenceIds.map .str)) := by
  simp [dump, Payload.get?]

@[simp] theorem dump_payload :
    (event.dump isoformat).get? "payload" = some (.obj event.payload) := by
  simp [dump, Payload.get?]

end Fields

end SentinelEvent

/-- Members that are written after the others are looked up first. -/
theorem Payload.get?_append (name : String) (first more : Payload) :
    Payload.get? name (first ++ more) = (more.get? name).or (first.get? name) := by
  unfold Payload.get?
  rw [List.reverse_append, List.find?_append, Option.map_or]

end Sentry
