import Mathlib.Data.List.Forall2
import Mathlib.Data.Rat.Defs
import Mathlib.Tactic.NormNum
import Sentry.Support.Decimal

/-!
# Domain values

The enumerations of `app/domain/enums.py` and the records of
`app/domain/models.py` that the ledger, the brokers and the execution service
exchange. A field constraint that the source validates on construction is a
proof field here, so a record that breaks it cannot be built. `Decimal` stands
where the source prints the number (it is hashed or versioned as text) and `ℚ`
where it only computes with it. Times are microseconds and dates are ordinal
days, both UTC-based integers.
-/
namespace Sentry

open Support

abbrev Time := ℤ
abbrev Date := ℤ

/-! ### Enumerations -/

inductive ExecutionEnvironment where
  | demo | live
  deriving DecidableEq, Repr

def ExecutionEnvironment.value : ExecutionEnvironment → String
  | .demo => "DEMO"
  | .live => "LIVE"

inductive TradingMode where
  | research | shadow | approval | exitAuto | auto
  deriving DecidableEq, Repr

inductive RuntimeSafetyState where
  | normal | entryDisabled | exitOnly | halted
  deriving DecidableEq, Repr

inductive OptionType where
  | call | put
  deriving DecidableEq, Repr

inductive OrderSide where
  | buyToOpen | sellToClose
  deriving DecidableEq, Repr

def OrderSide.value : OrderSide → String
  | .buyToOpen => "buy_to_open"
  | .sellToClose => "sell_to_close"

inductive BrokerAction where
  | placeOptionOrder | cancelOptionOrder | replaceOptionOrder
  deriving DecidableEq, Repr

def BrokerAction.value : BrokerAction → String
  | .placeOptionOrder => "place_option_order"
  | .cancelOptionOrder => "cancel_option_order"
  | .replaceOptionOrder => "replace_option_order"

inductive OrderState where
  | proposed | reviewed | approved | intentPersisted | submitting | submissionUnknown
  | open_ | partial_ | filled | canceled | rejected | expired
  deriving DecidableEq, Repr

def OrderState.value : OrderState → String
  | .proposed => "PROPOSED"
  | .reviewed => "REVIEWED"
  | .approved => "APPROVED"
  | .intentPersisted => "INTENT_PERSISTED"
  | .submitting => "SUBMITTING"
  | .submissionUnknown => "SUBMISSION_UNKNOWN"
  | .open_ => "OPEN"
  | .partial_ => "PARTIAL"
  | .filled => "FILLED"
  | .canceled => "CANCELED"
  | .rejected => "REJECTED"
  | .expired => "EXPIRED"

inductive AccountKind where
  | brokerObserved | simulated | shadow
  deriving DecidableEq, Repr

def AccountKind.value : AccountKind → String
  | .brokerObserved => "BROKER_OBSERVED"
  | .simulated => "SIMULATED"
  | .shadow => "SHADOW"

inductive FirewallDisposition where
  | blockedShadow | blockedPolicy | authorizedLive
  deriving DecidableEq, Repr

/-! ### Identifiers, documents and hashes -/

/-- A 128-bit identifier. -/
structure UUID where
  val : Nat
  deriving DecidableEq, Repr

/-- The usual text: 32 hexadecimal digits in groups of 8, 4, 4, 4 and 12. -/
def UUID.str (id : UUID) : String :=
  let digits := Nat.toDigits 16 id.val
  let padded := List.replicate (32 - digits.length) '0' ++ digits
  let group (from_ n : Nat) := (padded.drop from_).take n
  String.ofList (group 0 8 ++ ['-'] ++ group 8 4 ++ ['-'] ++ group 12 4 ++ ['-'] ++
    group 16 4 ++ ['-'] ++ group 20 12)

/-- A parsed JSON document. Object members keep the order they were written in; a number
too large for a float is parsed as an infinity. -/
inductive Json where
  | null
  | bool (b : Bool)
  | int (n : ℤ)
  | number (q : ℚ)
  | infinity (negative : Bool)
  | nan
  | str (s : String)
  | arr (items : List Json)
  | obj (members : List (String × Json))
  deriving Repr

/-- The standard library's hashes, which the source uses only as identities. -/
structure Hashing where
  /-- `sha256_json`: the digest of the canonical text of a document. -/
  sha256Json : Json → String
  /-- `uuid5`: a name-based identifier in a namespace. -/
  uuid5 : UUID → String → UUID
  /-- The first eight digest bytes of a text, read as a number. -/
  fillSeed : String → Nat

def Json.optionStr : Option String → Json
  | none => .null
  | some s => .str s

/-! ### Market data -/

structure OptionContract where
  instrumentId : String
  symbol : String
  optionType : OptionType
  strike : ℚ
  expiration : Date
  multiplier : ℤ := 100
  instrumentId_ne : instrumentId ≠ "" := by simp
  strike_pos : 0 < strike := by norm_num
  multiplier_pos : 0 < multiplier := by norm_num
  deriving DecidableEq

structure ProviderMetadata where
  provider : String
  capabilityVersion : String
  observedAt : Time
  effectiveAt : Time
  sourceId : Option String := none
  deriving DecidableEq

structure OptionQuote where
  snapshotId : UUID
  contract : OptionContract
  bid : ℚ
  ask : ℚ
  last : Option ℚ := none
  mark : Option ℚ := none
  volume : Option Nat := none
  openInterest : Option Nat := none
  impliedVolatility : Option ℚ := none
  delta : Option ℚ := none
  bidSize : Option Nat := none
  askSize : Option Nat := none
  metadata : ProviderMetadata
  bid_nonneg : 0 ≤ bid := by norm_num
  ask_nonneg : 0 ≤ ask := by norm_num
  /-- `valid_market`: a zero ask means that nothing is offered. -/
  valid_market : ask ≠ 0 → bid ≤ ask := by norm_num
  deriving DecidableEq

/-! ### Accounts, proposals and approvals -/

structure AccountSnapshot where
  createdAt : Time
  snapshotId : UUID
  environment : ExecutionEnvironment
  accountKind : AccountKind
  accountFingerprint : Option String := none
  cash : ℚ
  buyingPower : ℚ
  openOptionRisk : ℚ := 0
  openPositions : Nat := 0
  newEntriesToday : Nat := 0
  asOf : Time
  isAuthenticated : Bool
  stateKnown : Bool
  deriving DecidableEq

structure TradeProposal where
  createdAt : Time
  proposalId : UUID
  environment : ExecutionEnvironment
  namespace_ : String
  packetId : UUID
  symbol : String
  contract : OptionContract
  side : OrderSide
  quantity : ℤ
  limitPrice : Decimal
  quoteSnapshotId : UUID
  quoteAsOf : Time
  policyVersion : String
  riskConfigVersion : String
  thesis : String
  invalidationConditions : List String
  quantity_pos : 0 < quantity := by norm_num
  limitPrice_pos : 0 < limitPrice.val := by norm_num [Decimal.val]
  deriving DecidableEq

namespace TradeProposal

/-- The document whose digest is the order fingerprint. -/
def fingerprintFields (p : TradeProposal) : Json :=
  .obj [("environment", .str p.environment.value),
    ("namespace", .str p.namespace_),
    ("contract", .str p.contract.instrumentId),
    ("side", .str p.side.value),
    ("quantity", .int p.quantity),
    ("limit_price", .str p.limitPrice.str),
    ("proposal_id", .str p.proposalId.str)]

def orderFingerprint (H : Hashing) (p : TradeProposal) : String := H.sha256Json p.fingerprintFields

/-- `limit_price * quantity * multiplier` in a decimal context. -/
def maxLoss (D : Decimal.Context) (p : TradeProposal) : ℚ :=
  D.mul (D.mul p.limitPrice.val p.quantity) p.contract.multiplier

end TradeProposal

structure ExactApproval where
  createdAt : Time
  approvalId : UUID
  environment : ExecutionEnvironment
  namespace_ : String
  proposalId : UUID
  orderFingerprint : String
  maximumLimitPrice : ℚ
  expiresAt : Time
  approvedBy : String
  rejected : Bool := false
  deriving DecidableEq

def ExactApproval.isValidFor (H : Hashing) (a : ExactApproval) (p : TradeProposal) (at_ : Time) :
    Bool :=
  !a.rejected && a.environment == p.environment && a.namespace_ == p.namespace_ &&
    a.proposalId == p.proposalId && a.orderFingerprint == p.orderFingerprint H &&
    decide (p.limitPrice.val ≤ a.maximumLimitPrice) && decide (at_ ≤ a.expiresAt)

structure BrokerReview where
  createdAt : Time
  reviewId : UUID
  environment : ExecutionEnvironment
  proposalId : UUID
  accepted : Bool
  warnings : List String := []
  rawReference : Option String := none
  sideEffectFree : Bool := true
  deriving DecidableEq

/-! ### Intents, orders, fills and positions -/

structure OrderIntent where
  createdAt : Time
  intentId : UUID
  environment : ExecutionEnvironment
  namespace_ : String
  proposalId : UUID
  riskDecisionId : UUID
  approvalId : Option UUID
  reviewId : UUID
  orderFingerprint : String
  idempotencyKey : String
  action : BrokerAction
  state : OrderState := .intentPersisted
  deriving DecidableEq

structure BrokerCommandIntent where
  createdAt : Time
  commandIntentId : UUID
  orderIntentId : UUID
  environment : ExecutionEnvironment
  namespace_ : String
  action : BrokerAction
  capabilityName : String
  capabilitySchemaVersion : String
  capabilitySchemaHash : String
  instrumentId : String
  side : OrderSide
  quantity : ℤ
  limitPrice : Decimal
  timeInForce : String := "day"
  validatedArguments : Json
  proposalId : UUID
  riskDecisionId : UUID
  approvalId : Option UUID
  quoteSnapshotId : UUID
  brokerObservedAccountSnapshotId : Option UUID
  effectiveAccountSnapshotId : UUID
  policyVersion : String
  orderFingerprint : String
  idempotencyKey : String
  quantity_pos : 0 < quantity := by norm_num
  limitPrice_pos : 0 < limitPrice.val := by norm_num [Decimal.val]

namespace BrokerCommandIntent

/-- `model_dump(mode="json", exclude={"created_at"})`. -/
def payload (c : BrokerCommandIntent) : Json :=
  .obj [("command_intent_id", .str c.commandIntentId.str),
    ("order_intent_id", .str c.orderIntentId.str),
    ("environment", .str c.environment.value),
    ("namespace", .str c.namespace_),
    ("action", .str c.action.value),
    ("capability_name", .str c.capabilityName),
    ("capability_schema_version", .str c.capabilitySchemaVersion),
    ("capability_schema_hash", .str c.capabilitySchemaHash),
    ("instrument_id", .str c.instrumentId),
    ("side", .str c.side.value),
    ("quantity", .int c.quantity),
    ("limit_price", .str c.limitPrice.str),
    ("time_in_force", .str c.timeInForce),
    ("validated_arguments", c.validatedArguments),
    ("proposal_id", .str c.proposalId.str),
    ("risk_decision_id", .str c.riskDecisionId.str),
    ("approval_id", .optionStr (c.approvalId.map UUID.str)),
    ("quote_snapshot_id", .str c.quoteSnapshotId.str),
    ("broker_observed_account_snapshot_id",
      .optionStr (c.brokerObservedAccountSnapshotId.map UUID.str)),
    ("effective_account_snapshot_id", .str c.effectiveAccountSnapshotId.str),
    ("policy_version", .str c.policyVersion),
    ("order_fingerprint", .str c.orderFingerprint),
    ("idempotency_key", .str c.idempotencyKey)]

def commandHash (H : Hashing) (c : BrokerCommandIntent) : String := H.sha256Json c.payload

end BrokerCommandIntent

/-- `filledQuantity` and `averageFillPrice` are only validated on construction
and later replaced by copies, so they carry no proof. -/
structure BrokerOrder where
  createdAt : Time
  orderId : UUID
  brokerOrderId : Option String := none
  intentId : UUID
  environment : ExecutionEnvironment
  state : OrderState
  contract : OptionContract
  side : OrderSide
  quantity : ℤ
  filledQuantity : ℤ := 0
  limitPrice : ℚ
  averageFillPrice : Option ℚ := none
  submittedAt : Option Time := none
  quantity_pos : 0 < quantity := by norm_num
  limitPrice_pos : 0 < limitPrice := by norm_num
  deriving DecidableEq

structure Fill where
  createdAt : Time
  fillId : UUID
  orderId : UUID
  quantity : ℤ
  price : ℚ
  marketEventIds : List String
  fillModelVersion : String
  deterministicSeed : Nat
  reason : String
  deriving DecidableEq

structure Position where
  createdAt : Time
  positionId : UUID
  environment : ExecutionEnvironment
  contract : OptionContract
  quantity : ℤ
  averageEntryPrice : ℚ
  currentBid : ℚ
  currentAsk : ℚ
  realizedPnl : ℚ := 0
  bestUnrealizedPnl : ℚ := 0
  worstUnrealizedPnl : ℚ := 0
  thesisId : UUID
  invalidationConditions : List String
  exitPolicyVersion : String
  deriving DecidableEq

/-! ### Exceptions -/

/-- The exception classes the modelled code raises or catches, with their texts.
`cancelled` and `interrupt` derive from `BaseException` only; `unlisted` is any
other subclass of `Exception`. -/
inductive Exc where
  | dataInvalid (text : String)
  | safetyCritical (text : String)
  | submissionUnknown (text : String)
  | executionDenied (text : String)
  | duplicateOrder (text : String)
  | invalidOrderTransition (text : String)
  | transient (text : String)
  | authenticationRequired (text : String)
  | valueError (text : String)
  | typeError (text : String)
  | timeout
  | connection
  | osError
  | cancelled
  | interrupt
  | unlisted (text : String)
  deriving DecidableEq, Repr

namespace Exc

/-- `except ExecutionDenied`. -/
def isExecutionDenied : Exc → Bool
  | .executionDenied _ | .duplicateOrder _ => true
  | _ => false

/-- `except OSError`, which `TimeoutError` and `ConnectionError` extend. -/
def isOSError : Exc → Bool
  | .timeout | .connection | .osError => true
  | _ => false

/-- `except Exception`. -/
def isException : Exc → Bool
  | .cancelled | .interrupt => false
  | _ => true

end Exc

/-- Both halves of a computation that came to an end. -/
theorem bind_ok {ε α β : Type} {x : Except ε α} {f : α → Except ε β} {b : β}
    (bound : (x >>= f) = .ok b) : ∃ a, x = .ok a ∧ f a = .ok b := by
  cases x with
  | error e => cases bound
  | ok a => exact ⟨a, rfl, bound⟩

/-- The operations of a context that came to these results; one that overflows raises. -/
def trap (D : Decimal.Context) (results : List ℚ) : Except Exc Unit :=
  if D.Fits results then .ok () else .error (.unlisted "Overflow")

theorem trap_fits {D : Decimal.Context} {results : List ℚ} (fits : D.Fits results) :
    trap D results = .ok () := if_pos fits

theorem trap_append {D : Decimal.Context} (first second : List ℚ) :
    trap D (first ++ second) = (do trap D first; trap D second) := by
  by_cases fits : D.Fits first
  · simp [trap, Decimal.Context.fits_append, fits, bind, Except.bind]
  · simp [trap, Decimal.Context.fits_append, fits, bind, Except.bind]

@[simp] theorem trap_nil {D : Decimal.Context} : trap D [] = pure () := rfl

theorem trap_cons_cons {D : Decimal.Context} (p q : ℚ) (rest : List ℚ) :
    trap D (p :: q :: rest) = (do trap D [p]; trap D (q :: rest)) := trap_append [p] (q :: rest)

/-- What follows the operations is reached exactly when none of them overflows. -/
theorem trap_bind_ok_iff {α : Type} {D : Decimal.Context} {results : List ℚ}
    {next : Except Exc α} {a : α} :
    (trap D results >>= fun _ => next) = .ok a ↔ D.Fits results ∧ next = .ok a := by
  by_cases fits : D.Fits results
  · simp [trap, fits, bind, Except.bind]
  · simp [trap, fits, bind, Except.bind]

/-- A list is mapped to its end exactly when each of its elements is. -/
theorem mapM_ok_iff {ε α β : Type} {f : α → Except ε β} {xs : List α} {ys : List β} :
    xs.mapM f = .ok ys ↔ List.Forall₂ (fun x y => f x = .ok y) xs ys := by
  induction xs generalizing ys with
  | nil =>
    rw [List.mapM_nil, List.forall₂_nil_left_iff]
    constructor
    · intro same
      cases same
      rfl
    · rintro rfl
      rfl
  | cons x rest ih =>
    rw [List.mapM_cons, List.forall₂_cons_left_iff]
    constructor
    · intro mapped
      obtain ⟨y, first, mapped⟩ := bind_ok mapped
      obtain ⟨others, later, mapped⟩ := bind_ok mapped
      cases mapped
      exact ⟨y, others, first, ih.mp later, rfl⟩
    · rintro ⟨y, others, first, later, rfl⟩
      rw [first]
      change (rest.mapM f >>= _) = _
      rw [ih.mpr later]
      rfl

/-- Whatever is listed on the right is related to something on the left. -/
theorem exists_of_forall₂ {α β : Type} {related : α → β → Prop} {xs : List α} {ys : List β}
    (each : List.Forall₂ related xs ys) : ∀ y ∈ ys, ∃ x ∈ xs, related x y := by
  induction each with
  | nil =>
    intro y listed
    cases listed
  | cons first _ ih =>
    intro y listed
    cases listed with
    | head => exact ⟨_, List.mem_cons_self, first⟩
    | tail _ later =>
      obtain ⟨x, listed, holds⟩ := ih y later
      exact ⟨x, List.mem_cons_of_mem _ listed, holds⟩

/-- A list that is not mapped to its end has an element that is not mapped. -/
theorem mapM_error {ε α β : Type} {f : α → Except ε β} {xs : List α} {e : ε}
    (failed : xs.mapM f = .error e) : ∃ x ∈ xs, f x = .error e := by
  induction xs with
  | nil => cases failed
  | cons x rest ih =>
    rw [List.mapM_cons] at failed
    cases first : f x with
    | error e' =>
      rw [first] at failed
      cases failed
      exact ⟨x, List.mem_cons_self, first⟩
    | ok y =>
      rw [first] at failed
      cases later : rest.mapM f with
      | error e' =>
        rw [later] at failed
        cases failed
        obtain ⟨x', member, failed'⟩ := ih later
        exact ⟨x', List.mem_cons_of_mem _ member, failed'⟩
      | ok ys =>
        rw [later] at failed
        cases failed

/-- A loop that can raise comes to its end when every iteration does from what the
iterations before it have established. -/
theorem foldlM_ok {α σ : Type} {f : σ → α → Except Exc σ} {P : List α → σ → Prop} (xs : List α)
    (init : σ) (start : P [] init)
    (step : ∀ done x rest s, xs = done ++ x :: rest → P done s →
      ∃ s', f s x = .ok s' ∧ P (done ++ [x]) s') :
    ∃ s', xs.foldlM f init = .ok s' ∧ P xs s' := by
  have loop : ∀ rest done s, xs = done ++ rest → P done s →
      ∃ s', rest.foldlM f s = .ok s' ∧ P xs s' := by
    intro rest
    induction rest with
    | nil =>
      intro done s split holds
      rw [List.append_nil] at split
      exact ⟨s, rfl, split ▸ holds⟩
    | cons x rest ih =>
      intro done s split holds
      obtain ⟨s₁, went, holds₁⟩ := step done x rest s split holds
      obtain ⟨s₂, rest_, holds₂⟩ := ih (done ++ [x]) s₁ (by simpa using split) holds₁
      refine ⟨s₂, ?_, holds₂⟩
      rw [List.foldlM_cons, went]
      exact rest_
  exact loop xs [] init rfl start

/-- What every iteration keeps holds of a loop that came to its end. -/
theorem foldlM_kept {α σ : Type} {f : σ → α → Except Exc σ} {P : List α → σ → Prop} {xs : List α}
    {init last : σ} (ended : xs.foldlM f init = .ok last) (start : P [] init)
    (step : ∀ done x rest s s', xs = done ++ x :: rest → P done s → f s x = .ok s' →
      P (done ++ [x]) s') : P xs last := by
  have loop : ∀ rest done s, xs = done ++ rest → rest.foldlM f s = .ok last → P done s →
      P xs last := by
    intro rest
    induction rest with
    | nil =>
      intro done s split ended holds
      rw [List.append_nil] at split
      cases ended
      exact split ▸ holds
    | cons x rest ih =>
      intro done s split ended holds
      rw [List.foldlM_cons] at ended
      obtain ⟨s', went, ended⟩ := bind_ok ended
      refine ih (done ++ [x]) s' ?_ ended (step done x rest s s' split holds went)
      rw [split, List.append_assoc]
      rfl
  exact loop xs [] init rfl ended start

/-- A loop of checks passes when each of them does. -/
theorem forM_ok {α : Type} {f : α → Except Exc Unit} (xs : List α)
    (each : ∀ x ∈ xs, f x = .ok ()) : xs.forM f = .ok () := by
  induction xs with
  | nil => rfl
  | cons x rest ih =>
    change (f x >>= fun _ => rest.forM f) = _
    rw [each x List.mem_cons_self]
    exact ih fun y member => each y (List.mem_cons_of_mem _ member)

/-- A loop of checks that passed has passed each of them. -/
theorem forM_each {α : Type} {f : α → Except Exc Unit} {xs : List α} (ok : xs.forM f = .ok ()) :
    ∀ x ∈ xs, f x = .ok () := by
  induction xs with
  | nil => simp
  | cons y rest ih =>
    obtain ⟨⟨⟩, head, tail⟩ := bind_ok ok
    intro x member
    rcases List.mem_cons.mp member with rfl | later
    · exact head
    · exact ih tail x later

/-- The exception of an outcome, if it is one. -/
def raised {α : Type} : Except Exc α → Option Exc
  | .error e => some e
  | .ok _ => none

/-! ### Bounds of given figures

The records of the examples meet their constraints by these facts, which take a figure as a bare
numeral. A fact with such arguments only stands in a definition as it is, so that the definition
is the same in every module. -/

theorem count_pos (n : ℕ) : (0 : ℤ) < (max n 1 : ℕ) := by omega

theorem amount_nonneg (n : ℕ) : (0 : ℚ) ≤ (n : ℕ) := Nat.cast_nonneg n

theorem amount_pos (n : ℕ) : (0 : ℚ) < (max n 1 : ℕ) := by exact_mod_cast count_pos n

theorem amount_le (m n : ℕ) : ((m : ℕ) : ℚ) ≤ (max m n : ℕ) := by exact_mod_cast le_max_left m n

/-- A figure with so many places after the point. -/
theorem Decimal.val_pos (n places : ℕ) :
    0 < (⟨(max n 1 : ℕ), -(places : ℤ)⟩ : Decimal).val := by
  have digits : (0 : ℚ) < ((max n 1 : ℕ) : ℤ) := by exact_mod_cast count_pos n
  exact mul_pos digits (zpow_pos (by norm_num) _)

theorem spy_put_named : "spy-put" ≠ "" := by simp

theorem demo_named : "demo" ≠ "" := by simp

end Sentry
