import Sentry.Execution.Service
import Sentry.Ledger.ShadowLedger
import Sentry.Support.Dict

/-!
# The live adapter

`app/broker/robinhood_mcp.py`: how `RobinhoodMcpBroker` places and cancels an order through
its write transport, and how it reads the acknowledgement. The authorizer, the command recorder,
the capability check and the transport are awaited, so each of them may fail or be cut
off. The conversions of the standard library are parameters.
-/
namespace Sentry

open Support Coroutine

/-! ### Conversions of the standard library -/

/-- What a conversion raises when it does not return. -/
inductive Failure where
  | typeError (text : String)
  | valueError (text : String)
  | other (text : String)

def Failure.exc : Failure → Exc
  | .typeError text => .typeError text
  | .valueError text => .valueError text
  | .other text => .unlisted text

/-- What becomes of `json.loads`. -/
inductive Loaded where
  | document (value : Json)
  | decodeError
  | failed (failure : Failure)

/-- What becomes of `Decimal(text)`. -/
inductive DecimalText where
  | finite (value : ℚ)
  | special
  | invalidOperation

structure Builtins where
  str : Json → String
  repr : Json → String
  strip : String → String
  upper : String → String
  int : Json → Except Failure ℤ
  decimal : String → DecimalText
  loads : String → Loaded

namespace Json

def isNull : Json → Bool
  | .null => true
  | _ => false

def isBool : Json → Bool
  | .bool _ => true
  | _ => false

/-- `bool(value)`. -/
def truthy : Json → Bool
  | .null => false
  | .bool b => b
  | .int n => n != 0
  | .number q => q != 0
  | .infinity _ | .nan => true
  | .str s => s != ""
  | .arr items => !items.isEmpty
  | .obj members => !members.isEmpty

def text? : Json → Option String
  | .str s => some s
  | _ => none

/-- The document as a mapping, if it is one. -/
def mapping? : Json → Option Json
  | .obj members => some (.obj members)
  | _ => none

end Json

namespace ToolResult

/-- `isinstance(raw, Mapping)`. -/
def isMapping : ToolResult → Bool
  | .json (.obj _) => true
  | _ => false

/-- A key of a mapping, or an attribute of an object. -/
def lookup (name : String) : ToolResult → Option Json
  | .json value => value.member name
  | .object attributes => (Json.obj attributes).member name

/-- The same, where `None` counts as absent. -/
def present (name : String) (raw : ToolResult) : Option Json :=
  (raw.lookup name).filter fun value => !value.isNull

end ToolResult

/-! ### Reading a response -/

namespace RobinhoodMcp

/-- `_reject_error_result`. -/
def rejectErrorResult (raw : ToolResult) : Except Exc Unit :=
  let flags := ["isError", "is_error"].filterMap fun key => raw.lookup key
  if flags.any fun flag => !flag.isNull && !flag.isBool then
    .error (.dataInvalid "MCP result has an invalid error flag")
  else if flags.any Json.isTrue then
    .error (.dataInvalid "MCP tool returned an error; result is not authoritative")
  else if raw.isMapping && (raw.lookup "error").any Json.truthy then
    .error (.dataInvalid "MCP result contains an error; result is not authoritative")
  else .ok ()

/-- The text blocks of a content list, as one document. -/
def contentPayload (py : Builtins) (blocks : List Json) : Except Exc ToolResult :=
  let parts := blocks.filterMap fun block => (block.member "text").bind Json.text?
  let joined := py.strip (String.intercalate "\n" parts)
  if joined = "" then .ok (.json (.obj []))
  else match py.loads joined with
    | .document value => .ok (.json value)
    | .decodeError => .ok (.json (.obj [("text", .str joined)]))
    | .failed failure => .error failure.exc

/-- `_extract_payload`. -/
def extractPayload (py : Builtins) (raw : ToolResult) : Except Exc ToolResult := do
  rejectErrorResult raw
  match raw.present "structuredContent" <|> raw.present "structured_content" with
  | some content => pure (.json content)
  | none =>
    -- plain transports return the domain payload itself
    if raw.isMapping && (raw.lookup "content").isNone then pure raw
    else match raw.lookup "content" with
      | some (.arr blocks) => contentPayload py blocks
      | _ => pure raw

/-- `_unwrap_mapping`. -/
def unwrapMapping (py : Builtins) (payload : ToolResult) (keys : List String) : Except Exc Json := do
  match ← extractPayload py payload with
  | .json (.obj members) =>
    let mapping := Json.obj members
    match (keys ++ ["data", "result"]).findSome? fun key => (mapping.member key).bind Json.mapping? with
    | some nested =>
      rejectErrorResult (.json nested)
      pure nested
    | none => pure mapping
  | _ => throw (.dataInvalid "MCP result payload is not an object")

/-- `_first`. -/
def first (mapping : Json) (keys : List String) : Option Json :=
  keys.findSome? fun key => (mapping.member key).filter fun value => !value.isNull

/-- `_to_decimal`. -/
def toDecimal (py : Builtins) (value : Json) : Except Exc ℚ :=
  match py.decimal (py.str value) with
  | .invalidOperation => .error (.dataInvalid "invalid broker decimal")
  | .special => .error (.dataInvalid "broker decimal must be finite")
  | .finite result => .ok result

/-- `_int_from`. -/
def intFrom (py : Builtins) (mapping : Json) (keys : List String) (default : ℤ) : Except Exc ℤ :=
  match first mapping keys with
  | none => .ok default
  | some value =>
    match py.int value with
    | .ok n => .ok n
    | .error (.other text) => .error (.unlisted text)
    | .error _ => .error (.dataInvalid ("invalid broker integer: " ++ py.repr value))

def stateAliases : List (String × OrderState) :=
  [("QUEUED", .open_), ("PENDING", .open_), ("CONFIRMED", .open_), ("UNCONFIRMED", .submitting),
    ("PARTIALLY_FILLED", .partial_), ("PARTIAL_FILL", .partial_), ("CANCELLED", .canceled),
    ("VOIDED", .canceled), ("FAILED", .rejected)]

/-- The members of `OrderState` under their values. -/
def stateValues : List (String × OrderState) :=
  [OrderState.proposed, .reviewed, .approved, .intentPersisted, .submitting, .submissionUnknown,
    .open_, .partial_, .filled, .canceled, .rejected, .expired].map fun state => (state.value, state)

/-- `replace("-", "_").replace(" ", "_")`. -/
def underscored (text : String) : String :=
  String.ofList (text.toList.map fun c => if c = '-' ∨ c = ' ' then '_' else c)

/-- `_order_state`. -/
def orderState (py : Builtins) (value : Json) : Except Exc OrderState :=
  let normalized := underscored (py.upper (py.strip (py.str value)))
  match (stateAliases ++ stateValues).find? fun entry => entry.1 == normalized with
  | some entry => .ok entry.2
  | none => .error (.dataInvalid ("unknown broker order state: " ++ py.repr value))

/-- What an acknowledgement says about the order. -/
structure Acknowledgement where
  brokerOrderId : Option String
  state : OrderState
  filledQuantity : ℤ
  averageFillPrice : Option ℚ

/-- A price that was left out or left empty is no price. -/
def averageFrom (py : Builtins) (data : Json) : Except Exc (Option ℚ) :=
  match first data ["average_fill_price", "average_price"] with
  | none => .ok none
  | some (.str "") => .ok none
  | some value => (toDecimal py value).map some

/-- An acknowledgement without an authoritative state stays SUBMITTING. -/
def stateFrom (py : Builtins) (data : Json) : Except Exc OrderState :=
  match first data ["state", "status"] with
  | some value => orderState py value
  | none => .ok .submitting

/-- The reading part of `_parse_order_ack`. -/
def readAck (py : Builtins) (raw : ToolResult) : Except Exc Acknowledgement := do
  let data ← unwrapMapping py raw ["order", "option_order"]
  let state ← stateFrom py data
  let filled ← intFrom py data ["filled_quantity", "cumulative_quantity"] 0
  let average ← averageFrom py data
  pure
    { brokerOrderId := (first data ["broker_order_id", "order_id", "id"]).map py.str
      state
      filledQuantity := filled
      averageFillPrice := average }

/-- The copy of the fallback that `_parse_order_ack` returns. -/
def Acknowledgement.applyTo (ack : Acknowledgement) (fallback : BrokerOrder) : BrokerOrder :=
  { fallback with
    brokerOrderId := ack.brokerOrderId
    state := ack.state
    filledQuantity := ack.filledQuantity
    averageFillPrice := ack.averageFillPrice }

/-- `_parse_order_ack`. -/
def parseOrderAck (py : Builtins) (raw : ToolResult) (fallback : BrokerOrder) :
    Except Exc BrokerOrder :=
  (readAck py raw).map fun ack => ack.applyTo fallback

/-! ### What reading a response raises -/

/-- An exception that neither the live write handler nor the cancellation handler of the
execution service catches. -/
def Escapes (e : Exc) : Prop := e ≠ .cancelled ∧ e.isUnknownSubmission = false

/-- Every exception of a computation is of a kind. -/
def Raises {α : Type} (kind : Exc → Prop) : Except Exc α → Prop
  | .ok _ => True
  | .error e => kind e

theorem Raises.bind {α β : Type} {kind : Exc → Prop} {x : Except Exc α} {f : α → Except Exc β}
    (first : Raises kind x) (rest : ∀ a, Raises kind (f a)) : Raises kind (x >>= f) := by
  cases x with
  | ok a => exact rest a
  | error e => exact first

theorem escapes_failure (failure : Failure) : Escapes failure.exc := by
  cases failure <;> exact ⟨nofun, rfl⟩

theorem escapes_dataInvalid (text : String) : Escapes (.dataInvalid text) := ⟨nofun, rfl⟩

theorem rejectErrorResult_raises (raw : ToolResult) : Raises Escapes (rejectErrorResult raw) := by
  dsimp only [rejectErrorResult]
  split
  · exact escapes_dataInvalid _
  · split
    · exact escapes_dataInvalid _
    · split
      · exact escapes_dataInvalid _
      · trivial

theorem contentPayload_raises (py : Builtins) (blocks : List Json) :
    Raises Escapes (contentPayload py blocks) := by
  dsimp only [contentPayload]
  split
  · trivial
  · split
    · trivial
    · trivial
    next failure _ => exact escapes_failure failure

theorem extractPayload_raises (py : Builtins) (raw : ToolResult) :
    Raises Escapes (extractPayload py raw) := by
  apply (rejectErrorResult_raises raw).bind
  intro _
  split
  · trivial
  · split
    · trivial
    · split
      · exact contentPayload_raises py _
      · trivial

theorem unwrapMapping_raises (py : Builtins) (raw : ToolResult) (keys : List String) :
    Raises Escapes (unwrapMapping py raw keys) := by
  apply (extractPayload_raises py raw).bind
  intro payload
  split
  · dsimp only
    split
    · exact (rejectErrorResult_raises _).bind fun _ => trivial
    · trivial
  · exact escapes_dataInvalid _

theorem orderState_raises (py : Builtins) (value : Json) :
    Raises Escapes (orderState py value) := by
  dsimp only [orderState]
  split
  · trivial
  · exact escapes_dataInvalid _

theorem stateFrom_raises (py : Builtins) (data : Json) : Raises Escapes (stateFrom py data) := by
  unfold stateFrom
  split
  · exact orderState_raises py _
  · trivial

theorem intFrom_raises (py : Builtins) (mapping : Json) (keys : List String) (default : ℤ) :
    Raises Escapes (intFrom py mapping keys default) := by
  unfold intFrom
  split
  · trivial
  · split
    · trivial
    · exact ⟨nofun, rfl⟩
    · exact escapes_dataInvalid _

theorem toDecimal_raises (py : Builtins) (value : Json) : Raises Escapes (toDecimal py value) := by
  unfold toDecimal
  split
  · exact escapes_dataInvalid _
  · exact escapes_dataInvalid _
  · trivial

theorem averageFrom_raises (py : Builtins) (data : Json) :
    Raises Escapes (averageFrom py data) := by
  unfold averageFrom
  split
  · trivial
  · trivial
  next value _ _ =>
    have price := toDecimal_raises py value
    cases read : toDecimal py value with
    | ok q => trivial
    | error e =>
      rw [read] at price
      exact price

/-- Whatever is wrong with an acknowledgement, the exception escapes. -/
theorem readAck_raises (py : Builtins) (raw : ToolResult) : Raises Escapes (readAck py raw) := by
  apply (unwrapMapping_raises py raw _).bind
  intro data
  apply (stateFrom_raises py data).bind
  intro state
  apply (intFrom_raises py data _ 0).bind
  intro filled
  exact (averageFrom_raises py data).bind fun _ => trivial

/-! ### Authorization -/

/-- `_validate_authorization`. -/
def validateAuthorization (decision : FirewallDecision) (command : BrokerCommandIntent) :
    Except Exc Unit :=
  if decision.commandIntentId ≠ command.commandIntentId then
    .error (.safetyCritical "live authorizer returned a decision for another command")
  else if decision.environment ≠ .live then
    .error (.safetyCritical "live authorizer returned a non-LIVE decision")
  else if decision.transmitted then
    .error (.safetyCritical "authorizer cannot claim transport occurred before broker call")
  else .ok ()

end RobinhoodMcp

/-! ### The adapter -/

/-- What the adapter keeps in its process. -/
structure RobinhoodState where
  recordedCommands : Dict UUID BrokerCommandIntent := .empty
  commandIdempotency : Dict String UUID := .empty
  localOrders : Dict UUID BrokerOrder := .empty
  writeResults : Dict String UUID := .empty

namespace RobinhoodState

/-- `recorded_command_intents`. -/
def recordedCommandIntents (b : RobinhoodState) : List BrokerCommandIntent :=
  b.recordedCommands.values

/-- `_existing_write_result`. -/
def existingWriteResult (command : BrokerCommandIntent) (b : RobinhoodState) :
    Except Exc (Option BrokerOrder) :=
  match b.writeResults.get? command.idempotencyKey with
  | none => .ok none
  | some orderId =>
    let prior := b.recordedCommandIntents.find? fun item =>
      item.idempotencyKey == command.idempotencyKey
    if prior.any fun item => item.commandIntentId != command.commandIntentId then
      .error (.safetyCritical "live idempotency key was reused for another command")
    else match b.localOrders.get? orderId with
      | none => .error (.unlisted "KeyError")
      | some order => .ok (some order)

/-- Whether a command was recorded before, for `record_broker_command_intent`. -/
def alreadyRecorded (H : Hashing) (command : BrokerCommandIntent) (b : RobinhoodState) :
    Except Exc Bool :=
  match b.recordedCommands.get? command.commandIntentId with
  | some existing =>
    if existing.commandHash H ≠ command.commandHash H then
      .error (.safetyCritical "command intent ID was reused with different content")
    else .ok true
  | none =>
    match b.commandIdempotency.get? command.idempotencyKey with
    | none => .ok false
    | some existingId =>
      match b.recordedCommands.get? existingId with
      | none => .error (.unlisted "KeyError")
      | some other =>
        if other.commandHash H ≠ command.commandHash H then
          .error (.safetyCritical "broker idempotency key was reused for a different command")
        else .ok true

def record (command : BrokerCommandIntent) (b : RobinhoodState) : RobinhoodState :=
  { b with
    recordedCommands := b.recordedCommands.set command.commandIntentId command
    commandIdempotency := b.commandIdempotency.set command.idempotencyKey command.commandIntentId }

def keep (order : BrokerOrder) (b : RobinhoodState) : RobinhoodState :=
  { b with localOrders := b.localOrders.set order.orderId order }

def claim (key : String) (orderId : UUID) (b : RobinhoodState) : RobinhoodState :=
  { b with writeResults := b.writeResults.set key orderId }

end RobinhoodState

/-- The namespace identifier for URLs. -/
def namespaceUrl : UUID := ⟨0x6ba7b8119dad11d180b400c04fd430c8⟩

/-- An adapter with what was injected at its construction; `recorder` tells whether a
command recorder was. -/
structure RobinhoodMcpBroker where
  hashing : Hashing
  py : Builtins
  recorder : Bool := true

namespace RobinhoodMcpBroker

open RobinhoodMcp

variable (broker : RobinhoodMcpBroker)

/-- `record_broker_command_intent`. -/
def recordBrokerCommandIntent (command : BrokerCommandIntent) : Program RobinhoodState Unit := do
  let state ← peek fun g => g.broker
  let recorded ← lift (state.alreadyRecorded broker.hashing command)
  if recorded then pure ()
  else do
    if broker.recorder then ask (.recordCommand command) else pure ()
    change (Ambient.adapt (RobinhoodState.record command))

/-- The order that stands for the command until the broker acknowledges it. -/
def localOrder (command : BrokerCommandIntent) (contract : OptionContract) (now : Time) :
    BrokerOrder :=
  { createdAt := now
    orderId := broker.hashing.uuid5 namespaceUrl
      ("options-sentinel-live:" ++ command.orderIntentId.str)
    intentId := command.orderIntentId
    environment := .live
    state := .submitting
    contract := contract
    side := command.side
    quantity := command.quantity
    limitPrice := command.limitPrice.val
    submittedAt := some now
    quantity_pos := command.quantity_pos
    limitPrice_pos := command.limitPrice_pos }

/-- A transport error of the operating system leaves the outcome unknown; any other
exception passes. -/
def writeFailed (unknown : String) (local_ : BrokerOrder) (e : Exc) :
    Program RobinhoodState ToolResult :=
  if e.isOSError then do
    change (Ambient.adapt (RobinhoodState.keep (local_.withState .submissionUnknown)))
    raise (.submissionUnknown unknown)
  else raise e

/-- The write itself, once it is authorized; `unknown` is what is said when its outcome is. -/
def write (unknown : String) (command : BrokerCommandIntent) (validated : Json)
    (local_ : BrokerOrder) : Program RobinhoodState BrokerOrder := do
  let raw ← attempt (ask (.callTool command.capabilityName validated)) (writeFailed unknown local_)
  let parsed ← lift (parseOrderAck broker.py raw local_)
  change (Ambient.adapt (RobinhoodState.keep parsed))
  pure parsed

def transportFailed : BrokerOrder → Exc → Program RobinhoodState ToolResult :=
  writeFailed "broker may have accepted the order; reconciliation is mandatory"

/-- The placement itself. -/
def transmit : BrokerCommandIntent → Json → BrokerOrder → Program RobinhoodState BrokerOrder :=
  broker.write "broker may have accepted the order; reconciliation is mandatory"

/-- `place_option_order`. -/
def placeOptionOrder (command : BrokerCommandIntent) (contract : OptionContract) :
    Program RobinhoodState BrokerOrder := do
  raiseIf (command.environment != .live) (.safetyCritical "live broker received non-LIVE command")
  raiseIf (command.action != .placeOptionOrder)
    (.dataInvalid "placement requires PLACE_OPTION_ORDER command")
  raiseIf (command.instrumentId != contract.instrumentId)
    (.dataInvalid "command instrument and contract differ")
  let state ← peek fun g => g.broker
  let duplicate ← lift (state.existingWriteResult command)
  match duplicate with
  | some order =>
    raiseIf (order.state == .submissionUnknown)
      (.submissionUnknown "submission outcome is unknown; reconcile instead of retrying")
    pure order
  | none =>
    let validated ← ask (.validateCommand command)
    broker.recordBrokerCommandIntent command
    let now ← peek fun g => g.now
    let local_ := broker.localOrder command contract now
    change (Ambient.adapt (RobinhoodState.keep local_))
    change (Ambient.adapt (RobinhoodState.claim command.idempotencyKey local_.orderId))
    let authorization ← ask (.authorize command)
    lift (validateAuthorization authorization command)
    if authorization.disposition ≠ .authorizedLive ∨ authorization.environment ≠ .live then do
      change (Ambient.adapt (RobinhoodState.keep (local_.withState .rejected)))
      pure (local_.withState .rejected)
    else broker.transmit command validated local_

/-! ### Cancelling -/

/-- `_validate_cancel_target`. -/
def validateCancelTarget (arguments : Json) (ref : OrderRef) : Except Exc Unit :=
  match first arguments ["order_id", "broker_order_id", "id"] with
  | none => .ok ()
  | some target =>
    if broker.py.str target ≠ ShadowLedger.OrderRef.show_ ref then
      .error (.safetyCritical "cancel command arguments target a different order")
    else .ok ()

/-- `_find_local_order`. -/
def findLocalOrder (ref : OrderRef) (b : RobinhoodState) : Option BrokerOrder :=
  match ref with
  | .uuid id => b.localOrders.get? id
  | .text t =>
    match (UUID.ofText t).bind fun id => b.localOrders.get? id with
    | some order => some order
    | none => b.localOrders.values.find? fun order => order.brokerOrderId == some t

/-- Whether an order of the broker is the one that is referred to. -/
def refersTo (ref : OrderRef) (order : BrokerOrder) : Bool :=
  match ref with
  | .uuid id => order.orderId == id || order.brokerOrderId == some id.str
  | .text t => order.brokerOrderId == some t

/-- An order the adapter does not know is looked up at the broker. -/
def cancelTarget (ref : OrderRef) : Program RobinhoodState BrokerOrder := do
  let state ← peek fun g => g.broker
  match findLocalOrder ref state with
  | some order => pure order
  | none =>
    let remoteOrders ← ask .getOrders
    match remoteOrders.find? (refersTo ref) with
    | some order => pure order
    | none =>
      raise (.dataInvalid ("cannot cancel unknown broker order: " ++ ShadowLedger.OrderRef.show_ ref))

/-- What follows once the target of a cancellation is known. -/
def cancelAuthorized (command : BrokerCommandIntent) (validated : Json) (target : BrokerOrder) :
    Program RobinhoodState BrokerOrder := do
  let pending := target.withState .submitting
  change (Ambient.adapt (RobinhoodState.keep pending))
  change (Ambient.adapt (RobinhoodState.claim command.idempotencyKey pending.orderId))
  let authorization ← ask (.authorize command)
  lift (validateAuthorization authorization command)
  if authorization.disposition ≠ .authorizedLive then pure target
  else
    broker.write "broker may have received cancellation; reconciliation is mandatory"
      command validated pending

/-- `cancel_option_order`. -/
def cancelOptionOrder (command : BrokerCommandIntent) (ref : OrderRef) :
    Program RobinhoodState BrokerOrder := do
  raiseIf (command.environment != .live) (.safetyCritical "live broker received non-LIVE command")
  raiseIf (command.action != .cancelOptionOrder)
    (.dataInvalid "cancellation requires CANCEL_OPTION_ORDER command")
  let state ← peek fun g => g.broker
  let duplicate ← lift (state.existingWriteResult command)
  match duplicate with
  | some order =>
    raiseIf (order.state == .submissionUnknown)
      (.submissionUnknown "cancellation outcome is unknown; reconcile instead of retrying")
    pure order
  | none =>
    let validated ← ask (.validateCommand command)
    lift (broker.validateCancelTarget validated ref)
    broker.recordBrokerCommandIntent command
    let target ← cancelTarget ref
    broker.cancelAuthorized command validated target

end RobinhoodMcpBroker
end Sentry
