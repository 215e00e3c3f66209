import Sentry.Execution.Operations

/-!
# The execution service

`app/execution/service.py`: `execute`, `cancel_order` and `reconcile_submission` as
programs that suspend at each awaited collaborator. The text between two awaits runs
alone, so what it observes of the surroundings is one ambient state.
-/
namespace Sentry

open Support Coroutine

def executionIdNamespace : UUID := ⟨0x4afef10790245b74a307236994188f16⟩

/-- The `except (TimeoutError, ConnectionError, SubmissionUnknownError)` of a broker write. -/
def Exc.isUnknownSubmission : Exc → Bool
  | .timeout | .connection | .submissionUnknown _ => true
  | _ => false

structure ExecutionResult where
  orderIntent : OrderIntent
  commandIntent : BrokerCommandIntent
  riskDecision : RiskDecision
  review : BrokerReview
  brokerOrder : BrokerOrder

structure CancellationResult where
  orderIntent : OrderIntent
  commandIntent : BrokerCommandIntent
  brokerOrder : BrokerOrder

structure SubmissionReconciliation where
  intentId : UUID
  matchedOrder : Option BrokerOrder
  brokerReport : ReconciliationReport
  negativeMatchProven : Bool
  retryPermitted : Bool

/-- `_default_arguments`. -/
def defaultArguments (p : TradeProposal) (idempotencyKey : String) : Json :=
  .obj [("instrument_id", .str p.contract.instrumentId),
    ("side", .str p.side.value),
    ("quantity", .int p.quantity),
    ("limit_price", .str p.limitPrice.str),
    ("time_in_force", .str "day"),
    ("client_order_id", .str idempotencyKey)]

/-- A service with what was injected at its construction. `validate` is the schema check
of a capability descriptor. -/
structure ExecutionService where
  hashing : Hashing
  risk : RiskEngine
  environment : ExecutionEnvironment
  namespace_ : String
  argumentBuilder : TradeProposal → String → Json := defaultArguments
  validate : CapabilityDescriptor → Json → Except Exc Json
  namespace_ne : namespace_ ≠ "" := by simp

/-- The identifiers that the evaluations of one execution draw. -/
structure Draws where
  firstDecision : UUID
  secondDecision : UUID
  lastDecision : UUID
  deriving DecidableEq

namespace ExecutionService

variable {B : Type} (svc : ExecutionService)

/-! ### Gates -/

def denyInterruptedWrites : Program B Unit := do
  let latched ← peek fun g => g.interruptedWriteIntents
  if latched.isEmpty then pure ()
  else
    change (Ambient.stop "interrupted broker command requires reconciliation")
    raise (.executionDenied "interrupted write latch blocks execution until process restart")

/-- `_preflight`. -/
def preflight (p : TradeProposal) (mode : TradingMode) : Program B Unit := do
  denyInterruptedWrites
  raiseIf (svc.environment == .live && mode == .shadow)
    (.executionDenied "LIVE+SHADOW is not a defined execution mode")
  raiseIf (mode == .research) (.executionDenied "RESEARCH mode cannot create order intents")
  let killed ← peek fun g => g.killSwitchActive
  raiseIf killed (.executionDenied "global kill switch is active")
  let healthy ← peek fun g => g.healthy
  raiseIf (!healthy) (.executionDenied "execution service health check failed")
  let safety ← peek fun g => g.safety
  raiseIf (p.side == .buyToOpen && !safety.permitsNewEntry)
    (.executionDenied "runtime safety state blocks new entries")
  raiseIf (p.side == .sellToClose && !safety.permitsRiskReducingExit)
    (.executionDenied "runtime safety state blocks exits")

/-- `_validate_binding`. -/
def validateBinding (p : TradeProposal) : Program B Unit :=
  raiseIf (p.environment != svc.environment || p.namespace_ != svc.namespace_)
    (.executionDenied "proposal environment/namespace does not match startup binding")

def approvalRequired (p : TradeProposal) (mode : TradingMode) : Bool :=
  mode == .approval || mode == .exitAuto && p.side == .buyToOpen

def approvalHolds (p : TradeProposal) (approval : Option ExactApproval) (now : Time) : Bool :=
  approval.any fun a => decide (a.createdAt ≤ now) && a.isValidFor svc.hashing p now

/-- `_validate_approval`. -/
def validateApproval (p : TradeProposal) (mode : TradingMode) (approval : Option ExactApproval) :
    Program B Unit :=
  if approvalRequired p mode then do
    let now ← peek fun g => g.now
    raiseIf (!svc.approvalHolds p approval now)
      (.executionDenied "missing, expired, rejected, or non-exact order approval")
  else pure ()

/-- `_transition`. -/
def transition (intentId : UUID) (previous current : OrderState) (reason : String)
    (reconciliationEvidence : Bool := false) : Program B Unit := do
  let _ ← lift (OrderStateMachine.transition previous current reconciliationEvidence)
  let now ← peek fun g => g.now
  ask (.recordTransition
    { intentId, previous, current, reason, recordedAt := now, reconciliationEvidence })

/-- `_record_interrupted_write`: classify a cancellation without swallowing it. The update is
best effort, so its own failures end here. -/
def recordInterruptedWrite (pending : BrokerOrder) (action : String)
    (observed : Option BrokerOrder := none) : Program B Unit := do
  change (Ambient.latch pending.intentId)
  change (Ambient.stop "interrupted broker command requires reconciliation")
  let interrupted := observed.getD pending
  let reason := match observed with
    | some order => "task cancelled after broker " ++ action ++ " response " ++ order.state.value ++
        "; local order journal incomplete; reconciliation required"
    | none => "task cancelled during broker " ++ action ++ "; acceptance is unproven"
  attempt (do
      ask (.saveOrder (interrupted.withState .submissionUnknown))
      transition pending.intentId .submitting .submissionUnknown reason)
    fun e =>
      if e = .cancelled ∨ e.isException then
        change (Ambient.stop "interrupted broker command audit is incomplete")
      else raise e

/-! ### Placement -/

/-- What an execution has gathered when its intent is about to be saved. -/
structure Prepared where
  mode : TradingMode
  account : AccountSnapshot
  quote : OptionQuote
  risk : RiskDecision
  review : BrokerReview
  intent : OrderIntent
  command : BrokerCommandIntent

/-- Raises when the fingerprint already has a durable intent. -/
def refuseDuplicate (fingerprint unresolved existing : String) : Program B Unit := do
  let duplicate ← ask (.findIntentByFingerprint fingerprint)
  match duplicate with
  | none => pure ()
  | some intent =>
    let order ← ask (.getOrder intent.intentId)
    raiseIf (order.any fun o => o.state == .submissionUnknown) (.submissionUnknown unresolved)
    raise (.duplicateOrder existing)

/-- The environment of the service may not reach an external broker from DEMO. -/
def refuseExternalWrites (capabilities : BrokerCapabilities) : Program B Unit :=
  if svc.environment = .demo ∧ capabilities.externalWritesEnabled then do
    change (Ambient.stop "DEMO broker advertised external write authority")
    raise (.executionDenied "DEMO can never use a broker with external write authority")
  else pure ()

/-- `sha256_json` of the namespace, the fingerprint and the action. -/
def idempotencyKey (fingerprint : String) (action : BrokerAction) : String :=
  svc.hashing.sha256Json (.obj [("namespace", .str svc.namespace_),
    ("fingerprint", .str fingerprint), ("action", .str action.value)])

def intentId (kind : String) (key : String) : UUID :=
  svc.hashing.uuid5 executionIdNamespace
    (kind ++ ":" ++ svc.environment.value ++ ":" ++ svc.namespace_ ++ ":" ++ key)

def commandIntentId (intentId : UUID) (schemaHash : String) : UUID :=
  svc.hashing.uuid5 executionIdNamespace ("command:" ++ intentId.str ++ ":" ++ schemaHash)

def observedSnapshotId (account : AccountSnapshot) : Option UUID :=
  if account.accountKind = .brokerObserved then some account.snapshotId else none

/-- Evaluate the proposal now and keep the decision, whatever it is. -/
def evaluateRisk (p : TradeProposal) (account : AccountSnapshot) (quote : OptionQuote) (id : UUID)
    (denial : String) : Program B RiskDecision := do
  let now ← peek fun g => g.now
  let risk := svc.risk.evaluate id now p account quote
  ask (.saveRiskDecision risk)
  raiseIf (!risk.allowed) (.executionDenied (denial ++ String.intercalate "," risk.failedRules))
  pure risk

/-- The intent of a placement, created now. -/
def placeIntent (p : TradeProposal) (approval : Option ExactApproval) (risk : RiskDecision)
    (review : BrokerReview) (now : Time) : OrderIntent :=
  let fingerprint := p.orderFingerprint svc.hashing
  let key := svc.idempotencyKey fingerprint .placeOptionOrder
  { createdAt := now
    intentId := svc.intentId "place" key
    environment := svc.environment
    namespace_ := svc.namespace_
    proposalId := p.proposalId
    riskDecisionId := risk.decisionId
    approvalId := approval.map fun a => a.approvalId
    reviewId := review.reviewId
    orderFingerprint := fingerprint
    idempotencyKey := key
    action := .placeOptionOrder }

/-- The command of a placement, created now. -/
def placeCommand (p : TradeProposal) (approval : Option ExactApproval) (intent : OrderIntent)
    (capability : CapabilityDescriptor) (arguments : Json) (quote : OptionQuote)
    (observed effective : AccountSnapshot) (now : Time) : BrokerCommandIntent :=
  { createdAt := now
    commandIntentId := svc.commandIntentId intent.intentId capability.schemaHash
    orderIntentId := intent.intentId
    environment := svc.environment
    namespace_ := svc.namespace_
    action := .placeOptionOrder
    capabilityName := capability.toolName
    capabilitySchemaVersion := capability.schemaVersion
    capabilitySchemaHash := capability.schemaHash
    instrumentId := p.contract.instrumentId
    side := p.side
    quantity := p.quantity
    limitPrice := p.limitPrice
    validatedArguments := arguments
    proposalId := p.proposalId
    riskDecisionId := intent.riskDecisionId
    approvalId := approval.map fun a => a.approvalId
    quoteSnapshotId := quote.snapshotId
    brokerObservedAccountSnapshotId := observedSnapshotId observed
    effectiveAccountSnapshotId := effective.snapshotId
    policyVersion := p.policyVersion
    orderFingerprint := intent.orderFingerprint
    idempotencyKey := intent.idempotencyKey
    quantity_pos := p.quantity_pos
    limitPrice_pos := p.limitPrice_pos }

/-- `_execute` up to the command: every gate, the review and the second evaluation. -/
def prepare (p : TradeProposal) (approval : Option ExactApproval) (draws : Draws) :
    Program B Prepared := do
  let mode ← peek fun g => g.tradingMode
  svc.validateBinding p
  refuseDuplicate (p.orderFingerprint svc.hashing)
    "matching submission is unresolved; reconciliation is required and blind retry is forbidden"
    "matching order intent already exists; duplicate submission blocked"
  svc.preflight p mode
  let account ← ask .getEffectiveExecutionAccountState
  let observed ← ask .getObservedBrokerAccountState
  let reconciliation ← ask .reconcile
  ask (.saveReconciliation reconciliation)
  raiseIf (!reconciliation.successful) (.executionDenied "broker reconciliation is incomplete")
  let quote ← ask (.getOptionQuote p.contract.instrumentId)
  let _ ← svc.evaluateRisk p account quote draws.firstDecision "hard risk denial: "
  let review ← ask (.reviewOptionOrder p)
  ask (.saveReview review)
  raiseIf (!review.sideEffectFree)
    (.executionDenied "broker review was not proven side-effect-free")
  raiseIf (!review.accepted)
    (.executionDenied "broker pre-trade review rejected the exact proposal")
  svc.validateApproval p mode approval
  -- review and persistence take time, so quote, account and gates are read again
  let quote ← ask (.getOptionQuote p.contract.instrumentId)
  let account ← ask .getEffectiveExecutionAccountState
  let risk ← svc.evaluateRisk p account quote draws.secondDecision "post-review hard risk denial: "
  let currentMode ← peek fun g => g.tradingMode
  raiseIf (currentMode != mode) (.executionDenied "trading mode changed during review")
  svc.preflight p mode
  svc.validateApproval p mode approval
  let now ← peek fun g => g.now
  let intent := svc.placeIntent p approval risk review now
  let capabilities ← ask .getCapabilities
  match capabilities.descriptorForAction .placeOptionOrder with
  | none =>
    raise (.executionDenied "required place-order capability is unavailable or not ready")
  | some capability =>
    raiseIf (!capabilities.executionReady)
      (.executionDenied "required place-order capability is unavailable or not ready")
    svc.refuseExternalWrites capabilities
    let arguments ← lift (svc.validate capability (svc.argumentBuilder p intent.idempotencyKey))
    let now ← peek fun g => g.now
    let command := svc.placeCommand p approval intent capability arguments quote observed account now
    pure { mode, account, quote, risk, review, intent, command }

/-- The local order that stands for the command before the broker has answered. -/
def pendingOrder (p : TradeProposal) (intent : OrderIntent) (now : Time) : BrokerOrder :=
  { createdAt := now
    orderId := svc.hashing.uuid5 executionIdNamespace ("pending:" ++ intent.intentId.str)
    intentId := intent.intentId
    environment := svc.environment
    state := .submitting
    contract := p.contract
    side := p.side
    quantity := p.quantity
    limitPrice := p.limitPrice.val
    submittedAt := some now
    quantity_pos := p.quantity_pos
    limitPrice_pos := p.limitPrice_pos }

/-- The durable writes that precede the broker call. -/
def persist (p : TradeProposal) (intent : OrderIntent) (command : BrokerCommandIntent) :
    Program B BrokerOrder := do
  ask (.saveOrderIntent intent)
  ask (.saveCommandIntent command)
  let now ← peek fun g => g.now
  let pending := svc.pendingOrder p intent now
  ask (.saveOrder pending)
  transition intent.intentId .intentPersisted .submitting "durable command ready"
  pure pending

/-- The gates once more, with nothing awaited between them and the broker call. -/
def lastGates (p : TradeProposal) (approval : Option ExactApproval) (draws : Draws)
    (prepared : Prepared) : Program B Unit := do
  let currentMode ← peek fun g => g.tradingMode
  raiseIf (currentMode != prepared.mode)
    (.executionDenied "trading mode changed before submission")
  svc.preflight p currentMode
  svc.validateApproval p currentMode approval
  let now ← peek fun g => g.now
  raiseIf (!(svc.risk.evaluate draws.lastDecision now p prepared.account prepared.quote).allowed)
    (.executionDenied "risk evidence expired before submission")

/-- A denial after the durable writes is recorded, since no broker write was attempted. -/
def recordDenial (pending : BrokerOrder) (e : Exc) : Program B Unit :=
  if e.isExecutionDenied then do
    ask (.saveOrder (pending.withState .rejected))
    transition pending.intentId .submitting .rejected
      "local pre-submission gate denied; no broker write attempted"
    raise e
  else raise e

/-- What follows an exception of the broker call. -/
def classifyFailure (pending : BrokerOrder) (e : Exc) : Program B BrokerOrder :=
  if e = .cancelled then do
    recordInterruptedWrite pending "placement"
    raise e
  else if e.isUnknownSubmission then
    if svc.environment ≠ .live then raise e
    else do
      change (Ambient.stop "unresolved external broker submission")
      ask (.saveOrder (pending.withState .submissionUnknown))
      transition pending.intentId .submitting .submissionUnknown
        "external broker may have accepted command"
      raise (.submissionUnknown
        "broker write outcome is unknown; do not retry before reconciliation")
  else raise e

/-- The answer must be for this intent and this environment. -/
def correlate (intentId : UUID) (order : BrokerOrder) : Program B Unit :=
  if order.intentId ≠ intentId ∨ order.environment ≠ svc.environment then
    if svc.environment = .live then do
      change (Ambient.stop "broker returned an uncorrelated order")
      raise (.submissionUnknown "broker response cannot be correlated to durable intent")
    else raise (.safetyCritical "simulated/shadow broker returned an uncorrelated order")
  else pure ()

/-- Keep the broker's answer in the local journal. -/
def journal (pending order : BrokerOrder) (action reason : String) : Program B Unit :=
  attempt (do
      ask (.saveOrder order)
      transition pending.intentId .submitting order.state reason)
    fun e =>
      if e = .cancelled then do
        recordInterruptedWrite pending action (some order)
        raise e
      else raise e

/-- The broker call and what is made of its answer. -/
def submit (place : BrokerCommandIntent → OptionContract → Program B BrokerOrder)
    (p : TradeProposal) (prepared : Prepared) (pending : BrokerOrder) :
    Program B ExecutionResult := do
  let order ← attempt (place prepared.command p.contract) (svc.classifyFailure pending)
  svc.correlate prepared.intent.intentId order
  journal pending order "placement" "broker order state observed"
  pure ⟨prepared.intent, prepared.command, prepared.risk, prepared.review, order⟩

/-- `_execute` over a broker whose `place_option_order` is `place`. -/
def executeWith (place : BrokerCommandIntent → OptionContract → Program B BrokerOrder)
    (p : TradeProposal) (approval : Option ExactApproval) (draws : Draws) :
    Program B ExecutionResult := do
  let prepared ← svc.prepare p approval draws
  let pending ← svc.persist p prepared.intent prepared.command
  attempt (svc.lastGates p approval draws prepared) (recordDenial pending)
  svc.submit place p prepared pending

/-- `execute`. The lock that serialises the calls of one instance is left to the scheduler. -/
def execute (p : TradeProposal) (approval : Option ExactApproval) (draws : Draws) :
    Program B ExecutionResult :=
  svc.executeWith (fun command contract => ask (.placeOptionOrder command contract))
    p approval draws

def executeEntry (p : TradeProposal) (approval : Option ExactApproval) (draws : Draws) :
    Program B ExecutionResult := do
  raiseIf (p.side != .buyToOpen) (.executionDenied "execute_entry accepts BUY_TO_OPEN only")
  svc.execute p approval draws

/-! ### Cancellation -/

/-- `target.broker_order_id or str(target.order_id)`. -/
def cancelTargetId (target : BrokerOrder) : String :=
  match target.brokerOrderId with
  | some id => if id = "" then target.orderId.str else id
  | none => target.orderId.str

def cancelFingerprint (target : BrokerOrder) : String :=
  svc.hashing.sha256Json (.obj [("namespace", .str svc.namespace_),
    ("action", .str BrokerAction.cancelOptionOrder.value),
    ("target_order_id", .str (cancelTargetId target)),
    ("target_intent_id", .str target.intentId.str)])

def cancelIntent (target : BrokerOrder) (original : OrderIntent) (now : Time) : OrderIntent :=
  let fingerprint := svc.cancelFingerprint target
  let key := svc.idempotencyKey fingerprint .cancelOptionOrder
  { createdAt := now
    intentId := svc.intentId "cancel" key
    environment := svc.environment
    namespace_ := svc.namespace_
    proposalId := original.proposalId
    riskDecisionId := original.riskDecisionId
    approvalId := none
    reviewId := original.reviewId
    orderFingerprint := fingerprint
    idempotencyKey := key
    action := .cancelOptionOrder }

/-- The command of a cancellation; `limitPrice` is the target's own price as it is written. -/
def cancelCommand (target : BrokerOrder) (limitPrice : Decimal)
    (written : limitPrice.val = target.limitPrice) (original : BrokerCommandIntent)
    (intent : OrderIntent) (capability : CapabilityDescriptor) (arguments : Json)
    (observed effective : AccountSnapshot) (now : Time) : BrokerCommandIntent :=
  { createdAt := now
    commandIntentId := svc.commandIntentId intent.intentId capability.schemaHash
    orderIntentId := intent.intentId
    environment := svc.environment
    namespace_ := svc.namespace_
    action := .cancelOptionOrder
    capabilityName := capability.toolName
    capabilitySchemaVersion := capability.schemaVersion
    capabilitySchemaHash := capability.schemaHash
    instrumentId := target.contract.instrumentId
    side := target.side
    quantity := max 1 (target.quantity - target.filledQuantity)
    limitPrice := limitPrice
    validatedArguments := arguments
    proposalId := original.proposalId
    riskDecisionId := original.riskDecisionId
    approvalId := none
    quoteSnapshotId := original.quoteSnapshotId
    brokerObservedAccountSnapshotId := observedSnapshotId observed
    effectiveAccountSnapshotId := effective.snapshotId
    policyVersion := original.policyVersion
    orderFingerprint := intent.orderFingerprint
    idempotencyKey := intent.idempotencyKey
    quantity_pos := lt_of_lt_of_le one_pos (le_max_left 1 _)
    limitPrice_pos := written ▸ target.limitPrice_pos }

def cancellationBlocked (g : Ambient B) : Bool :=
  g.killSwitchActive || !g.healthy || !g.safety.permitsRiskReducingExit

/-- What follows an exception of the broker call. -/
def classifyCancelFailure (pending : BrokerOrder) (e : Exc) : Program B BrokerOrder :=
  if e = .cancelled then do
    recordInterruptedWrite pending "cancellation"
    raise e
  else if e.isUnknownSubmission then
    if svc.environment ≠ .live then raise e
    else do
      change (Ambient.stop "unresolved external broker cancellation")
      ask (.saveOrder (pending.withState .submissionUnknown))
      transition pending.intentId .submitting .submissionUnknown
        "external broker cancellation outcome is unknown"
      raise (.submissionUnknown
        "broker cancellation outcome is unknown; do not retry before reconciliation")
  else raise e

/-- The part of `_cancel_order` that follows its durable intent. -/
def submitCancellation (target : BrokerOrder) (limitPrice : Decimal)
    (written : limitPrice.val = target.limitPrice) (original : BrokerCommandIntent)
    (intent : OrderIntent) (observed effective : AccountSnapshot) :
    Program B CancellationResult := do
  let capabilities ← ask .getCapabilities
  match capabilities.descriptorForAction .cancelOptionOrder with
  | none => raise (.executionDenied "required cancel-order capability is unavailable")
  | some capability =>
    raiseIf (!capabilities.cancelOptionOrders)
      (.executionDenied "required cancel-order capability is unavailable")
    svc.refuseExternalWrites capabilities
    let arguments ← lift (svc.validate capability
      (.obj [("order_id", .str (cancelTargetId target)),
        ("client_order_id", .str intent.idempotencyKey)]))
    let now ← peek fun g => g.now
    let command := svc.cancelCommand target limitPrice written original intent capability arguments
      observed effective now
    ask (.saveCommandIntent command)
    let pending := { target with intentId := intent.intentId, state := .submitting }
    ask (.saveOrder pending)
    transition intent.intentId .intentPersisted .submitting "durable cancellation command ready"
    let blocked ← peek cancellationBlocked
    if blocked then do
      ask (.saveOrder (pending.withState .rejected))
      transition intent.intentId .submitting .rejected
        "local cancellation gate denied; no broker write attempted"
      raise (.executionDenied "cancellation safety changed before transmission")
    else do
      let result ← attempt (ask (.cancelOptionOrder command (cancelTargetId target)))
        (svc.classifyCancelFailure pending)
      let correlated := { result with intentId := intent.intentId }
      journal pending correlated "cancellation" "broker cancellation state observed"
      pure ⟨intent, command, correlated⟩

/-- `_cancel_order`: an exact cancellation command is durable before it reaches the broker. -/
def cancelOrder (target : BrokerOrder) (limitPrice : Decimal)
    (written : limitPrice.val = target.limitPrice) : Program B CancellationResult := do
  denyInterruptedWrites
  raiseIf (target.environment != svc.environment)
    (.executionDenied "target order environment does not match startup binding")
  raiseIf (target.state != .open_ && target.state != .partial_)
    (.executionDenied "only an open or partial order can be canceled")
  let unwell ← peek fun g => g.killSwitchActive || !g.healthy
  raiseIf unwell (.executionDenied "cancellation health/safety preflight failed")
  let safety ← peek fun g => g.safety
  raiseIf (!safety.permitsRiskReducingExit)
    (.executionDenied "runtime safety state blocks order cancellation")
  let originalIntent ← ask (.getOrderIntent target.intentId)
  let originalCommand ← ask (.getCommandForOrderIntent target.intentId)
  match originalIntent, originalCommand with
  | some originalIntent, some originalCommand =>
    let effective ← ask .getEffectiveExecutionAccountState
    let observed ← ask .getObservedBrokerAccountState
    let report ← ask .reconcile
    ask (.saveReconciliation report)
    raiseIf (!report.successful) (.executionDenied "broker reconciliation is incomplete")
    refuseDuplicate (svc.cancelFingerprint target)
      "matching cancellation is unresolved; blind retry is forbidden"
      "matching cancellation intent already exists"
    let now ← peek fun g => g.now
    let intent := svc.cancelIntent target originalIntent now
    ask (.saveOrderIntent intent)
    svc.submitCancellation target limitPrice written originalCommand intent observed effective
  | _, _ => raise (.executionDenied "target order has no complete durable intent evidence")

/-! ### Reconciliation of an unknown submission -/

/-- The report proves that the broker never accepted the intent. -/
def provesAbsence (report : ReconciliationReport) (intent : OrderIntent) : Bool :=
  (report.details.member "order_history_complete").any Json.isTrue &&
    (report.details.member "negative_match_idempotency_keys").any
      (Json.lists intent.idempotencyKey)

/-- A remote order that can stand for the local one. -/
def resolves (match_ local_ : BrokerOrder) : Bool :=
  match_.environment == svc.environment && match_.contract == local_.contract &&
    match_.side == local_.side && match_.quantity == local_.quantity &&
    match_.limitPrice == local_.limitPrice && match_.state != .submitting &&
    match_.state != .submissionUnknown

def reconcileSubmission (intentId : UUID) : Program B SubmissionReconciliation := do
  let local_ ← ask (.getOrder intentId)
  match local_ with
  | none => raise (.executionDenied "intent is not in SUBMISSION_UNKNOWN")
  | some local_ =>
    raiseIf (local_.state != .submissionUnknown)
      (.executionDenied "intent is not in SUBMISSION_UNKNOWN")
    let report ← ask .reconcile
    ask (.saveReconciliation report)
    if !report.successful || report.environment != svc.environment then
      pure ⟨intentId, none, report, false, false⟩
    else do
      let orders ← ask .getOrders
      match orders.find? fun order => order.intentId == intentId with
      | none =>
        -- absence from an open-order list does not establish non-acceptance
        let intent ← ask (.getOrderIntent intentId)
        if intent.any (provesAbsence report) then do
          ask (.recordNegativeReconciliation intentId)
          pure ⟨intentId, none, report, true, true⟩
        else pure ⟨intentId, none, report, false, false⟩
      | some match_ =>
        if svc.resolves match_ local_ then do
          ask (.saveOrder match_)
          transition intentId .submissionUnknown match_.state
            "broker reconciliation matched durable intent" true
          pure ⟨intentId, some match_, report, false, false⟩
        else pure ⟨intentId, none, report, false, false⟩

end ExecutionService
end Sentry
