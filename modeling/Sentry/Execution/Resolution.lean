import Sentry.Broker.Acknowledgements
import Sentry.Demo.Journal
import Sentry.Execution.LiveWrites

/-!
# Resolving an unknown submission

`RobinhoodMcpBroker.reconcile` of `app/broker/robinhood_mcp.py` and what
`ExecutionService.reconcile_submission` makes of its report. The adapter identifies an order of
its own by the broker's identifier, which a placement that failed in its transport never
received; the service identifies it by its intent.
-/
namespace Sentry

open Support Coroutine

/-- What the broker answers when it is read. -/
structure RemoteReads where
  observed : AccountSnapshot
  positions : List Position
  orders : List BrokerOrder

namespace RobinhoodState

/-- The orders whose outcome the adapter does not know and cannot find at the broker. -/
def unresolved (remote : List BrokerOrder) (b : RobinhoodState) : List BrokerOrder :=
  b.localOrders.values.filter fun order =>
    order.state == .submissionUnknown && !listed remote order

/-- `reconcile`, given what the broker was read to say. -/
def reconcile (remote : RemoteReads) (now : Time) (b : RobinhoodState) : ReconciliationReport :=
  let discrepancies := (b.unresolved remote.orders).map fun order =>
    "SUBMISSION_UNKNOWN unresolved: " ++ order.orderId.str
  { environment := .live
    reconciledAt := now
    successful := discrepancies.isEmpty
    observedAccount := remote.observed
    effectiveAccount := remote.observed
    positionCount := remote.positions.length
    openOrderCount := remote.orders.countP fun order =>
      order.state == .open_ || order.state == .partial_ || order.state == .submitting
    discrepancies
    details := .obj [("source", .str "authoritative Robinhood MCP reads")] }

end RobinhoodState

/-- The adapter of a live service and the durable tables beside it. -/
structure LiveBooks where
  adapter : RobinhoodState
  rows : Rows := {}
  transitions : List StateTransitionRecord := []
  reports : List ReconciliationReport := []

namespace LiveBooks

def setRows (rows : Rows) (g : Ambient LiveBooks) : Ambient LiveBooks :=
  g.adapt fun b => { b with rows }

/-- How the collaborators of a reconciliation answer when every read of the broker succeeds and
the storage works. -/
def answer (remote : RemoteReads) :
    (op : Op) → Ambient LiveBooks → Except Exc (Ans op) × Ambient LiveBooks
  | .getOrder id, g => (.ok (g.broker.rows.getOrder id), g)
  | .getOrderIntent id, g => (.ok (g.broker.rows.getOrderIntent id), g)
  | .reconcile, g => (.ok (g.broker.adapter.reconcile remote g.now), g)
  | .getOrders, g => (.ok (g.broker.adapter.getOrders remote.orders), g)
  | .saveReconciliation report, g =>
    (.ok (), g.adapt fun b => { b with reports := b.reports ++ [report] })
  | .saveOrder order, g =>
    match PostgresExecutionStore.saveOrder order g.broker.rows with
    | .ok rows => (.ok (), setRows rows g)
    | .error e => (.error e, g)
  | .recordTransition record, g =>
    (.ok (), g.adapt fun b => { b with transitions := b.transitions ++ [record] })
  | .recordNegativeReconciliation _, g => (.ok (), g)
  | _, g => (.error (.unlisted "not asked for"), g)

end LiveBooks

namespace ExecutionService

variable (svc : ExecutionService)

/-- `reconcile_submission` over an adapter and a store. -/
def resolve (remote : RemoteReads) (intentId : UUID) (g : Ambient LiveBooks) :
    Except Exc SubmissionReconciliation × Ambient LiveBooks :=
  run (LiveBooks.answer remote) (svc.reconcileSubmission intentId) g

/-- The remote order is returned as the match, and stored. -/
def Resolved (remote : RemoteReads) (intentId : UUID) (found : BrokerOrder)
    (g : Ambient LiveBooks) : Prop :=
  (∃ report, (svc.resolve remote intentId g).1 = .ok ⟨intentId, some found, report, false, false⟩) ∧
    (svc.resolve remote intentId g).2.broker.rows.getOrder intentId = some found

/-- A submission whose outcome is not known, and the one remote order that can stand for it. -/
structure Unknown (svc : ExecutionService) (remote : RemoteReads) (intentId : UUID)
    (local_ found : BrokerOrder) (g : Ambient LiveBooks) : Prop where
  live : svc.environment = .live
  durable : g.broker.rows.getOrder intentId = some local_
  intent : (g.broker.rows.getOrderIntent intentId).isSome
  unknown : local_.state = .submissionUnknown
  unfilled : local_.filledQuantity = 0
  only : remote.orders.filter (fun order => order.intentId == intentId) = [found]
  environment : found.environment = .live
  contract : found.contract = local_.contract
  side : found.side = local_.side
  quantity : found.quantity = local_.quantity
  limitPrice : found.limitPrice = local_.limitPrice
  filled : 0 ≤ found.filledQuantity
  submitted : found.state ≠ .submitting ∧ found.state ≠ .submissionUnknown

section Resolution

variable {svc : ExecutionService} {remote : RemoteReads} {intentId : UUID}
  {local_ found : BrokerOrder} {g : Ambient LiveBooks}

theorem reconcile_successful {b : RobinhoodState} {now : Time} :
    (b.reconcile remote now).successful = true ↔ b.unresolved remote.orders = [] := by
  simp [RobinhoodState.reconcile]

/-- Among all orders of the intent the remote one comes first. -/
theorem Unknown.first (unknown : Unknown svc remote intentId local_ found g) :
    (g.broker.adapter.getOrders remote.orders).find? (fun order => order.intentId == intentId) =
      some found := by
  have head := congrArg List.head? unknown.only
  rw [List.head?_filter] at head
  simp [RobinhoodState.getOrders, List.find?_append, head]

theorem Unknown.resolves (unknown : Unknown svc remote intentId local_ found g) :
    svc.resolves found local_ = true := by
  simp [ExecutionService.resolves, unknown.live, unknown.environment, unknown.contract,
    unknown.side, unknown.quantity, unknown.limitPrice, unknown.submitted.1, unknown.submitted.2]

theorem Unknown.intentId_eq (unknown : Unknown svc remote intentId local_ found g) :
    found.intentId = intentId := by
  have member : found ∈ remote.orders.filter fun order => order.intentId == intentId := by
    rw [unknown.only]
    exact List.mem_singleton.mpr rfl
  simpa using (List.mem_filter.mp member).2

/-- The store takes the match: its terms are those of the local order, which was never filled. -/
theorem Unknown.saved (unknown : Unknown svc remote intentId local_ found g) :
    PostgresExecutionStore.saveOrder found g.broker.rows = .ok (g.broker.rows.addOrder found) := by
  have differs : local_ ≠ found := fun same => unknown.submitted.2 (same ▸ unknown.unknown)
  have present := unknown.intent
  have filled := unknown.filled
  have unfilled := unknown.unfilled
  rw [← Option.isNone_eq_false_iff] at present
  simp [PostgresExecutionStore.saveOrder, PostgresExecutionStore.changesTerms,
    PostgresExecutionStore.changesIdentity, unknown.intentId_eq, unknown.durable, present,
    differs, unknown.unknown, unknown.contract, unknown.side, unknown.quantity,
    unknown.limitPrice]
  omega

/-- Once the report has been kept. -/
def reported (remote : RemoteReads) (g : Ambient LiveBooks) : Ambient LiveBooks :=
  g.adapt fun b => { b with reports := b.reports ++ [g.broker.adapter.reconcile remote g.now] }

/-- A report that lists an open outcome ends the reconciliation. -/
theorem Unknown.resolve_unresolved (unknown : Unknown svc remote intentId local_ found g)
    (blocked : g.broker.adapter.unresolved remote.orders ≠ []) :
    (svc.resolve remote intentId g).1 =
      .ok ⟨intentId, none, g.broker.adapter.reconcile remote g.now, false, false⟩ := by
  have failed : (g.broker.adapter.reconcile remote g.now).successful = false := by
    rw [← Bool.not_eq_true, reconcile_successful]
    exact blocked
  simp [resolve, reconcileSubmission, run_bind, run_call, run_pure, LiveBooks.answer,
    unknown.durable, unknown.unknown, raiseIf, Coroutine.run, failed]

/-- Otherwise the match is stored, and its state decides what is returned. -/
theorem Unknown.resolve_resolved (unknown : Unknown svc remote intentId local_ found g)
    (free : g.broker.adapter.unresolved remote.orders = []) :
    (svc.resolve remote intentId g).1 =
        (OrderStateMachine.transition .submissionUnknown found.state true).map (fun _ =>
          ⟨intentId, some found, g.broker.adapter.reconcile remote g.now, false, false⟩) ∧
      (svc.resolve remote intentId g).2.broker.rows = g.broker.rows.addOrder found := by
  have successful : (g.broker.adapter.reconcile remote g.now).successful = true :=
    reconcile_successful.mpr free
  have environment : (g.broker.adapter.reconcile remote g.now).environment = svc.environment :=
    unknown.live.symm
  cases moved : OrderStateMachine.transition .submissionUnknown found.state true <;>
    simp [resolve, reconcileSubmission, run_bind, run_call, run_pure, run_peek, run_lift,
      LiveBooks.answer, LiveBooks.setRows, unknown.durable, unknown.unknown, raiseIf, Coroutine.run,
      successful, environment, unknown.first, unknown.resolves, unknown.saved, transition, moved,
      Ambient.adapt, Except.map]

end Resolution

/-- An unknown submission is resolved if and only if the adapter has no unknown order that the
broker does not list under its identifier, and the remote state is one that an order can be in
once the broker has it. -/
theorem reconcileSubmission_resolved_iff (svc : ExecutionService) (remote : RemoteReads)
    (intentId : UUID) (local_ found : BrokerOrder) (g : Ambient LiveBooks)
    (unknown : Unknown svc remote intentId local_ found g) :
    svc.Resolved remote intentId found g ↔
      (∀ order ∈ g.broker.adapter.localOrders.values, order.state = .submissionUnknown →
        RobinhoodState.listed remote.orders order = true) ∧
        OrderStateMachine.canTransition .submissionUnknown found.state true = true := by
  have listed_iff : g.broker.adapter.unresolved remote.orders = [] ↔
      ∀ order ∈ g.broker.adapter.localOrders.values, order.state = .submissionUnknown →
        RobinhoodState.listed remote.orders order = true := by
    simp [RobinhoodState.unresolved, List.filter_eq_nil_iff]
  rw [← listed_iff]
  by_cases free : g.broker.adapter.unresolved remote.orders = []
  · obtain ⟨answered, stored⟩ := unknown.resolve_resolved free
    have kept : (svc.resolve remote intentId g).2.broker.rows.getOrder intentId = some found := by
      rw [stored]
      nth_rewrite 1 [← unknown.intentId_eq]
      exact Rows.getOrder_addOrder _ _
    simp only [Resolved, kept, answered, free, true_and, and_true]
    unfold OrderStateMachine.transition
    split
    next allowed => simp [allowed, Except.map]
    next refused => simp [refused, Except.map]
  · simp [Resolved, free, unknown.resolve_unresolved free]

end ExecutionService

/-! ### What a failed transport leaves -/

namespace RobinhoodMcpBroker

variable {broker : RobinhoodMcpBroker} {command : BrokerCommandIntent} {contract : OptionContract}
  {h : History} {g : Ambient RobinhoodState}

/-- The adapter keeps an order whose outcome it does not know and whose identifier at the broker
it never learned. -/
def Forgotten (b : RobinhoodState) : Prop :=
  ∃ order ∈ b.localOrders.values, order.state = .submissionUnknown ∧ order.brokerOrderId = none

/-- If the transport failed, its order is forgotten. -/
def LeftBehind (h : History) (g : Ambient RobinhoodState) : Prop :=
  ∀ name arguments e, ⟨.callTool name arguments, .error e⟩ ∈ h → e.isOSError = true →
    Forgotten g.broker

theorem leftBehind_of_unsent (unsent : ∀ item ∈ h, item.op.isWrite = false) : LeftBehind h g :=
  fun _ _ _ failed => absurd (unsent _ failed) (by simp [Op.isWrite])

theorem sat_write_leftBehind {unknown : String} {validated : Json} {local_ : BrokerOrder}
    (unnamed : local_.brokerOrderId = none) (unsent : ∀ item ∈ h, item.op.isWrite = false) :
    Sat alone (fun h' g' _ => LeftBehind h' g') (broker.write unknown command validated local_)
      h g := by
  -- the call of the transport is the only write there can be
  have last : ∀ (r : Except Exc ToolResult) (g' : Ambient RobinhoodState),
      (∀ e, r = .error e → e.isOSError = true → Forgotten g'.broker) →
      LeftBehind (h ++ [⟨.callTool command.capabilityName validated, r⟩]) g' := by
    intro r g' left name arguments e failed os
    rcases List.mem_append.mp failed with old | new
    · exact absurd (unsent _ old) (by simp [Op.isWrite])
    · cases List.mem_singleton.mp new
      exact left e rfl os
  rw [write, sat_bind, sat_attempt, sat_call]
  refine ⟨trivial, fun r g₁ _ => ?_⟩
  cases r with
  | ok raw =>
    have quiet := fun g' => last (.ok raw) g' (by simp)
    change Sat _ _ (lift _ >>= _) _ _
    apply Sat.lift_bind
    · exact fun _ _ => quiet _
    · exact fun parsed _ => quiet _
  | error e =>
    change Sat _ _ (writeFailed unknown local_ e) _ _
    unfold writeFailed
    split
    · -- an `OSError` leaves the local order unknown, and still unnamed
      apply Sat.change_bind
      apply last
      intro e' same os
      exact ⟨local_.withState .submissionUnknown,
        Dict.mem_values.mpr ⟨local_.orderId, Dict.get?_set_self _ _ _⟩, rfl, unnamed⟩
    next other =>
      apply last
      intro e' same os
      cases same
      exact absurd os other

/-- Until the transport is reached nothing is written. -/
theorem sat_unsent {α : Type} {p : Program RobinhoodState α}
    {f : α → Program RobinhoodState BrokerOrder} {returns : α → Prop}
    (unsent : ∀ item ∈ h, item.op.isWrite = false)
    (emits : Emits (fun op => op.isWrite = false) returns p)
    (rest : ∀ h g a, (∀ item ∈ h, item.op.isWrite = false) →
      Sat alone (fun h' g' _ => LeftBehind h' g') (f a) h g) :
    Sat alone (fun h' g' _ => LeftBehind h' g') (p >>= f) h g := by
  have more : ∀ rest : History, (∀ item ∈ rest, item.op.isWrite = false) →
      ∀ item ∈ h ++ rest, item.op.isWrite = false := by
    intro rest quiet item member
    exact (List.mem_append.mp member).elim (unsent item) (quiet item)
  rw [sat_bind]
  apply emits.sat
  · exact fun _ _ _ _ _ => trivial
  · exact fun rest g' _ quiet => leftBehind_of_unsent (more rest quiet)
  · exact fun later g' a quiet _ => rest _ g' a (more later quiet)

theorem sat_placeOptionOrder_leftBehind :
    Sat alone (fun h' g' _ => LeftBehind h' g') (broker.placeOptionOrder command contract) [] g := by
  have start : ∀ item ∈ ([] : History), item.op.isWrite = false := by simp
  unfold placeOptionOrder
  refine sat_unsent start (emits_raiseIf _ _) fun h g _ quiet => ?_
  refine sat_unsent quiet (emits_raiseIf _ _) fun h g _ quiet => ?_
  refine sat_unsent quiet (emits_raiseIf _ _) fun h g _ quiet => ?_
  refine sat_unsent quiet (emits_peek _) fun h g state quiet => ?_
  refine sat_unsent quiet (emits_lift _) fun h g duplicate quiet => ?_
  split
  · refine sat_unsent quiet (emits_raiseIf _ _) fun h g _ quiet => ?_
    exact leftBehind_of_unsent quiet
  · refine sat_unsent quiet (emits_call rfl) fun h g validated quiet => ?_
    refine sat_unsent quiet emits_recordBrokerCommandIntent fun h g _ quiet => ?_
    refine sat_unsent quiet (emits_peek _) fun h g now quiet => ?_
    refine sat_unsent quiet (emits_change _) fun h g _ quiet => ?_
    refine sat_unsent quiet (emits_change _) fun h g _ quiet => ?_
    refine sat_unsent quiet (emits_call rfl) fun h g authorization quiet => ?_
    refine sat_unsent quiet (emits_lift _) fun h g _ quiet => ?_
    split
    · refine sat_unsent quiet (emits_change _) fun h g _ quiet => ?_
      exact leftBehind_of_unsent quiet
    · exact sat_write_leftBehind rfl quiet

/-- After a placement whose transport failed, no list of remote orders makes the report of this
adapter a success. -/
theorem transport_failure_unresolved {g' : Ambient RobinhoodState} {r : Except Exc BrokerOrder}
    (passes : Passes undisturbed (broker.placeOptionOrder command contract) g h (lift r) g')
    {name : String} {arguments : Json} {e : Exc}
    (failed : ⟨.callTool name arguments, .error e⟩ ∈ h) (os : e.isOSError = true)
    (remote : List BrokerOrder) : g'.broker.unresolved remote ≠ [] := by
  have left : LeftBehind h g' := (sat_lift r).mp (sat_placeOptionOrder_leftBehind.passes passes)
  obtain ⟨order, kept, unknown, unnamed⟩ := left name arguments e failed os
  apply List.ne_nil_of_mem
  exact List.mem_filter.mpr ⟨kept, by simp [unknown, RobinhoodState.listed, unnamed]⟩

end RobinhoodMcpBroker

/-! ### A sample timeout -/

namespace TimeoutSample

open RobinhoodMcpBroker

/-- A transport that times out. -/
def handler (op : Op) (g : Ambient RobinhoodState) :
    Except Exc (Ans op) × Ambient RobinhoodState :=
  match op with
  | .callTool _ _ => (.error .timeout, g)
  | op => WriteSample.handler op g

/-- The adapter once a placement has failed in its transport. -/
def adapter : RobinhoodState :=
  (run handler (WriteSample.broker.placeOptionOrder (WriteSample.command .placeOptionOrder)
    WriteSample.contract) { WriteSample.surroundings with broker := {} }).2.broker

def local_ : BrokerOrder :=
  (WriteSample.broker.localOrder (WriteSample.command .placeOptionOrder) WriteSample.contract
    20).withState .submissionUnknown

/-- The order as the broker lists it. -/
def found : BrokerOrder := { local_ with brokerOrderId := some "rh-1", state := .open_ }

def intent : OrderIntent where
  createdAt := 20
  intentId := ⟨2⟩
  environment := .live
  namespace_ := "live"
  proposalId := ⟨3⟩
  riskDecisionId := ⟨4⟩
  approvalId := none
  reviewId := ⟨8⟩
  orderFingerprint := "order"
  idempotencyKey := "key"
  action := .placeOptionOrder

def remote : RemoteReads := ⟨LiveSample.account, [], [found]⟩

def surroundings (adapter : RobinhoodState) : Ambient LiveBooks where
  tradingMode := .auto
  killSwitchActive := false
  healthy := true
  now := 30
  safety := { window := 0, state := .normal, reason := "all deterministic health gates passed" }
  interruptedWriteIntents := []
  broker := { adapter, rows := { orderIntents := [intent], orders := [local_] } }

theorem unknown (adapter : RobinhoodState) :
    ExecutionService.Unknown LiveSample.service remote ⟨2⟩ local_ found (surroundings adapter) where
  live := rfl
  durable := rfl
  intent := rfl
  unknown := rfl
  unfilled := rfl
  only := rfl
  environment := rfl
  contract := rfl
  side := rfl
  quantity := rfl
  limitPrice := rfl
  filled := le_refl 0
  submitted := by decide

end TimeoutSample

/-- In a process that was started since, the order is found. -/
theorem reconcileSubmission_resolved_iff_restarted :
    LiveSample.service.Resolved TimeoutSample.remote ⟨2⟩ TimeoutSample.found
        (TimeoutSample.surroundings {}) ↔
      (∀ order ∈ (TimeoutSample.surroundings {}).broker.adapter.localOrders.values,
        order.state = .submissionUnknown →
          RobinhoodState.listed TimeoutSample.remote.orders order = true) ∧
        OrderStateMachine.canTransition .submissionUnknown TimeoutSample.found.state true = true :=
  ExecutionService.reconcileSubmission_resolved_iff LiveSample.service TimeoutSample.remote ⟨2⟩
    TimeoutSample.local_ TimeoutSample.found _ (TimeoutSample.unknown {})

/-- In the process whose placement timed out, the order that the broker lists is not the
match. -/
theorem timed_out_submission_unresolved :
    ¬ ∀ (remote : RemoteReads) (intentId : UUID) (local_ found : BrokerOrder)
      (g : Ambient LiveBooks),
      ExecutionService.Unknown LiveSample.service remote intentId local_ found g →
        LiveSample.service.Resolved remote intentId found g := by
  intro resolved
  have answered := (resolved _ _ _ _ _ (TimeoutSample.unknown TimeoutSample.adapter)).1
  obtain ⟨report, same⟩ := answered
  have blocked : (LiveSample.service.resolve TimeoutSample.remote ⟨2⟩
      (TimeoutSample.surroundings TimeoutSample.adapter)).1.toOption.bind
        SubmissionReconciliation.matchedOrder = none := by decide +kernel
  rw [same] at blocked
  cases blocked

end Sentry
