import Sentry.Ledger.OrderBook

/-!
# Submitting and cancelling at any time

What a submission and a cancellation do in the states that operations and restarts
reach: when a submission leaves the earlier orders alone, what it makes of a reviewed
proposal, what the same submission does later on, and when a cancellation has canceled
what it was asked to.
-/
namespace Sentry

open Support

namespace ShadowLedger

section Submissions

variable {D : Decimal.Context} {cfg : LedgerConfig} {now : Time} {s s' : ShadowLedger}
  {command : BrokerCommandIntent} {contract : OptionContract} {order : BrokerOrder} {id : UUID}

/-! ### Submissions that return -/

/-- The proposal last reviewed under the command's proposal, if there is one, has the
command's terms. -/
def Agrees (command : BrokerCommandIntent) (s : ShadowLedger) : Prop :=
  ∀ proposal ∈ s.proposals.get? command.proposalId,
    proposal.contract.instrumentId = command.instrumentId ∧ proposal.side = command.side ∧
      proposal.quantity = command.quantity ∧ proposal.limitPrice.val = command.limitPrice.val

/-- Of a bound command only the terms of the reviewed proposal are left to check. -/
theorem validateCommand_of_bound {expected : BrokerAction}
    (bound : Bound cfg command contract expected) :
    (Agrees command s ∧ validateCommand cfg command contract expected s = .ok ()) ∨
    ¬Agrees command s ∧
      ∃ text, validateCommand cfg command contract expected s = .error (.safetyCritical text) := by
  unfold validateCommand Agrees
  simp only [bound.environment, bound.namespace_, bound.action, bound.instrument, ne_eq,
    not_true_eq_false, if_false]
  cases reviewed : s.proposals.get? command.proposalId with
  | none =>
    refine Or.inl ⟨fun _ member => ?_, rfl⟩
    cases member
  | some proposal =>
    dsimp only
    have only : ∀ q ∈ some proposal, q = proposal := fun q member => (Option.some.inj member).symm
    split
    next other =>
      refine Or.inr ⟨fun agrees => other ?_, _, rfl⟩
      exact (agrees proposal rfl).1
    next instrument =>
      split
      next other =>
        refine Or.inr ⟨fun agrees => ?_, _, rfl⟩
        have terms := agrees proposal rfl
        rcases other with side | quantity
        · exact side terms.2.1
        · exact quantity terms.2.2.1
      next terms =>
        split
        next limit => exact Or.inr ⟨fun agrees => limit (agrees proposal rfl).2.2.2, _, rfl⟩
        next limit =>
          obtain ⟨side, quantity⟩ := not_or.mp terms
          refine Or.inl ⟨fun q member => ?_, rfl⟩
          rw [only q member]
          exact ⟨not_not.mp instrument, not_not.mp side, not_not.mp quantity, not_not.mp limit⟩

/-- The order a key leads to, for a command that may have it. -/
structure Leads (cfg : LedgerConfig) (command : BrokerCommandIntent) (id : UUID)
    (item : LedgerOrder) (s : ShadowLedger) : Prop where
  known : s.orderByIdempotency.get? command.idempotencyKey = some id
  found : s.orders.get? id = some item
  same : command.action = .placeOptionOrder →
    item.command.commandHash cfg.hashing = command.commandHash cfg.hashing

theorem duplicateOrder_cases (cfg : LedgerConfig) (command : BrokerCommandIntent)
    (s : ShadowLedger) :
    (s.orderByIdempotency.get? command.idempotencyKey = none ∧
      duplicateOrder cfg command s = .ok none) ∨
    (∃ id item, Leads cfg command id item s ∧
      duplicateOrder cfg command s = .ok (some item.published)) ∨
    (∃ id, s.orderByIdempotency.get? command.idempotencyKey = some id ∧
      (s.orders.get? id = none ∨ command.action = .placeOptionOrder)) ∧
      ∃ e, duplicateOrder cfg command s = .error e := by
  unfold duplicateOrder
  cases known : s.orderByIdempotency.get? command.idempotencyKey with
  | none => exact Or.inl ⟨rfl, rfl⟩
  | some id =>
    dsimp only
    cases found : s.orders.get? id with
    | none => exact Or.inr (Or.inr ⟨⟨id, rfl, Or.inl found⟩, _, rfl⟩)
    | some item =>
      dsimp only
      split
      next reused => exact Or.inr (Or.inr ⟨⟨id, rfl, Or.inr reused.1⟩, _, rfl⟩)
      next same =>
        refine Or.inr (Or.inl ⟨id, item, ⟨known, found, ?_⟩, rfl⟩)
        intro place
        by_contra other
        exact same ⟨place, other⟩

/-- A submission that returns was bound and agreed with its reviewed proposal; it found
the order of its key, or its key was new and it recorded an order. -/
theorem submit_ok (returned : (submit D cfg now command contract s).1 = .ok order) :
    Bound cfg command contract .placeOptionOrder ∧ Agrees command s ∧
    ((∃ id item, Leads cfg command id item s ∧ item.published = order ∧
        (submit D cfg now command contract s).2 = s) ∨
      s.orderByIdempotency.get? command.idempotencyKey = none ∧
        recordSubmission D cfg now command contract s =
          (order, (submit D cfg now command contract s).2)) := by
  cases valid : validateCommand cfg command contract .placeOptionOrder s with
  | error e =>
    simp only [submit, valid] at returned
    cases returned
  | ok u =>
    have bound := bound_of_validateCommand valid
    have agrees : Agrees command s := by
      rcases validateCommand_of_bound (s := s) bound with ⟨agrees, -⟩ | ⟨-, text, refused⟩
      · exact agrees
      · rw [refused] at valid
        cases valid
    refine ⟨bound, agrees, ?_⟩
    rcases duplicateOrder_cases cfg command s with
      ⟨unused, new⟩ | ⟨id, item, leads, duplicate⟩ | ⟨-, e, refused⟩
    · simp only [submit, valid, new] at returned ⊢
      cases returned
      exact Or.inr ⟨unused, rfl⟩
    · simp only [submit, valid, duplicate] at returned ⊢
      cases returned
      exact Or.inl ⟨id, item, leads, rfl, trivial⟩
    · simp only [submit, valid, refused] at returned
      cases returned

/-- A submission whose key leads to an order returns that order, unless a proposal
reviewed since then has other terms; it changes nothing. -/
theorem submit_again {item : LedgerOrder} (bound : Bound cfg command contract .placeOptionOrder)
    (leads : Leads cfg command id item s) :
    (Agrees command s → submit D cfg now command contract s = (.ok item.published, s)) ∧
    (¬Agrees command s →
      ∃ text, submit D cfg now command contract s = (.error (.safetyCritical text), s)) := by
  have duplicate : duplicateOrder cfg command s = .ok (some item.published) := by
    simp only [duplicateOrder, leads.known, leads.found, leads.same bound.action, ne_eq,
      not_true_eq_false, and_false, if_false]
  rcases validateCommand_of_bound (s := s) bound with ⟨agrees, valid⟩ | ⟨differs, text, refused⟩
  · refine ⟨fun _ => ?_, fun differs => absurd agrees differs⟩
    simp only [submit, valid, duplicate]
  · refine ⟨fun agrees => absurd agrees differs, fun _ => ⟨text, ?_⟩⟩
    simp only [submit, refused]

/-! ### Orders that stay as they were -/

/-- Every order is stored as it was, and so are the fills, whose orders they name. -/
def Undisturbed (s s' : ShadowLedger) : Prop :=
  (∀ key item, s.orders.get? key = some item → s'.orders.get? key = some item) ∧
    s'.fills = s.fills

/-- A new order leaves the others alone when none of them had its identifier. -/
theorem undisturbed_recordSubmission (free : s.orders.get? (orderIdFor cfg command) = none) :
    Undisturbed s (recordSubmission D cfg now command contract s).2 := by
  have same := congrArg fills (recordSubmission_frame cfg s now command contract D)
  refine ⟨?_, same⟩
  intro key item found
  have other : orderIdFor cfg command ≠ key := by
    rintro rfl
    rw [free] at found
    cases found
  rw [recordSubmission_orders, Dict.get?_set_of_ne _ _ other]
  exact found

/-- The order under its identifier would have made the key known. -/
theorem Booked.free_of_undisturbed {commands : List BrokerCommandIntent}
    (booked : Booked cfg commands s)
    (unseen : s.orderByIdempotency.get? command.idempotencyKey = none)
    (undisturbed : Undisturbed s (recordSubmission D cfg now command contract s).2) :
    s.orders.get? (orderIdFor cfg command) = none := by
  cases taken : s.orders.get? (orderIdFor cfg command) with
  | none => rfl
  | some item =>
    have stored := undisturbed.1 _ item taken
    rw [recordSubmission_orders, Dict.get?_set_self] at stored
    have same : item.command = command := by rw [← Option.some.inj stored]
    obtain ⟨id, known⟩ := booked.known _ item taken
    rw [same, unseen] at known
    cases known

end Submissions

/-- A submission under a new key leaves every stored order and its fills as they were if
and only if no order is stored under the identifier derived from its order intent. -/
theorem submit_undisturbed_iff (D : Decimal.Context) (cfg : LedgerConfig)
    (events : List (Time × Event)) (now : Time) (command : BrokerCommandIntent)
    (contract : OptionContract) (order : BrokerOrder)
    (unseen : (live D cfg events (fresh cfg)).orderByIdempotency.get? command.idempotencyKey = none)
    (returned : (submit D cfg now command contract (live D cfg events (fresh cfg))).1 = .ok order) :
    let s := live D cfg events (fresh cfg)
    Undisturbed s (submit D cfg now command contract s).2 ↔
      s.orders.get? (orderIdFor cfg command) = none := by
  intro s
  obtain ⟨-, -, ⟨id, item, leads, -⟩ | ⟨-, recorded⟩⟩ := submit_ok returned
  · rw [leads.known] at unseen
    cases unseen
  · have left : (submit D cfg now command contract s).2 =
        (recordSubmission D cfg now command contract s).2 := by rw [recorded]
    rw [left]
    exact ⟨(live_booked events).free_of_undisturbed unseen, undisturbed_recordSubmission⟩

theorem ok_of_raised {α : Type} {outcome : Except Exc α} (returned : raised outcome = none) :
    ∃ a, outcome = .ok a := by
  cases outcome with
  | error e => cases returned
  | ok a => exact ⟨a, rfl⟩

/-- The first placement of `sampleRun`, and then a quote that fills it and a restart. -/
def sampleEvents : List (Time × Event) :=
  [(10, .call (.submit (sampleCommand 11 .placeOptionOrder .buyToOpen 2 ⟨150, -2⟩) sampleContract)),
    (20, .call (.observeQuote sampleIds (sampleQuote 5 15 15 1 (5 / 4)))), (25, .restart)]

theorem submit_undisturbed_iff_sampleEvents :
    let s := live .exact sampleConfig sampleEvents (fresh sampleConfig)
    let command := sampleCommand 12 .placeOptionOrder .sellToClose 1 ⟨2, 0⟩
    s.orders.values.map (fun item => item.published.state) = [.filled] ∧
      s.fills.map (fun fill => fill.quantity) = [2] ∧
      Undisturbed s (submit .exact sampleConfig 30 command sampleContract s).2 := by
  intro s command
  have accepted : raised (submit .exact sampleConfig 30 command sampleContract s).1 = none := by
    decide +kernel
  obtain ⟨order, returned⟩ := ok_of_raised accepted
  refine ⟨by decide +kernel, by decide +kernel, ?_⟩
  have unseen : s.orderByIdempotency.get? command.idempotencyKey = none := by decide +kernel
  have free : s.orders.get? (orderIdFor sampleConfig command) = none := by decide +kernel
  exact (submit_undisturbed_iff .exact sampleConfig sampleEvents 30 command sampleContract order
    unseen returned).mpr free

/-- The events of a run without restarts. -/
def calls (ops : List (Time × Op)) : List (Time × Event) :=
  ops.map fun step => (step.1, .call step.2)

/-- A second placement for the order intent of a filled order, under a key of its own. -/
def secondPlacement : BrokerCommandIntent :=
  { sampleCommand 12 .placeOptionOrder .buyToOpen 1 ⟨1, 0⟩ with orderIntentId := ⟨11⟩ }

/-- A filled order of two contracts is replaced by an open one of none. -/
theorem submit_replaces :
    let s := live .exact sampleConfig (calls (sampleRun.take 2)) (fresh sampleConfig)
    let key := orderIdFor sampleConfig secondPlacement
    let outcome := submit .exact sampleConfig 30 secondPlacement sampleContract s
    s.orderByIdempotency.get? secondPlacement.idempotencyKey = none ∧
      raised outcome.1 = none ∧
      (s.orders.get? key).map (fun item => (item.published.state, item.published.filledQuantity)) =
        some (.filled, 2) ∧
      (outcome.2.orders.get? key).map
        (fun item => (item.published.state, item.published.filledQuantity)) = some (.open_, 0) ∧
      outcome.2.fills.map (fun fill => (fill.orderId, fill.quantity)) = [(key, 2)] := by
  decide +kernel

/-! ### Submitting again -/

section Again

variable {D : Decimal.Context} {cfg : LedgerConfig} {now : Time} {s s' : ShadowLedger}
  {command : BrokerCommandIntent} {contract : OptionContract} {order : BrokerOrder}

/-- After a submission its key leads to the order it returned. -/
theorem leads_of_submit {commands : List BrokerCommandIntent} (booked : Booked cfg commands s)
    (returned : (submit D cfg now command contract s).1 = .ok order) :
    ∃ item, Leads cfg command order.orderId item (submit D cfg now command contract s).2 := by
  obtain ⟨-, -, ⟨id, item, leads, same, unchanged⟩ | ⟨-, recorded⟩⟩ := submit_ok returned
  · have named : order.orderId = id := by
      rw [← same]
      exact booked.keyed id item leads.found
    rw [named, unchanged]
    exact ⟨item, leads⟩
  · have named : order.orderId = orderIdFor cfg command :=
      (congrArg (fun outcome => outcome.1.orderId) recorded).symm
    have orders := recordSubmission_orders cfg s now command contract D
    have keys := congrArg orderByIdempotency (recordSubmission_frame cfg s now command contract D)
    rw [recorded] at orders keys
    refine ⟨recordedOrder cfg now command contract
      (rejectionReasonsFor D cfg now command contract s), ?_, ?_, ?_⟩
    · rw [keys, named, Dict.get?_set_self]
    · rw [orders, named, Dict.get?_set_self]
    · exact fun _ => rfl

/-- What a key leads to stays there through a run and advances. -/
theorem Leads.run {commands : List BrokerCommandIntent} {id : UUID} {item : LedgerOrder}
    (leads : Leads cfg command id item s) (booked : Booked cfg commands s)
    (one : OneIntent cfg commands) (ops : List (Time × Op))
    (inRun : ∀ c ∈ placed ops, c ∈ commands) :
    ∃ item', Leads cfg command id item' (run D cfg ops s) ∧ Advanced item item' := by
  have known : (ShadowLedger.run D cfg ops s).orderByIdempotency.get? command.idempotencyKey =
      some id :=
    run_keeps (J := fun s => s.orderByIdempotency.get? command.idempotencyKey = some id)
      (fun change known => change.key_kept known) ops s leads.known
  obtain ⟨item', found, advanced⟩ := run_grows D ops booked one inRun id item leads.found
  refine ⟨item', ⟨known, found, ?_⟩, advanced⟩
  rw [advanced.frame]
  exact leads.same

/-- The same submission, made again after any operations and restarts. -/
theorem live_submit_again (events rest : List (Time × Event))
    (one : OneIntent cfg (placed (operations
      (events ++ (now, .call (.submit command contract)) :: rest))))
    (returned : (submit D cfg now command contract (live D cfg events (fresh cfg))).1 = .ok order) :
    let s' := live D cfg (events ++ (now, .call (.submit command contract)) :: rest) (fresh cfg)
    ∃ current, s'.orders.get? order.orderId = some current ∧
      ∀ at_ again, again.instrumentId = contract.instrumentId →
        (Agrees command s' → submit D cfg at_ command again s' = (.ok current.published, s')) ∧
        (¬Agrees command s' →
          ∃ text, submit D cfg at_ command again s' = (.error (.safetyCritical text), s')) := by
  intro s'
  have reached : s' = run D cfg (operations rest)
      (submit D cfg now command contract (live D cfg events (fresh cfg))).2 := by
    simp only [s', live_eq_run, operations_append, run_append]
    rfl
  have placedAll : placed (operations (events ++ (now, .call (.submit command contract)) :: rest)) =
      placed (operations events) ++ command :: placed (operations rest) := by
    rw [operations_append, placed_append]
    rfl
  rw [placedAll] at one
  have booked : Booked cfg (placed (operations events) ++ command :: placed (operations rest))
      (live D cfg events (fresh cfg)) := by
    rw [live_eq_run]
    exact run_booked D cfg _ (fun _ member => List.mem_append_left _ member) _ (booked_fresh _)
  have after : Booked cfg (placed (operations events) ++ command :: placed (operations rest))
      (submit D cfg now command contract (live D cfg events (fresh cfg))).2 :=
    booked.perform (.submit command contract) fun c member => by
      rw [← Option.mem_some.mp member]
      exact List.mem_append_right _ List.mem_cons_self
  obtain ⟨item, leads⟩ := leads_of_submit booked returned
  obtain ⟨current, leads', -⟩ := leads.run (D := D) after one (operations rest) fun c member =>
    List.mem_append_right _ (List.mem_cons_of_mem _ member)
  rw [← reached] at leads'
  refine ⟨current, leads'.found, fun at_ again instrument => ?_⟩
  have bound := (submit_ok returned).1
  exact submit_again { bound with instrument := bound.instrument.trans instrument.symm } leads'

end Again

/-- The life of an order. In a run with restarts and with one order for each intent no order
is lost, no filled quantity falls and no terminal order changes; and a command that was
submitted once, when submitted again at any later time, returns the current record of its
order and changes nothing, unless its proposal has been reviewed again with other terms:
then it raises `SafetyCriticalError`, and again changes nothing. -/
theorem live_lifecycle (D : Decimal.Context) (cfg : LedgerConfig)
    (events later : List (Time × Event))
    (one : OneIntent cfg (placed (operations (events ++ later)))) :
    let s := live D cfg events (fresh cfg)
    let s' := live D cfg (events ++ later) (fresh cfg)
    (∀ key item, s.orders.get? key = some item → ∃ item', s'.orders.get? key = some item' ∧
      item.published.filledQuantity ≤ item'.published.filledQuantity ∧
      (item.published.state.isTerminal = true → item' = item)) ∧
    ∀ now command contract order rest, later = (now, .call (.submit command contract)) :: rest →
      (submit D cfg now command contract s).1 = .ok order →
      ∃ current, s'.orders.get? order.orderId = some current ∧
        ∀ at_ again, again.instrumentId = contract.instrumentId →
          (Agrees command s' → submit D cfg at_ command again s' = (.ok current.published, s')) ∧
          (¬Agrees command s' →
            ∃ text, submit D cfg at_ command again s' = (.error (.safetyCritical text), s')) := by
  intro s s'
  constructor
  · intro key item found
    obtain ⟨item', found', advanced⟩ := live_grows events later one key item found
    exact ⟨item', found', advanced.filled_le, advanced.terminal⟩
  · rintro now command contract order rest rfl returned
    exact live_submit_again events rest one returned

/-- A proposal to buy one contract, reviewed under the identifier of the first placement of
`sampleRun`, which is for two. -/
def sampleProposal : TradeProposal where
  createdAt := 0
  proposalId := ⟨11⟩
  environment := .demo
  namespace_ := "demo"
  packetId := ⟨8⟩
  symbol := "SPY"
  contract := sampleContract
  side := .buyToOpen
  quantity := 1
  limitPrice := ⟨150, -2⟩
  quoteSnapshotId := ⟨1⟩
  quoteAsOf := 0
  policyVersion := "policy"
  riskConfigVersion := "risk"
  thesis := "thesis"
  invalidationConditions := []
  quantity_pos := count_pos (nat_lit 1)
  limitPrice_pos := Decimal.val_pos (nat_lit 150) (nat_lit 2)

theorem sampleEvents_one : OneIntent sampleConfig (placed (operations sampleEvents)) :=
  ⟨by decide +kernel, by decide +kernel⟩

theorem live_lifecycle_sampleEvents :
    OneIntent sampleConfig (placed (operations ([] ++ sampleEvents))) ∧
    ∃ current, (live .exact sampleConfig ([] ++ sampleEvents)
        (fresh sampleConfig)).orders.get? (orderIdFor sampleConfig
          (sampleCommand 11 .placeOptionOrder .buyToOpen 2 ⟨150, -2⟩)) = some current ∧
      submit .exact sampleConfig 30 (sampleCommand 11 .placeOptionOrder .buyToOpen 2 ⟨150, -2⟩)
          sampleContract (live .exact sampleConfig ([] ++ sampleEvents) (fresh sampleConfig)) =
        (.ok current.published,
          live .exact sampleConfig ([] ++ sampleEvents) (fresh sampleConfig)) := by
  refine ⟨sampleEvents_one, ?_⟩
  obtain ⟨current, found, again⟩ := (live_lifecycle .exact sampleConfig [] sampleEvents
    sampleEvents_one).2 10 (sampleCommand 11 .placeOptionOrder .buyToOpen 2 ⟨150, -2⟩)
      sampleContract _ _ rfl rfl
  refine ⟨current, found, (again 30 sampleContract rfl).1 ?_⟩
  have unreviewed : (live .exact sampleConfig ([] ++ sampleEvents)
      (fresh sampleConfig)).proposals.get? ⟨11⟩ = none := by decide +kernel
  intro proposal reviewed
  rw [show (live .exact sampleConfig ([] ++ sampleEvents) (fresh sampleConfig)).proposals.get?
    (sampleCommand 11 .placeOptionOrder .buyToOpen 2 ⟨150, -2⟩).proposalId = none from
      unreviewed] at reviewed
  cases reviewed

/-- A placement that was accepted raises when it is repeated after a review, under the
identifier of its proposal, of another quantity. -/
theorem submit_again_raises :
    let command := sampleCommand 11 .placeOptionOrder .buyToOpen 2 ⟨150, -2⟩
    let first := submit .exact sampleConfig 10 command sampleContract (fresh sampleConfig)
    let later := live .exact sampleConfig [(10, .call (.submit command sampleContract)),
      (20, .call (.review sampleIds sampleProposal))] (fresh sampleConfig)
    OneIntent sampleConfig [command] ∧ raised first.1 = none ∧
      raised (submit .exact sampleConfig 30 command sampleContract later).1 =
        some (.safetyCritical "reviewed proposal and command order terms differ") :=
  ⟨⟨by decide +kernel, by decide +kernel⟩, by decide +kernel⟩

/-! ### Reviewed proposals -/

theorem Agrees.terms {command : BrokerCommandIntent} {proposal : TradeProposal}
    {s : ShadowLedger} (agrees : Agrees command s)
    (reviewed : s.proposals.get? command.proposalId = some proposal) :
    proposal.side = command.side ∧ proposal.quantity = command.quantity ∧
      proposal.limitPrice.val = command.limitPrice.val :=
  (agrees proposal (Option.mem_def.mpr reviewed)).2

/-- An order that is created for a reviewed proposal has the proposal's side, quantity and
limit price. It is for the proposal's contract, and so reserves the proposal's maximum loss,
if and only if the contract it was submitted with is the reviewed one. -/
theorem submit_reviewed_iff (D : Decimal.Context) (cfg : LedgerConfig) (now : Time)
    (s : ShadowLedger) (command : BrokerCommandIntent) (contract : OptionContract)
    (proposal : TradeProposal) (order : BrokerOrder)
    (reviewed : s.proposals.get? command.proposalId = some proposal)
    (unused : s.orderByIdempotency.get? command.idempotencyKey = none)
    (returned : (submit D cfg now command contract s).1 = .ok order) :
    (order.contract = proposal.contract ∧ order.side = proposal.side ∧
      order.quantity = proposal.quantity ∧ order.limitPrice = proposal.limitPrice.val ∧
      (order.isOpenBuy = true → D.mul (D.mul order.remaining order.limitPrice)
        order.contract.multiplier = proposal.maxLoss D)) ↔
    contract = proposal.contract := by
  obtain ⟨-, agrees, ⟨id, item, leads, -⟩ | ⟨-, recorded⟩⟩ := submit_ok returned
  · rw [leads.known] at unused
    cases unused
  · obtain ⟨side, quantity, limit⟩ := agrees.terms reviewed
    have created : order = newOrder cfg now command contract
        (rejectionReasonsFor D cfg now command contract s) :=
      (congrArg Prod.fst recorded).symm
    subst created
    constructor
    · exact fun same => same.1
    · intro same
      refine ⟨same, side.symm, quantity.symm, limit.symm, fun _ => ?_⟩
      have whole : BrokerOrder.remaining (newOrder cfg now command contract
          (rejectionReasonsFor D cfg now command contract s)) = command.quantity := by
        simp only [BrokerOrder.remaining, newOrder, sub_zero]
      rw [whole]
      simp only [newOrder, TradeProposal.maxLoss, quantity, limit, same, Decimal.Context.mul,
        mul_comm (command.quantity : ℚ)]

/-- A placement command with the terms of the reviewed proposal. -/
def sampleReviewed : BrokerCommandIntent :=
  sampleCommand 11 .placeOptionOrder .buyToOpen 1 ⟨150, -2⟩

theorem submit_reviewed_iff_sampleProposal :
    let s := live .exact sampleConfig [(5, .call (.review sampleIds sampleProposal))]
      (fresh sampleConfig)
    s.proposals.get? sampleReviewed.proposalId = some sampleProposal ∧
      ∃ order, (submit .exact sampleConfig 10 sampleReviewed sampleContract s).1 = .ok order ∧
        order.contract = sampleProposal.contract := by
  intro s
  obtain ⟨order, returned⟩ : ∃ order,
      (submit .exact sampleConfig 10 sampleReviewed sampleContract s).1 = .ok order :=
    ok_of_raised (by decide +kernel)
  exact ⟨rfl, order, returned, ((submit_reviewed_iff .exact sampleConfig 10 s sampleReviewed
    sampleContract sampleProposal order rfl rfl returned).mpr rfl).1⟩

/-- The sample contract with twice its multiplier. -/
def doubledContract : OptionContract :=
  { sampleContract with multiplier := 200, multiplier_pos := by norm_num }

/-- A contract of the same instrument identifier with another multiplier is accepted for a
reviewed proposal, and reserves another sum than the proposal's maximum loss. -/
theorem submit_unreviewed_contract :
    let s := live .exact sampleConfig [(5, .call (.review sampleIds sampleProposal))]
      (fresh sampleConfig)
    let outcome := submit .exact sampleConfig 10 sampleReviewed doubledContract s
    s.proposals.get? sampleReviewed.proposalId = some sampleProposal ∧
      outcome.1.toOption.map (fun order => (order.state, order.contract.multiplier)) =
        some (.open_, 200) ∧
      outcome.2.reservedBuyingPower .exact = 300 ∧ sampleProposal.maxLoss .exact = 150 := by
  decide +kernel

/-! ### Cancellations -/

section Cancellations

variable {cfg : LedgerConfig} {s : ShadowLedger} {commands : List BrokerCommandIntent}
  {command : BrokerCommandIntent} {ref : OrderRef}

/-- The order a reference denotes when a cancellation begins, as the cancellation returns
it, is terminal in the ledger it leaves. -/
def Canceled (ref : OrderRef) (s s' : ShadowLedger) (order : BrokerOrder) : Prop :=
  ∃ key before item, findOrder ref s = some (key, before) ∧ s'.orders.get? key = some item ∧
    item.published = order ∧ order.state.isTerminal = true

/-- Under a new key a cancellation that returns has canceled what it was asked to. -/
theorem canceled_of_unused {order : BrokerOrder}
    (unused : s.orderByIdempotency.get? command.idempotencyKey = none)
    (returned : (cancel cfg command ref s).1 = .ok order) :
    Canceled ref s (cancel cfg command ref s).2 order := by
  have duplicate : duplicateOrder cfg command s = .ok none := by
    simp only [duplicateOrder, unused]
  unfold cancel at returned ⊢
  split at returned
  · cases returned
  next action =>
    split at returned
    · cases returned
    next environment =>
      simp only [duplicate] at returned ⊢
      rw [if_neg action, if_neg environment]
      cases located : findOrder ref s with
      | none =>
        simp only [located] at returned
        cases returned
      | some entry =>
        obtain ⟨key, item⟩ := entry
        simp only [located] at returned ⊢
        split at returned
        · cases returned
        next instrument =>
          rw [if_neg instrument]
          split at returned
          next ended =>
            cases returned
            rw [if_pos ended]
            exact ⟨key, item, item, located, findOrder_some located, rfl, ended⟩
          next live =>
            rw [if_neg live]
            split at returned
            · cases returned
            next isOpen =>
              cases returned
              rw [if_neg isOpen]
              exact ⟨key, item, _, located, Dict.get?_set_self .., rfl, rfl⟩

/-- Under a key that leads to an order a cancellation returns that order. -/
theorem cancel_of_leads {id : UUID} {item : LedgerOrder}
    (action : command.action = .cancelOptionOrder) (environment : command.environment = .demo)
    (leads : Leads cfg command id item s) :
    cancel cfg command ref s = (.ok item.published, s) := by
  have duplicate : duplicateOrder cfg command s = .ok (some item.published) := by
    simp [duplicateOrder, leads.known, leads.found, action]
  simp only [cancel, action, environment, duplicate, ne_eq, not_true_eq_false, if_false]

/-- Which is what was asked for only if the reference denotes that order and it has ended. -/
theorem canceled_of_leads_iff {id : UUID} {item : LedgerOrder} (booked : Booked cfg commands s)
    (leads : Leads cfg command id item s) :
    Canceled ref s s item.published ↔
      ∃ before, findOrder ref s = some (id, before) ∧ before.published.state.isTerminal = true := by
  constructor
  · rintro ⟨key, before, stored, located, found, same, ended⟩
    have named : key = id := by
      rw [← booked.keyed key stored found, ← booked.keyed id item leads.found, same]
    subst named
    cases leads.found.symm.trans (findOrder_some located)
    exact ⟨item, located, ended⟩
  · rintro ⟨before, located, ended⟩
    cases leads.found.symm.trans (findOrder_some located)
    exact ⟨id, item, item, located, leads.found, rfl, ended⟩

end Cancellations

/-- A cancellation that returns has canceled the order it was asked to, or found it ended,
if and only if it raises for its action or environment, its key is new, or its key leads to
that very order and the order has ended. -/
theorem cancel_canceled_iff (D : Decimal.Context) (cfg : LedgerConfig)
    (events : List (Time × Event)) (command : BrokerCommandIntent) (ref : OrderRef) :
    let s := live D cfg events (fresh cfg)
    (∀ order, (cancel cfg command ref s).1 = .ok order →
      Canceled ref s (cancel cfg command ref s).2 order) ↔
    command.action ≠ .cancelOptionOrder ∨ command.environment ≠ .demo ∨
      s.orderByIdempotency.get? command.idempotencyKey = none ∨
      ∃ id item, s.orderByIdempotency.get? command.idempotencyKey = some id ∧
        findOrder ref s = some (id, item) ∧ item.published.state.isTerminal = true := by
  intro s
  have booked : Booked cfg (placed (operations events)) s := live_booked events
  by_cases action : command.action = .cancelOptionOrder
  swap
  · refine ⟨fun _ => Or.inl action, fun _ order returned => ?_⟩
    rw [cancel, if_pos action] at returned
    cases returned
  by_cases environment : command.environment = .demo
  swap
  · refine ⟨fun _ => Or.inr (Or.inl environment), fun _ order returned => ?_⟩
    rw [cancel, if_neg (not_not.mpr action), if_pos environment] at returned
    cases returned
  cases known : s.orderByIdempotency.get? command.idempotencyKey with
  | none => exact ⟨fun _ => Or.inr (Or.inr (Or.inl rfl)), fun _ order => canceled_of_unused known⟩
  | some id =>
    obtain ⟨item, found⟩ := booked.resolved _ id known
    have leads : Leads cfg command id item s :=
      ⟨known, found, fun place => nomatch action.symm.trans place⟩
    rw [cancel_of_leads action environment leads]
    constructor
    · intro canceled
      obtain ⟨before, located, ended⟩ :=
        (canceled_of_leads_iff booked leads).mp (canceled item.published rfl)
      exact Or.inr (Or.inr (Or.inr ⟨id, before, rfl, located, ended⟩))
    · rintro (other | other | other | ⟨_, before, same, located, ended⟩) order returned
      · exact absurd action other
      · exact absurd environment other
      · cases other
      · cases same
        cases returned
        exact (canceled_of_leads_iff booked leads).mpr ⟨before, located, ended⟩

/-- A cancellation under the key of the placement returns the open order and leaves it open. -/
theorem cancel_leaves_open :
    let s := live .exact sampleConfig (calls (sampleRun.take 1)) (fresh sampleConfig)
    let key := orderIdFor sampleConfig (sampleCommand 11 .placeOptionOrder .buyToOpen 2 ⟨150, -2⟩)
    let outcome := cancel sampleConfig
      (sampleCommand 11 .cancelOptionOrder .buyToOpen 2 ⟨150, -2⟩) (.uuid key) s
    outcome.1.toOption.map (fun order => (order.orderId, order.state)) = some (key, .open_) ∧
      (outcome.2.orders.get? key).map (fun item => item.published.state) = some .open_ := by
  decide +kernel

end ShadowLedger

end Sentry
