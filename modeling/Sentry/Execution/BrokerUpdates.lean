import Mathlib.Data.List.Sort
import Sentry.Demo.Journal
import Sentry.Execution.Guarantees
import Sentry.Support.Writes

/-!
# Broker updates and the tables they reach

`record_broker_update` of `app/execution/service.py` over the writes of
`app/execution/postgres_store.py`: the transition journal, the orders, the fills and the
position snapshots. Every write is one append after its own checks, and nothing takes back
what an earlier write has appended when a later one is refused.
-/
namespace Sentry

open Support

/-- A fill and the digits its price is written with, which its content digest shows. -/
structure JournalledFill where
  fill : Fill
  price : String
  deriving DecidableEq

/-- The tables of the execution journal, in the order their rows were appended. -/
structure Tables where
  rows : Rows := {}
  transitions : List StateTransitionRecord := []
  fills : List JournalledFill := []
  positions : List Position := []
  snapshots : List (List Position) := []

/-- The number of rows. -/
def Tables.size (t : Tables) : ℕ :=
  t.rows.orders.length + t.transitions.length + t.fills.length + t.positions.length +
    t.snapshots.length

namespace PostgresExecutionStore

/-! ### The writes of the store -/

/-- A digest of the record is the key of its row, so a repetition is accepted. -/
def recordTransition (record : StateTransitionRecord) (t : Tables) : Except Exc Tables :=
  if (t.rows.getOrderIntent record.intentId).isNone then
    .error (.safetyCritical "transition cannot precede its durable order intent")
  else match OrderStateMachine.transition record.previous record.current
      record.reconciliationEvidence with
    | .error e => .error e
    | .ok _ =>
      if record ∈ t.transitions then .ok t
      else .ok { t with transitions := t.transitions ++ [record] }

variable (binding : ExecutionEnvironment)

/-- `save_order` with its guard. -/
def writeOrder (order : BrokerOrder) (t : Tables) : Except Exc Tables :=
  if order.environment ≠ binding then
    .error (.safetyCritical "cross-environment execution persistence attempt")
  else (saveOrder order t.rows).map fun rows => { t with rows := rows }

/-- `save_fill`. -/
def writeFill (f : JournalledFill) (t : Tables) : Except Exc Tables :=
  if !(t.rows.orders.any fun order => order.orderId == f.fill.orderId) then
    .error (.safetyCritical "fill cannot precede its durable broker order")
  else match t.fills.find? fun other => other.fill.fillId == f.fill.fillId with
    | some other =>
      if other ≠ f then
        .error (.duplicateOrder "fills fill_id reused with different content")
      else .ok t
    | none => .ok { t with fills := t.fills ++ [f] }

/-- `list_positions`: the newest snapshot. -/
def listPositions (t : Tables) : List Position := t.snapshots.getLast?.getD []

/-- The order of `sorted(positions, key=lambda position: str(position.position_id))`. -/
def byId (a b : Position) : Bool := decide (a.positionId.str ≤ b.positionId.str)

def replacePositions (positions : List Position) (t : Tables) : Except Exc Tables :=
  if positions.any fun position => position.environment ≠ binding then
    .error (.safetyCritical "cross-environment execution persistence attempt")
  else if ¬ (positions.map Position.positionId).Nodup then
    .error (.safetyCritical "position snapshot repeats an identity")
  else
    let ordered := positions.mergeSort byId
    -- an empty first snapshot still needs a durable checkpoint
    if listPositions t = ordered ∧ t.snapshots ≠ [] then .ok t
    else .ok { t with
      positions := t.positions ++ ordered
      snapshots := t.snapshots ++ [ordered] }

end PostgresExecutionStore

/-! ### The update -/

structure BrokerUpdate where
  order : BrokerOrder
  fills : List JournalledFill := []
  positions : List Position := []
  reconciliationEvidence : Bool := false

namespace BrokerUpdate

variable (u : BrokerUpdate)

/-- The update moves the order. -/
def changes (local_ : BrokerOrder) : Bool :=
  u.order.state != local_.state || u.order.filledQuantity != local_.filledQuantity

def transition (now : Time) (local_ : BrokerOrder) : StateTransitionRecord where
  intentId := u.order.intentId
  previous := local_.state
  current := u.order.state
  reason := "broker fill/order update observed"
  recordedAt := now
  reconciliationEvidence := u.reconciliationEvidence

end BrokerUpdate

namespace ExecutionService

variable (svc : ExecutionService) (binding : ExecutionEnvironment) (now : Time) (u : BrokerUpdate)

/-- The checks of the service, which return the durable local order. -/
def admitUpdate (t : Tables) : Except Exc BrokerOrder :=
  match t.rows.getOrder u.order.intentId with
  | none => .error (.executionDenied "broker update has no matching durable local order")
  | some local_ =>
    if u.order.environment ≠ svc.environment then
      .error (.executionDenied "broker update environment does not match startup binding")
    else if u.order.orderId ≠ local_.orderId ∨ u.order.contract ≠ local_.contract ∨
        u.order.side ≠ local_.side ∨ u.order.quantity ≠ local_.quantity then
      .error (.executionDenied "broker update does not match the durable exact order")
    else if u.order.filledQuantity < local_.filledQuantity then
      .error (.executionDenied "broker update would decrease filled quantity")
    else if u.fills.any fun f => f.fill.orderId ≠ u.order.orderId then
      .error (.executionDenied "fill does not belong to the updated exact order")
    else if u.positions.any fun position => position.environment ≠ svc.environment then
      .error (.executionDenied "position snapshot environment does not match startup binding")
    else .ok local_

/-- `_transition`: the state machine is asked before the store. -/
def writeTransition (record : StateTransitionRecord) (t : Tables) : Except Exc Tables := do
  let _ ← OrderStateMachine.transition record.previous record.current record.reconciliationEvidence
  PostgresExecutionStore.recordTransition record t

/-- The writes that precede the snapshot of the positions. -/
def updateWrites (local_ : BrokerOrder) : List (Write Tables Exc) :=
  (if u.changes local_ then [writeTransition (u.transition now local_)] else []) ++
    PostgresExecutionStore.writeOrder binding u.order ::
      u.fills.map PostgresExecutionStore.writeFill

/-- `record_broker_update`. -/
def recordBrokerUpdate (t : Tables) : Except Exc Unit × Tables :=
  match svc.admitUpdate u t with
  | .error e => (.error e, t)
  | .ok local_ =>
    Write.perform (updateWrites binding now u local_ ++
      [PostgresExecutionStore.replacePositions binding u.positions]) t

end ExecutionService

/-! ### What each write adds -/

namespace OrderStateMachine

theorem transition_ok_iff {current target : OrderState} {evidence : Bool} :
    (∃ state, transition current target evidence = .ok state) ↔
      canTransition current target evidence = true := by
  unfold transition
  split
  next legal => simp [legal]
  next illegal => simp [illegal]

end OrderStateMachine

namespace PostgresExecutionStore

variable {binding : ExecutionEnvironment} {t t' : Tables}

theorem recordTransition_adds (record : StateTransitionRecord) :
    Write.Adds Tables.size (recordTransition record) := by
  intro t t' went
  unfold recordTransition at went
  split at went
  · cases went
  split at went
  · cases went
  split at went
  · cases went
    exact Or.inl rfl
  · cases went
    right
    simp [Tables.size]

theorem writeOrder_adds (order : BrokerOrder) :
    Write.Adds Tables.size (writeOrder binding order) := by
  intro t t' went
  unfold writeOrder at went
  split at went
  · cases went
  cases saved : saveOrder order t.rows with
  | error e =>
    rw [saved] at went
    cases went
  | ok rows =>
    rw [saved] at went
    cases went
    rcases (saveOrder_performs saved).1 with same | added
    · exact Or.inl (by rw [same])
    · right
      simp only [Tables.size, added, Rows.addOrder, List.length_append, List.length_singleton]
      omega

theorem writeFill_adds (f : JournalledFill) : Write.Adds Tables.size (writeFill f) := by
  intro t t' went
  unfold writeFill at went
  split at went
  · cases went
  split at went
  · split at went
    · cases went
    · cases went
      exact Or.inl rfl
  · cases went
    right
    simp only [Tables.size, List.length_append, List.length_singleton]
    omega

theorem replacePositions_adds (positions : List Position) :
    Write.Adds Tables.size (replacePositions binding positions) := by
  intro t t' went
  unfold replacePositions at went
  split at went
  · cases went
  split at went
  · cases went
  dsimp only at went
  split at went
  · cases went
    exact Or.inl rfl
  · cases went
    right
    simp only [Tables.size, List.length_append, List.length_singleton]
    omega

/-! ### What each write leaves alone -/

theorem writeFill_frame {f : JournalledFill} (went : writeFill f t = .ok t') :
    t' = { t with fills := t'.fills } := by
  unfold writeFill at went
  split at went
  · cases went
  split at went
  · split at went
    · cases went
    · cases went
      rfl
  · cases went
    rfl

theorem replacePositions_frame {positions : List Position}
    (went : replacePositions binding positions t = .ok t') :
    t' = { t with positions := t'.positions, snapshots := t'.snapshots } := by
  unfold replacePositions at went
  split at went
  · cases went
  split at went
  · cases went
  dsimp only at went
  split at went
  · cases went
    rfl
  · cases went
    rfl

/-! ### When a write is idle -/

/-- Every fill up to the first that contradicts the journal is already in it. -/
def alreadyJournalled (journal : List JournalledFill) : List JournalledFill → Bool
  | [] => true
  | f :: rest =>
    match journal.find? fun other => other.fill.fillId == f.fill.fillId with
    | none => false
    | some other => other ≠ f || alreadyJournalled journal rest

/-- Fills of an order that is in the journal are idle exactly when they are there already. -/
theorem idle_fills_iff {fills : List JournalledFill}
    (known : ∀ f ∈ fills, t.rows.orders.any (fun order => order.orderId == f.fill.orderId) = true) :
    Write.Idle (fills.map writeFill) t ↔ alreadyJournalled t.fills fills = true := by
  induction fills with
  | nil => simp [alreadyJournalled]
  | cons f rest ih =>
    have later := ih fun f member => known f (List.mem_cons_of_mem _ member)
    have here := known f List.mem_cons_self
    rw [List.map_cons, Write.idle_cons, alreadyJournalled]
    cases found : t.fills.find? fun other => other.fill.fillId == f.fill.fillId with
    | none =>
      -- the fill is new, so it is appended
      simp only [Bool.false_eq_true, iff_false]
      intro idle
      have same := (idle { t with fills := t.fills ++ [f] } (by simp [writeFill, here, found])).1
      have length := congrArg (fun t : Tables => t.fills.length) same
      simp at length
    | some other =>
      by_cases same : other = f
      · simp only [writeFill, here, found, same]
        simp [later]
      · simp [writeFill, here, found, same]

/-- An order that the service admitted is refused for its environment or its limit price. -/
theorem writeOrder_idle_iff {order local_ : BrokerOrder} {ws : List (Write Tables Exc)}
    (intent : (t.rows.getOrderIntent order.intentId).isSome = true)
    (found : t.rows.getOrder order.intentId = some local_)
    (terms : order.orderId = local_.orderId ∧ order.contract = local_.contract ∧
      order.side = local_.side ∧ order.quantity = local_.quantity ∧
      local_.filledQuantity ≤ order.filledQuantity) :
    Write.Idle (writeOrder binding order :: ws) t ↔
      order.environment ≠ binding ∨ order.limitPrice ≠ local_.limitPrice ∨
        order = local_ ∧ Write.Idle ws t := by
  obtain ⟨orderId, contract, side, quantity, filled⟩ := terms
  have present : (t.rows.getOrderIntent order.intentId).isNone = false := by
    simpa using intent
  rw [Write.idle_cons]
  by_cases environment : order.environment = binding
  swap
  · simp [writeOrder, environment]
  by_cases price : order.limitPrice = local_.limitPrice
  swap
  · have other : local_ ≠ order := fun same => price (same ▸ rfl)
    have changed : changesTerms local_ order = true := by
      simp [changesTerms, Ne.symm price]
    simp [writeOrder, saveOrder, environment, present, found, other, changed, price, Except.map]
  · have kept : changesTerms local_ order = false := by
      simp [changesTerms, contract, side, quantity, price]
      omega
    have named : changesIdentity local_ order = false := by
      simp [changesIdentity, orderId]
    by_cases same : local_ = order
    · simp [writeOrder, saveOrder, environment, present, found, same, Except.map]
    · -- the order is new, so it is appended
      have appended : writeOrder binding order t =
          .ok { t with rows := t.rows.addOrder order } := by
        simp [writeOrder, saveOrder, environment, present, found, same, kept, named, Except.map]
      constructor
      · intro idle
        have unmoved := (idle _ appended).1
        have length := congrArg (fun t : Tables => t.rows.orders.length) unmoved
        simp [Rows.addOrder] at length
      · rintro (foreign | other | ⟨rfl, -⟩)
        · exact absurd environment foreign
        · exact absurd price other
        · exact absurd rfl same

end PostgresExecutionStore

/-! ### When a refused update leaves no trace -/

namespace ExecutionService

open PostgresExecutionStore

variable {svc : ExecutionService} {binding : ExecutionEnvironment} {now : Time} {u : BrokerUpdate}
  {t t' : Tables} {local_ : BrokerOrder}

/-- What the checks of the service establish. -/
theorem admitUpdate_ok (admitted : svc.admitUpdate u t = .ok local_) :
    t.rows.getOrder u.order.intentId = some local_ ∧
      (u.order.orderId = local_.orderId ∧ u.order.contract = local_.contract ∧
        u.order.side = local_.side ∧ u.order.quantity = local_.quantity ∧
        local_.filledQuantity ≤ u.order.filledQuantity) ∧
      ∀ f ∈ u.fills, f.fill.orderId = u.order.orderId := by
  unfold admitUpdate at admitted
  split at admitted
  · cases admitted
  next found =>
  split at admitted
  · cases admitted
  split at admitted
  · cases admitted
  next terms =>
  split at admitted
  · cases admitted
  next filled =>
  split at admitted
  · cases admitted
  next own =>
  split at admitted
  · cases admitted
  cases admitted
  simp only [not_or, not_not] at terms
  refine ⟨found, ⟨terms.1, terms.2.1, terms.2.2.1, terms.2.2.2, not_lt.mp filled⟩, ?_⟩
  simpa using own

theorem updateWrites_adds : ∀ w ∈ updateWrites binding now u local_ ++
    [replacePositions binding u.positions], Write.Adds Tables.size w := by
  intro w member
  rw [updateWrites, List.append_assoc] at member
  rcases List.mem_append.mp member with first | later
  · split at first
    · rw [List.mem_singleton] at first
      intro t t' went
      obtain ⟨_, -, recorded⟩ := bind_ok (first ▸ went)
      exact recordTransition_adds _ t t' recorded
    · cases first
  · rcases List.mem_append.mp later with written | last
    · rcases List.mem_cons.mp written with rfl | filled
      · exact writeOrder_adds _
      · obtain ⟨f, -, rfl⟩ := List.mem_map.mp filled
        exact writeFill_adds f
    · rw [List.mem_singleton] at last
      exact last ▸ replacePositions_adds _

/-- The service, the state machine and the store's look for the intent let the update pass. -/
structure Heard (svc : ExecutionService) (u : BrokerUpdate) (t : Tables) (local_ : BrokerOrder) :
    Prop where
  admitted : svc.admitUpdate u t = .ok local_
  intent : (t.rows.getOrderIntent u.order.intentId).isSome = true
  legal : u.changes local_ = true →
    OrderStateMachine.canTransition local_.state u.order.state u.reconciliationEvidence = true

/-- Nothing of the update is new up to the check that refuses it. -/
structure NothingNew (binding : ExecutionEnvironment) (now : Time) (u : BrokerUpdate) (t : Tables)
    (local_ : BrokerOrder) : Prop where
  transition : u.changes local_ = true → u.transition now local_ ∈ t.transitions
  rest : u.order.environment ≠ binding ∨ u.order.limitPrice ≠ local_.limitPrice ∨
    u.order = local_ ∧ alreadyJournalled t.fills u.fills = true

/-- The transition of an update that moves its order. -/
theorem writeTransition_ok_iff {record : StateTransitionRecord} :
    writeTransition record t = .ok t' ↔
      OrderStateMachine.canTransition record.previous record.current
          record.reconciliationEvidence = true ∧
        (t.rows.getOrderIntent record.intentId).isSome = true ∧
        t' = if record ∈ t.transitions then t
          else { t with transitions := t.transitions ++ [record] } := by
  rw [← OrderStateMachine.transition_ok_iff]
  cases legal : OrderStateMachine.transition record.previous record.current
      record.reconciliationEvidence with
  | error e => simp [writeTransition, legal, bind, Except.bind]
  | ok state =>
    cases intent : t.rows.getOrderIntent record.intentId with
    | none => simp [writeTransition, recordTransition, legal, intent, bind, Except.bind]
    | some known =>
      by_cases again : record ∈ t.transitions
      · simp [writeTransition, recordTransition, legal, intent, again, bind, Except.bind, eq_comm]
      · simp [writeTransition, recordTransition, legal, intent, again, bind, Except.bind, eq_comm]

theorem idle_updateWrites_iff (admitted : svc.admitUpdate u t = .ok local_) :
    Write.Idle (updateWrites binding now u local_) t ↔
      (Heard svc u t local_ → NothingNew binding now u t local_) := by
  obtain ⟨found, terms, own⟩ := admitUpdate_ok admitted
  have known : ∀ f ∈ u.fills,
      t.rows.orders.any (fun order => order.orderId == f.fill.orderId) = true := by
    intro f member
    refine List.any_eq_true.mpr ⟨local_, (Rows.getOrder_mem found).1, ?_⟩
    rw [own f member, terms.1, beq_self_eq_true]
  have order : (t.rows.getOrderIntent u.order.intentId).isSome = true →
      (Write.Idle (writeOrder binding u.order :: u.fills.map writeFill) t ↔
        u.order.environment ≠ binding ∨ u.order.limitPrice ≠ local_.limitPrice ∨
          u.order = local_ ∧ alreadyJournalled t.fills u.fills = true) := by
    intro intent
    rw [writeOrder_idle_iff intent found terms, idle_fills_iff known]
  by_cases changed : u.changes local_ = true
  · -- the transition comes first: it is refused, repeated or new
    rw [updateWrites, if_pos changed, List.singleton_append, Write.idle_cons]
    constructor
    · intro idle heard
      obtain ⟨unmoved, rest⟩ := idle _ (writeTransition_ok_iff.mpr ⟨heard.legal changed, heard.intent, rfl⟩)
      refine ⟨fun _ => ?_, (order heard.intent).mp rest⟩
      by_contra new
      rw [if_neg new] at unmoved
      have length := congrArg (fun t : Tables => t.transitions.length) unmoved
      simp at length
    · intro nothing t' went
      obtain ⟨legal, intent, rfl⟩ := writeTransition_ok_iff.mp went
      have new := nothing ⟨admitted, intent, fun _ => legal⟩
      rw [if_pos (new.transition changed)]
      exact ⟨rfl, (order intent).mpr new.rest⟩
  · rw [updateWrites, if_neg changed, List.nil_append]
    constructor
    · intro idle heard
      exact ⟨fun moved => absurd moved changed, (order heard.intent).mp idle⟩
    · intro nothing
      by_cases intent : (t.rows.getOrderIntent u.order.intentId).isSome = true
      · exact (order intent).mpr (nothing ⟨admitted, intent, fun moved => absurd moved changed⟩).rest
      · -- without its intent the order is refused
        intro t' went
        have missing : (t.rows.getOrderIntent u.order.intentId).isNone = true := by
          simpa using intent
        unfold writeOrder saveOrder at went
        rw [if_pos missing] at went
        split at went
        · cases went
        · cases went

/-- A refused update leaves every table as it was if and only if it was refused by the service,
the state machine or for want of its intent, or nothing of it was new up to the check that
refused it. -/
theorem rejected_update_unchanged_iff (svc : ExecutionService) (binding : ExecutionEnvironment)
    (now : Time) (u : BrokerUpdate) (t t' : Tables) (e : Exc)
    (rejected : svc.recordBrokerUpdate binding now u t = (.error e, t')) :
    t' = t ↔ ∀ local_, Heard svc u t local_ → NothingNew binding now u t local_ := by
  unfold recordBrokerUpdate at rejected
  cases admitted : svc.admitUpdate u t with
  | error e' =>
    rw [admitted] at rejected
    cases rejected
    simp only [true_iff]
    intro local_ heard
    have other := admitted.symm.trans heard.admitted
    cases other
  | ok local_ =>
    rw [admitted] at rejected
    dsimp only at rejected
    have refused : (Write.perform (updateWrites binding now u local_ ++
        [replacePositions binding u.positions]) t).1 = .error e := by rw [rejected]
    have left : (Write.perform (updateWrites binding now u local_ ++
        [replacePositions binding u.positions]) t).2 = t' := by rw [rejected]
    rw [← left, Write.perform_unchanged_iff updateWrites_adds, Write.idle_concat_iff refused,
      idle_updateWrites_iff admitted]
    constructor
    · intro nothing other heard
      have same := admitted.symm.trans heard.admitted
      cases same
      exact nothing heard
    · intro nothing heard
      exact nothing local_ heard

end ExecutionService

/-! ### A sample update -/

namespace UpdateSample

open Sample

def tables : Tables where
  rows := { orderIntents := [placed], orders := [openOrder] }

theorem price_one_above : (0 : ℚ) < 8 / 5 := by norm_num

/-- The open order is filled, at another limit price. -/
def repriced : BrokerUpdate where
  order :=
    { openOrder with
      state := .filled, filledQuantity := 1, limitPrice := 8 / 5, limitPrice_pos := price_one_above }

/-- What the store says of the update. -/
def refusal : Exc := .safetyCritical "broker order changed its durable exact terms"

/-- What the update leaves behind. -/
def left : Tables := (service.recordBrokerUpdate .demo 20 repriced tables).2

theorem repriced_refused : (service.recordBrokerUpdate .demo 20 repriced tables).1 =
    .error refusal := by decide +kernel

theorem repriced_rejected : service.recordBrokerUpdate .demo 20 repriced tables =
    (.error refusal, left) := Prod.ext repriced_refused rfl

/-- The journal has the transition of an update that was refused. -/
theorem transitions_left : left.transitions = [repriced.transition 20 openOrder] := by
  decide +kernel

end UpdateSample

theorem rejected_update_unchanged_iff_repriced :
    UpdateSample.left = UpdateSample.tables ↔ ∀ local_,
      ExecutionService.Heard Sample.service UpdateSample.repriced UpdateSample.tables local_ →
      ExecutionService.NothingNew .demo 20 UpdateSample.repriced UpdateSample.tables local_ :=
  ExecutionService.rejected_update_unchanged_iff Sample.service .demo 20 UpdateSample.repriced
    UpdateSample.tables UpdateSample.left UpdateSample.refusal UpdateSample.repriced_rejected

/-- An update with another limit price is refused by the store after its transition was
recorded. -/
theorem rejected_update_recorded :
    ¬ ∀ (svc : ExecutionService) (binding : ExecutionEnvironment) (now : Time) (u : BrokerUpdate)
      (t t' : Tables) (e : Exc), svc.recordBrokerUpdate binding now u t = (.error e, t') →
        t' = t := by
  intro unchanged
  have same := unchanged Sample.service .demo 20 UpdateSample.repriced UpdateSample.tables _ _
    UpdateSample.repriced_rejected
  have none_ : UpdateSample.left.transitions = [] := by rw [same]; rfl
  rw [UpdateSample.transitions_left] at none_
  cases none_

end Sentry
