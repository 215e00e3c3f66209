import Sentry.Execution.BrokerUpdates
import Sentry.Support.Attempts

/-!
# The latest orders

`list_latest_orders` of `app/execution/postgres_store.py` over the journal that executions,
cancellations and broker updates leave. The rows of a cancellation carry the identifier of the
order that is to be cancelled, and the newest row under an identifier is listed. So a
cancellation that is denied before it is sent, whose row is `REJECTED`, shows its target so.
-/
namespace Sentry

open Support Coroutine

/-! ### What is listed -/

namespace PostgresExecutionStore

/-- `list_latest_orders` under the bound of its scan. -/
def latestOrders (maxRecords : ℤ) (d : Rows) : Except Exc (List BrokerOrder) :=
  if maxRecords < 1 then .error (.valueError "max_records must be positive")
  else if maxRecords < d.orders.length then
    .error (.safetyCritical "execution audit scan bound exceeded; reconciliation required")
  else .ok (listLatestOrders d)

/-- What has been listed after some rows, the newest of all first. -/
structure Listed (read : List BrokerOrder)
    (state : List UUID × List UUID × List BrokerOrder) : Prop where
  intents : ∀ id, id ∈ state.1 ↔ ∃ order ∈ read, order.intentId = id
  orders : ∀ id, id ∈ state.2.1 ↔ ∃ order ∈ state.2.2, order.orderId = id
  distinct : (state.2.2.map BrokerOrder.orderId).Nodup
  rows : ∀ order ∈ state.2.2, order ∈ read
  covers : ∀ id order, read.find? (fun o => o.intentId == id) = some order →
    ∃ o ∈ state.2.2, o.orderId = order.orderId

/-- One row more. -/
def listRow (state : List UUID × List UUID × List BrokerOrder) (order : BrokerOrder) :
    List UUID × List UUID × List BrokerOrder :=
  if state.1.contains order.intentId then state
  else if state.2.1.contains order.orderId then (order.intentId :: state.1, state.2)
  else (order.intentId :: state.1, order.orderId :: state.2.1, state.2.2 ++ [order])

theorem Listed.row {read : List BrokerOrder} {state : List UUID × List UUID × List BrokerOrder}
    (listed : Listed read state) (order : BrokerOrder) :
    Listed (read ++ [order]) (listRow state order) := by
  have first : ∀ id found, (read ++ [order]).find? (fun o => o.intentId == id) = some found →
      read.find? (fun o => o.intentId == id) = some found ∨
        found = order ∧ order.intentId = id ∧ id ∉ state.1 := by
    intro id found there
    rw [List.find?_append] at there
    cases earlier : read.find? fun o => o.intentId == id with
    | some o =>
      rw [earlier] at there
      exact Or.inl there
    | none =>
      rw [earlier, Option.none_or, List.find?_singleton] at there
      split at there
      next own =>
        cases there
        refine Or.inr ⟨rfl, eq_of_beq own, fun seen => ?_⟩
        obtain ⟨o, member, same⟩ := (listed.intents id).mp seen
        exact List.find?_eq_none.mp earlier o member (beq_iff_eq.mpr same)
      · cases there
  have grown : ∀ id, id ∈ order.intentId :: state.1 ↔
      ∃ o ∈ read ++ [order], o.intentId = id := by
    intro id
    rw [List.mem_cons, listed.intents]
    simp only [List.mem_append, List.mem_singleton, or_and_right, exists_or, exists_eq_left]
    rw [or_comm, eq_comm]
  unfold listRow
  split
  next known =>
    -- the intent has a newer row
    have seen : order.intentId ∈ state.1 := by simpa using known
    constructor
    · intro id
      rw [← grown id, List.mem_cons]
      constructor
      · exact Or.inr
      · rintro (rfl | old)
        · exact seen
        · exact old
    · exact listed.orders
    · exact listed.distinct
    · exact fun o member => List.mem_append_left _ (listed.rows o member)
    · intro id found there
      rcases first id found there with old | ⟨-, rfl, new⟩
      · exact listed.covers id found old
      · exact absurd seen new
  next unknown =>
  split
  next known =>
    -- the order has a newer row, under another intent
    have seen : order.orderId ∈ state.2.1 := by simpa using known
    refine ⟨grown, listed.orders, listed.distinct, ?_, ?_⟩
    · exact fun o member => List.mem_append_left _ (listed.rows o member)
    · intro id found there
      rcases first id found there with old | ⟨rfl, -, -⟩
      · exact listed.covers id found old
      · exact (listed.orders _).mp seen
  next new =>
    have fresh : order.orderId ∉ state.2.1 := by simpa using new
    refine ⟨grown, ?_, ?_, ?_, ?_⟩
    · intro id
      rw [List.mem_cons, listed.orders]
      simp only [List.mem_append, List.mem_singleton, or_and_right, exists_or, exists_eq_left]
      rw [or_comm, eq_comm]
    · rw [List.map_append, List.map_singleton]
      refine listed.distinct.append (List.nodup_singleton _) ?_
      intro id member last
      rw [List.mem_singleton] at last
      obtain ⟨o, there, same⟩ := List.mem_map.mp member
      exact fresh ((listed.orders _).mpr ⟨o, there, same.trans last⟩)
    · intro o member
      rcases List.mem_append.mp member with old | last
      · exact List.mem_append_left _ (listed.rows o old)
      · exact List.mem_append_right _ last
    · intro id found there
      rcases first id found there with old | ⟨rfl, -, -⟩
      · obtain ⟨o, member, same⟩ := listed.covers id found old
        exact ⟨o, List.mem_append_left _ member, same⟩
      · exact ⟨_, List.mem_append_right _ (List.mem_singleton_self _), rfl⟩

theorem listed_rows (read : List BrokerOrder) :
    Listed read (read.foldl listRow ([], [], [])) := by
  induction read using List.reverseRecOn with
  | nil => exact ⟨by simp, by simp, List.nodup_nil, by simp, by simp⟩
  | append_singleton read order ih =>
    rw [List.foldl_append]
    exact ih.row order

/-- Every identifier is listed once, with a row of the journal, and so is that of the latest
row of every intent. -/
theorem latestOrders_ok {maxRecords : ℤ} {d : Rows} {shown : List BrokerOrder}
    (listed : latestOrders maxRecords d = .ok shown) :
    (shown.map BrokerOrder.orderId).Nodup ∧ (∀ order ∈ shown, order ∈ d.orders) ∧
      ∀ id order, d.getOrder id = some order → ∃ o ∈ shown, o.orderId = order.orderId := by
  unfold latestOrders at listed
  split at listed
  · cases listed
  split at listed
  · cases listed
  cases listed
  obtain ⟨-, -, distinct, rows, covers⟩ := listed_rows d.orders.reverse
  exact ⟨distinct, fun order member => List.mem_reverse.mp (rows order member), covers⟩

end PostgresExecutionStore

/-! ### Runs -/

/-- What the broker has said of an order in answer to a command. -/
def answeredOrder : Done Exc Ans → Option BrokerOrder
  | ⟨.placeOptionOrder _ _, .ok order⟩ | ⟨.cancelOptionOrder _ _, .ok order⟩ => some order
  | _ => none

def saidIn (h : History) : List BrokerOrder := h.filterMap answeredOrder

/-- The surroundings of a call: of the rows only those change that it asks to save. -/
def journals (op : Op) (g : Ambient Tables) (r : Except Exc (Ans op)) (g' : Ambient Tables) :
    Prop :=
  performs op g.broker.rows r g'.broker.rows

/-- The last check of a cancellation, which follows the transition to its ready command,
passes. -/
def Unblocked {B : Type} : (op : Op) → Except Exc (Ans op) → Ambient B → Prop
  | .recordTransition record, .ok _, g' =>
    record.reason = "durable cancellation command ready" →
      ExecutionService.cancellationBlocked g' = false
  | _, _, _ => True

/-- The same, where no cancellation is denied once its command is ready. -/
def sends (op : Op) (g : Ambient Tables) (r : Except Exc (Ans op)) (g' : Ambient Tables) : Prop :=
  journals op g r g' ∧ Unblocked op r g'

/-- One call after another from an empty journal, with what the broker has said of its orders.
A call may end in any way, or be cut off where it waits. -/
inductive OrderRun (rely : (op : Op) → Ambient Tables → Except Exc (Ans op) → Ambient Tables → Prop)
    (svc : ExecutionService) (binding : ExecutionEnvironment) :
    List BrokerOrder → Ambient Tables → Prop where
  | start {g} (empty : g.broker.rows.orders = []) : OrderRun rely svc binding [] g
  | waited {said g g'} (earlier : OrderRun rely svc binding said g)
      (same : g'.broker = g.broker) : OrderRun rely svc binding said g'
  | executed {said g p approval draws h left g'} (earlier : OrderRun rely svc binding said g)
      (passes : Passes rely (svc.execute p approval draws) g h left g') :
      OrderRun rely svc binding (said ++ saidIn h) g'
  | cancelled {said g target limitPrice written h left g'}
      (earlier : OrderRun rely svc binding said g)
      (passes : Passes rely (svc.cancelOrder target limitPrice written) g h left g') :
      OrderRun rely svc binding (said ++ saidIn h) g'
  | updated {said g u} (earlier : OrderRun rely svc binding said g) :
      OrderRun rely svc binding (said ++ [u.order])
        (g.adapt fun t => (svc.recordBrokerUpdate binding g.now u t).2)

/-- The identifier that an order bears until the broker has named it. -/
def Provisional (svc : ExecutionService) (id : UUID) : Prop :=
  ∃ intentId : UUID, id = svc.hashing.uuid5 executionIdNamespace ("pending:" ++ intentId.str)

/-- A terminal state that is saved was said by the broker, or is that of an order which the
broker has not named. -/
def Founded (svc : ExecutionService) (said : List BrokerOrder) (order : BrokerOrder) : Prop :=
  order.state.isTerminal = true → Provisional svc order.orderId ∨
    ∃ o ∈ said, o.orderId = order.orderId ∧ o.state = order.state

/-- What a call may ask for. -/
def Founds (svc : ExecutionService) (h : History) : Op → Prop
  | .saveOrder order => Founded svc (saidIn h) order
  | _ => True

theorem Founded.mono {svc : ExecutionService} {said said' : List BrokerOrder} {order : BrokerOrder}
    (founded : Founded svc said order) (more : said ⊆ said') : Founded svc said' order := by
  intro terminal
  rcases founded terminal with provisional | ⟨o, member, same⟩
  · exact Or.inl provisional
  · exact Or.inr ⟨o, more member, same⟩

theorem saidIn_append (h h' : History) : saidIn (h ++ h') = saidIn h ++ saidIn h' :=
  List.filterMap_append

namespace ExecutionService

variable {B : Type} {svc : ExecutionService} {h : History} {g : Ambient B} {pending : BrokerOrder}
  {rely : (op : Op) → Ambient B → Except Exc (Ans op) → Ambient B → Prop}

/-- A saved order that is founded whatever the broker has said. -/
def Modest (svc : ExecutionService) : Op → Prop
  | .saveOrder order => Founded svc [] order
  | _ => True

theorem founds_of_modest {op : Op} (modest : Modest svc op) (h : History) :
    Founds svc h op := by
  cases op with
  | saveOrder order => exact modest.mono (List.nil_subset _)
  | _ => trivial

/-- A program that saves nothing but such orders. -/
theorem sat_modest {α : Type} {returns : α → Prop} {p : Program B α}
    {Q : Post (Ambient B) Exc Ans α} (emits : Emits (Modest svc) returns p)
    (raised : ∀ h' g' e, Q h' g' (.error e))
    (returned : ∀ rest g' a, returns a → Q (h ++ rest) g' (.ok a)) :
    Sat ⟨fun h op _ => Founds svc h op, rely⟩ Q p h g :=
  emits.sat (fun _ _ _ _ modest => founds_of_modest modest _) (fun _ _ _ _ => raised _ _ _)
    fun rest g' a _ => returned rest g' a

theorem unknown_modest (order : BrokerOrder) :
    Modest svc (.saveOrder (order.withState .submissionUnknown)) := nofun

theorem emits_persist {p : TradeProposal} {intent : OrderIntent} {command : BrokerCommandIntent} :
    Emits (Modest svc) (fun pending => Provisional svc pending.orderId)
      (svc.persist p intent command : Program B BrokerOrder) := by
  refine (emits_call trivial).bind fun _ _ => (emits_call trivial).bind fun _ _ => ?_
  refine (emits_peek _).bind fun now _ => ?_
  have named : Provisional svc (svc.pendingOrder p intent now).orderId := ⟨intent.intentId, rfl⟩
  refine (emits_call fun _ => Or.inl named).bind fun _ _ => ?_
  exact (emits_transition fun _ => trivial).bind fun _ _ => emits_pure named

theorem emits_recordDenial {e : Exc} (named : Provisional svc pending.orderId) :
    Emits (Modest svc) (fun _ => True) (recordDenial pending e : Program B Unit) := by
  unfold recordDenial
  split
  · refine (emits_call fun _ => Or.inl named).bind fun _ _ => ?_
    exact (emits_transition fun _ => trivial).bind fun _ _ => emits_raise _
  · exact emits_raise _

/-- The broker's answer is saved as it is, or as unknown. -/
theorem sat_answered {order : BrokerOrder} {action reason : String}
    {Q : Post (Ambient B) Exc Ans Unit} (said : ∃ o ∈ saidIn h, o.orderId = order.orderId ∧
      o.state = order.state) (ended : ∀ h' g' r, Q h' g' r) :
    Sat ⟨fun h op _ => Founds svc h op, rely⟩ Q (journal pending order action reason) h g := by
  have emits : Emits (fun op => ∀ rest, Founds svc (h ++ rest) op) (fun _ => True)
      (journal pending order action reason : Program B Unit) := by
    apply emits_journal
    · exact fun _ _ => trivial
    · intro rest _
      obtain ⟨o, member, same⟩ := said
      rw [saidIn_append]
      exact Or.inr ⟨o, List.mem_append_left _ member, same⟩
    · intro rest
      exact founds_of_modest (unknown_modest order) _
  exact emits.sat (fun rest _ _ _ founds => founds rest) (fun _ _ _ _ => ended _ _ _)
    fun _ _ _ _ _ => ended _ _ _

theorem sat_submit_founded {p : TradeProposal} {prepared : Prepared} :
    Sat ⟨fun h op _ => Founds svc h op, rely⟩ (fun _ _ _ => True)
      (svc.submit (fun command contract => ask (.placeOptionOrder command contract)) p prepared
        pending : Program B ExecutionResult) h g := by
  rw [submit, sat_bind, sat_attempt]
  refine (sat_call _ _).mpr ⟨trivial, fun r g' _ => ?_⟩
  cases r with
  | error e =>
    refine sat_modest (emits_classifyFailure (fun _ => trivial) ?_) (fun _ _ _ => trivial)
      (fun _ _ _ never => never.elim)
    exact unknown_modest pending
  | ok order =>
    change Sat _ _ (svc.correlate prepared.intent.intentId order >>= _) _ _
    rw [sat_bind]
    refine sat_modest (emits_correlate _ order) (fun _ _ _ => trivial) fun rest g' _ _ => ?_
    change Sat _ _ (journal pending order _ _ >>= _) _ _
    rw [sat_bind]
    refine sat_answered ⟨order, ?_, rfl, rfl⟩ ?_
    · rw [saidIn_append, saidIn_append]
      exact List.mem_append_left _ (List.mem_append_right _ (List.mem_singleton_self _))
    · intro h' g' r
      cases r <;> trivial

theorem sat_execute_founded {p : TradeProposal} {approval : Option ExactApproval} {draws : Draws} :
    Sat ⟨fun h op _ => Founds svc h op, rely⟩ (fun _ _ _ => True)
      (svc.execute p approval draws : Program B ExecutionResult) [] g := by
  have tracks : Tracks (⟨fun h op _ => Founds svc h op, rely⟩ : Spec (Ambient B) Exc Ans)
      fun _ _ => True := ⟨fun _ => trivial, fun _ _ => id⟩
  rw [execute, executeWith, sat_bind]
  refine sat_prepare ?_ tracks (fun _ _ _ _ => trivial) ?_
  · intro h op g preparatory
    cases op with
    | saveOrder order => cases preparatory
    | _ => trivial
  intro x g₁ _ _
  change Sat _ _ (svc.persist p _ _ >>= _) _ _
  rw [sat_bind]
  refine sat_modest emits_persist (fun _ _ _ => trivial) fun rest g₂ pending named => ?_
  change Sat _ _ (attempt _ (recordDenial pending) >>= _) _ _
  rw [sat_bind, sat_attempt]
  refine sat_lastGates (fun g₃ e => ?_) fun _ => sat_submit_founded
  exact sat_modest (emits_recordDenial named) (fun _ _ _ => trivial) fun _ _ _ _ =>
    sat_submit_founded

/-- A cancellation that passes its last check. -/
theorem sat_submitCancellation_founded {target : BrokerOrder} {limitPrice : Decimal}
    {written : limitPrice.val = target.limitPrice} {original : BrokerCommandIntent}
    {intent : OrderIntent} {observed effective : AccountSnapshot}
    (sends : ∀ op g r g', rely op g r g' → Unblocked op r g') :
    Sat ⟨fun h op _ => Founds svc h op, rely⟩ (fun _ _ _ => True)
      (svc.submitCancellation target limitPrice written original intent observed effective :
        Program B CancellationResult) h g := by
  unfold submitCancellation
  refine Sat.call_bind trivial (fun _ _ _ => trivial) fun capabilities g₁ _ => ?_
  split
  · trivial
  refine Sat.raiseIf_bind (fun _ => trivial) fun _ => ?_
  rw [sat_bind]
  refine sat_modest emits_refuseExternalWrites (fun _ _ _ => trivial) fun rest g₂ _ _ => ?_
  refine Sat.lift_bind (fun _ _ => trivial) fun arguments _ => ?_
  refine Sat.peek_bind (Sat.call_bind trivial (fun _ _ _ => trivial) fun _ g₃ _ => ?_)
  refine Sat.call_bind nofun (fun _ _ _ => trivial) fun _ g₄ _ => ?_
  rw [sat_bind]
  apply sat_transition rfl (fun _ => trivial)
  intro r g₅ moved
  cases r with
  | error e => trivial
  | ok _ =>
    have passes : cancellationBlocked g₅ = false := sends _ _ _ _ moved rfl
    refine Sat.peek_bind ?_
    rw [passes, if_neg Bool.false_ne_true, sat_bind, sat_attempt]
    refine (sat_call _ _).mpr ⟨trivial, fun r g₆ _ => ?_⟩
    cases r with
    | error e =>
      have raises : Emits (Modest svc) (fun _ => False) (svc.classifyCancelFailure
          { target with intentId := intent.intentId, state := .submitting } e :
            Program B BrokerOrder) :=
        emits_classifyCancelFailure (fun _ => trivial) (unknown_modest _)
      exact sat_modest raises (fun _ _ _ => trivial) fun _ _ _ never => never.elim
    | ok order =>
      change Sat _ _ (journal _ _ _ _ >>= _) _ _
      rw [sat_bind]
      refine sat_answered ⟨order, ?_, rfl, rfl⟩ ?_
      · rw [saidIn_append]
        exact List.mem_append_right _ (List.mem_singleton_self _)
      · intro h' g' r
        cases r <;> trivial

theorem sat_cancelOrder_founded {target : BrokerOrder} {limitPrice : Decimal}
    {written : limitPrice.val = target.limitPrice}
    (sends : ∀ op g r g', rely op g r g' → Unblocked op r g') :
    Sat ⟨fun h op _ => Founds svc h op, rely⟩ (fun _ _ _ => True)
      (svc.cancelOrder target limitPrice written : Program B CancellationResult) [] g := by
  rw [cancelOrder, sat_bind]
  refine sat_denyInterruptedWrites (fun _ _ => trivial) fun _ => ?_
  refine Sat.raiseIf_bind (fun _ => trivial) fun _ => ?_
  refine Sat.raiseIf_bind (fun _ => trivial) fun _ => ?_
  refine Sat.peek_bind (Sat.raiseIf_bind (fun _ => trivial) fun _ => ?_)
  refine Sat.peek_bind (Sat.raiseIf_bind (fun _ => trivial) fun _ => ?_)
  refine Sat.call_bind trivial (fun _ _ _ => trivial) fun originalIntent g₁ _ => ?_
  refine Sat.call_bind trivial (fun _ _ _ => trivial) fun originalCommand g₂ _ => ?_
  rcases originalIntent with _ | original
  · trivial
  rcases originalCommand with _ | originalCommand
  · trivial
  refine Sat.call_bind trivial (fun _ _ _ => trivial) fun effective g₃ _ => ?_
  refine Sat.call_bind trivial (fun _ _ _ => trivial) fun observed g₄ _ => ?_
  refine Sat.call_bind trivial (fun _ _ _ => trivial) fun report g₅ _ => ?_
  refine Sat.call_bind trivial (fun _ _ _ => trivial) fun _ g₆ _ => ?_
  refine Sat.raiseIf_bind (fun _ => trivial) fun _ => ?_
  rw [sat_bind]
  refine sat_refuseDuplicate ?_ (fun _ _ _ _ => trivial) fun g₇ => ?_
  · intro h op g preparatory
    cases op with
    | saveOrder order => cases preparatory
    | _ => trivial
  refine Sat.peek_bind (Sat.call_bind trivial (fun _ _ _ => trivial) fun _ g₈ _ => ?_)
  exact sat_submitCancellation_founded sends

end ExecutionService

/-! ### Every run -/

section Runs

variable {svc : ExecutionService} {binding : ExecutionEnvironment} {said : List BrokerOrder}
  {g g' : Ambient Tables} {h : History}

/-- The rows that a call has added were saved by it. -/
theorem saved_of_evolves {d d' : Rows}
    (evolves : Evolves (fun op d r d' => performs op d r d') d h d') {row : BrokerOrder}
    (member : row ∈ d'.orders) : row ∈ d.orders ∨ ∃ item ∈ h, item.op = .saveOrder row := by
  induction evolves with
  | nil => exact Or.inl member
  | @cons d op r d₁ h d' moved _ ih =>
    rcases ih member with before | ⟨item, asked, same⟩
    · rcases performs_cases moved with rfl | ⟨intent, -, -, rfl⟩ | ⟨command, -, rfl⟩ |
        ⟨order, saved, rfl⟩
      · exact Or.inl before
      · exact Or.inl before
      · exact Or.inl before
      · rcases List.mem_append.mp before with old | new
        · exact Or.inl old
        · obtain rfl := List.mem_singleton.mp new
          exact Or.inr ⟨_, List.mem_cons_self, saved⟩
    · exact Or.inr ⟨item, List.mem_cons_of_mem _ asked, same⟩

/-- Every row is founded on what the broker has said. -/
def AllFounded (svc : ExecutionService) (said : List BrokerOrder) (d : Rows) : Prop :=
  ∀ row ∈ d.orders, Founded svc said row

theorem AllFounded.call {α : Type} {p left : Program Tables α}
    {rely : (op : Op) → Ambient Tables → Except Exc (Ans op) → Ambient Tables → Prop}
    (journalled : ∀ op g r g', rely op g r g' → journals op g r g')
    (keeps : ∀ d, Keeps (fun g => g.broker.rows = d) p)
    (sat : Sat ⟨fun h op _ => Founds svc h op, rely⟩ (fun _ _ _ => True) p [] g)
    (passes : Passes rely p g h left g') (before : AllFounded svc said g.broker.rows) :
    AllFounded svc (said ++ saidIn h) g'.broker.rows := by
  intro row member
  have evolves := passes.evolves (fun g => g.broker.rows) journalled keeps
  rcases saved_of_evolves evolves member with old | ⟨item, asked, saved⟩
  · exact (before row old).mono (List.subset_append_left _ _)
  · obtain ⟨done, _, ⟨rest, split⟩, founds⟩ := sat.asked passes asked
    rw [saved, List.nil_append] at founds
    refine Founded.mono founds fun o answered => List.mem_append_right _ ?_
    rw [← split, saidIn_append]
    exact List.mem_append_left _ answered

open ExecutionService PostgresExecutionStore in
/-- An update adds its order to the rows, if anything. -/
theorem updateWrites_orders {now : Time} {u : BrokerUpdate} {local_ : BrokerOrder}
    {w : Write Tables Exc}
    (member : w ∈ updateWrites binding now u local_ ++ [replacePositions binding u.positions])
    {t t' : Tables} (went : w t = .ok t') {row : BrokerOrder} (there : row ∈ t'.rows.orders) :
    row ∈ t.rows.orders ∨ row = u.order := by
  have spared : t'.rows = t.rows → row ∈ t.rows.orders ∨ row = u.order :=
    fun same => Or.inl (same ▸ there)
  rw [updateWrites, List.append_assoc] at member
  rcases List.mem_append.mp member with first | later
  · split at first
    · rw [List.mem_singleton] at first
      obtain ⟨-, -, rfl⟩ := writeTransition_ok_iff.mp (first ▸ went)
      apply spared
      split <;> rfl
    · cases first
  rcases List.mem_append.mp later with written | last
  · rcases List.mem_cons.mp written with rfl | filled
    · unfold writeOrder at went
      split at went
      · cases went
      cases saved : saveOrder u.order t.rows with
      | error e =>
        rw [saved] at went
        cases went
      | ok rows =>
        rw [saved] at went
        cases went
        exact ((performs_saveOrder (saveOrder_performs saved)).2 row).mp there
    · obtain ⟨f, -, rfl⟩ := List.mem_map.mp filled
      exact spared (by rw [writeFill_frame went])
  · obtain rfl := List.mem_singleton.mp last
    exact spared (by rw [replacePositions_frame went])

theorem AllFounded.update (before : AllFounded svc said g.broker.rows) (u : BrokerUpdate) :
    AllFounded svc (said ++ [u.order])
      (svc.recordBrokerUpdate binding g.now u g.broker).2.rows := by
  have start : AllFounded svc (said ++ [u.order]) g.broker.rows := fun row member =>
    (before row member).mono (List.subset_append_left _ _)
  unfold ExecutionService.recordBrokerUpdate
  split
  · exact start
  · refine Write.perform_keeps (J := fun t : Tables =>
      AllFounded svc (said ++ [u.order]) t.rows) ?_ start
    intro w member t t' went founded row there
    rcases updateWrites_orders member went there with old | rfl
    · exact founded row old
    · intro _
      exact Or.inr ⟨u.order, List.mem_append_right _ (List.mem_singleton_self _), rfl, rfl⟩

theorem OrderRun.founded (run : OrderRun sends svc binding said g) :
    AllFounded svc said g.broker.rows := by
  have spared : ∀ d, Spared fun g : Ambient Tables => g.broker.rows = d :=
    fun d => ⟨fun _ _ same => same, fun _ _ same => same⟩
  induction run with
  | start empty =>
    intro row member
    rw [empty] at member
    cases member
  | waited _ same ih => exact same ▸ ih
  | executed _ passes ih =>
    exact AllFounded.call (fun _ _ _ _ moved => moved.1)
      (fun d => ExecutionService.keeps_execute (spared d)) ExecutionService.sat_execute_founded
      passes ih
  | cancelled _ passes ih =>
    exact AllFounded.call (fun _ _ _ _ moved => moved.1)
      (fun d => ExecutionService.keeps_cancelOrder (spared d))
      (ExecutionService.sat_cancelOrder_founded fun _ _ _ _ moved => moved.2) passes ih
  | updated _ ih => exact ih.update _

/-- What the broker holds open agrees with what it has said: an order that it has called
terminal stays so, and it names its orders otherwise than the service names its own. -/
structure HoldsOpen (svc : ExecutionService) (said : List BrokerOrder) (holds : UUID → Prop) :
    Prop where
  final : ∀ o ∈ said, o.state.isTerminal = true → ¬ holds o.orderId
  named : ∀ id, holds id → ¬ Provisional svc id

/-- The list shows every order once, and no order as terminal that the broker holds open and
whose own latest row says so. -/
structure Faithful (holds : UUID → Prop) (d : Rows) (shown : List BrokerOrder) : Prop where
  once : (shown.map BrokerOrder.orderId).Nodup
  covers : ∀ id order, d.getOrder id = some order → ∃ o ∈ shown, o.orderId = order.orderId
  live : ∀ id order, d.getOrder id = some order → order.state.isOpen = true →
    holds order.orderId → ∀ o ∈ shown, o.orderId = order.orderId → o.state.isTerminal = false

/-- Where no cancellation is denied between its command and its transmission, the list of
latest orders is faithful after every run. -/
theorem latest_orders_faithful (svc : ExecutionService) (binding : ExecutionEnvironment)
    (run : OrderRun sends svc binding said g) (maxRecords : ℤ) {shown : List BrokerOrder}
    (listed : PostgresExecutionStore.latestOrders maxRecords g.broker.rows = .ok shown)
    (holds : UUID → Prop) (broker : HoldsOpen svc said holds) :
    Faithful holds g.broker.rows shown := by
  obtain ⟨once, rows, covers⟩ := PostgresExecutionStore.latestOrders_ok listed
  refine ⟨once, covers, ?_⟩
  intro id order _ _ held o member same
  rw [← same] at held
  by_contra terminal
  rw [Bool.not_eq_false] at terminal
  rcases run.founded o (rows o member) terminal with provisional | ⟨other, told, named, state⟩
  · exact broker.named o.orderId held provisional
  · exact broker.final other told (state ▸ terminal) (named ▸ held)

end Runs

/-! ### A denied cancellation -/

namespace LatestSample

open Sample

/-- A broker that can place and cancel. -/
def others : (op : Op) → Except Exc (Ans op)
  | .getCapabilities => .ok
      { descriptors :=
          [⟨"place_option_order", "place_option_order", "v1", "schema", false, .obj [], true⟩,
            ⟨"cancel_option_order", "cancel_option_order", "v1", "schema", false, .obj [], true⟩]
        cancelOptionOrders := true
        executionReady := true }
  | op => answers op

def ambient (killed : Bool) (rows : Rows) : Ambient Tables where
  tradingMode := .auto
  killSwitchActive := killed
  healthy := true
  now := 20
  safety := surroundings.safety
  interruptedWriteIntents := []
  broker := { rows := rows }

/-- The transition that precedes the last check of a cancellation. -/
def readies : Op → Bool
  | .recordTransition record => record.reason == "durable cancellation command ready"
  | _ => false

def stored (op : Op) (d : Rows) : Except Exc (Ans op) × Rows :=
  match op with
  | .saveOrder order =>
    match PostgresExecutionStore.saveOrder order d with
    | .ok d' => (.ok (), d')
    | .error e => (.error e, d)
  | op => InMemoryExecutionStore.perform others op d

/-- Every operation is performed at once. The kill switch is active while a cancellation makes
its last check, if it is to be denied. -/
def handler (denies : Bool) (op : Op) (g : Ambient Tables) : Except Exc (Ans op) × Ambient Tables :=
  ((stored op g.broker.rows).1, ambient (denies && readies op) (stored op g.broker.rows).2)

theorem handler_journals (denies : Bool) (op : Op) (g : Ambient Tables) :
    journals op g (handler denies op g).1 (handler denies op g).2 := by
  change performs op g.broker.rows (stored op g.broker.rows).1 (stored op g.broker.rows).2
  unfold stored
  split
  next order =>
    cases saved : PostgresExecutionStore.saveOrder order g.broker.rows with
    | ok d' => exact PostgresExecutionStore.saveOrder_performs saved
    | error e => exact performs_refused _ _ _
  · exact InMemoryExecutionStore.perform_performs others _ _

theorem handler_sends (op : Op) (g : Ambient Tables) :
    sends op g (handler false op g).1 (handler false op g).2 := by
  refine ⟨handler_journals false op g, ?_⟩
  cases op with
  | recordTransition record => exact fun _ => rfl
  | _ => trivial

/-- The state that a program leaves, and what the broker has said on the way. -/
def after {α : Type} (denies : Bool) (p : Program Tables α) (g : Ambient Tables) :
    Ambient Tables :=
  (Coroutine.run (handler denies) p g).2

def saidBy {α : Type} (denies : Bool) (p : Program Tables α) (g : Ambient Tables) :
    List BrokerOrder :=
  saidIn (trace (handler denies) p g)

def placement : Program Tables ExecutionResult :=
  service.execute (proposal 3) none ⟨⟨100⟩, ⟨101⟩, ⟨102⟩⟩

def afterPlacement : Ambient Tables := after false placement (ambient false {})

/-- The order as the broker has placed it. -/
def held : BrokerOrder := (afterPlacement.broker.rows.orders.getLast?).getD openOrder

theorem held_placed : (proposal 3).limitPrice.val = held.limitPrice ∧ held.orderId = ⟨77⟩ := by
  decide +kernel

def cancellation : Program Tables CancellationResult :=
  service.cancelOrder held (proposal 3).limitPrice held_placed.1

def afterCancellation (denies : Bool) : Ambient Tables := after denies cancellation afterPlacement

def said (denies : Bool) : List BrokerOrder :=
  [] ++ saidBy false placement (ambient false {}) ++ saidBy denies cancellation afterPlacement

section

variable {rely : (op : Op) → Ambient Tables → Except Exc (Ans op) → Ambient Tables → Prop}
  {before : List BrokerOrder} {g : Ambient Tables} {denies : Bool}

theorem run_execute (run : OrderRun rely service .demo before g)
    (conforms : ∀ op g, rely op g (handler denies op g).1 (handler denies op g).2)
    (p : TradeProposal) (approval : Option ExactApproval) (draws : Draws) :
    OrderRun rely service .demo (before ++ saidBy denies (service.execute p approval draws) g)
      (after denies (service.execute p approval draws) g) :=
  run.executed (passes_trace (handler denies) conforms _ g)

theorem run_cancelOrder (run : OrderRun rely service .demo before g)
    (conforms : ∀ op g, rely op g (handler denies op g).1 (handler denies op g).2)
    (target : BrokerOrder) (limitPrice : Decimal) (written : limitPrice.val = target.limitPrice) :
    OrderRun rely service .demo
      (before ++ saidBy denies (service.cancelOrder target limitPrice written) g)
      (after denies (service.cancelOrder target limitPrice written) g) :=
  run.cancelled (passes_trace (handler denies) conforms _ g)

theorem run_of_conforms
    (places : ∀ op g, rely op g (handler false op g).1 (handler false op g).2)
    (cancels : ∀ op g, rely op g (handler denies op g).1 (handler denies op g).2) :
    OrderRun rely service .demo (said denies) (afterCancellation denies) :=
  run_cancelOrder (run_execute (.start rfl) places (proposal 3) none ⟨⟨100⟩, ⟨101⟩, ⟨102⟩⟩)
    cancels held (proposal 3).limitPrice held_placed.1

end

/-- What is listed after a cancellation. -/
def shown (denies : Bool) : List BrokerOrder :=
  PostgresExecutionStore.listLatestOrders (afterCancellation denies).broker.rows

theorem listed (denies : Bool)
    (within : (afterCancellation denies).broker.rows.orders.length ≤ 100000) :
    PostgresExecutionStore.latestOrders 100000 (afterCancellation denies).broker.rows =
      .ok (shown denies) := by
  have bound : ¬ (100000 : ℤ) < (afterCancellation denies).broker.rows.orders.length := by omega
  rw [PostgresExecutionStore.latestOrders, if_neg (by decide), if_neg bound, shown]

theorem le_foldl (text : List Char) (n : ℕ) :
    n ≤ text.foldl (fun acc c => acc * 31 + c.toNat) n := by
  induction text generalizing n with
  | nil => exact le_refl n
  | cons c rest ih =>
    rw [List.foldl_cons]
    exact le_trans (by omega) (ih _)

theorem uuid5_val (namespace_ : UUID) (name : String) :
    (service.hashing.uuid5 namespace_ name).val =
      name.toList.foldl (fun acc c => acc * 31 + c.toNat) 7 := rfl

/-- The identifiers of the service are other than the broker's. -/
theorem not_provisional : ¬ Provisional service ⟨77⟩ := by
  rintro ⟨intentId, same⟩
  have digits := congrArg UUID.val same
  rw [uuid5_val, String.toList_append, List.foldl_append] at digits
  change 77 = _ at digits
  have large := le_foldl intentId.str.toList
    ("pending:".toList.foldl (fun acc c => acc * 31 + c.toNat) 7)
  have above : 77 < "pending:".toList.foldl (fun acc c => acc * 31 + c.toNat) 7 := by
    decide +kernel
  omega

/-- The broker holds the one order that it has named. -/
theorem holdsOpen (denies : Bool)
    (open_ : ((said denies).all fun o => !o.state.isTerminal) = true) :
    HoldsOpen service (said denies) (· = held.orderId) := by
  constructor
  · intro o member terminal
    have nonterminal := List.all_eq_true.mp open_ o member
    rw [terminal] at nonterminal
    cases nonterminal
  · rintro id rfl
    rw [held_placed.2]
    exact not_provisional

/-- The run with a cancellation that is sent. -/
theorem sent : ((said false).all fun o => !o.state.isTerminal) = true ∧
    (afterCancellation false).broker.rows.orders.length = 3 := by
  decide +kernel

/-- The run with a cancellation that is denied. -/
theorem denied : ((said true).all fun o => !o.state.isTerminal) = true ∧
    (afterCancellation true).broker.rows.orders.length = 4 ∧
    (afterCancellation true).broker.rows.getOrder held.intentId = some held ∧
    held.state = .open_ ∧
    (shown true).map (fun o => (o.orderId, o.state)) = [(⟨77⟩, .rejected)] := by
  decide +kernel

end LatestSample

/-- A cancellation whose outcome is not known leaves its target as it is. -/
theorem latest_orders_faithful_unknown :
    Faithful (· = LatestSample.held.orderId) (LatestSample.afterCancellation false).broker.rows
      (LatestSample.shown false) :=
  latest_orders_faithful Sample.service .demo
    (LatestSample.run_of_conforms LatestSample.handler_sends LatestSample.handler_sends) 100000
    (LatestSample.listed false (LatestSample.sent.2.le.trans (by decide))) _
    (LatestSample.holdsOpen false LatestSample.sent.1)

/-- The kill switch trips once the command of a cancellation is ready: its target, which is
open at the broker and in its own latest row, is listed as rejected. -/
theorem latest_orders_denied :
    ¬ ∀ (svc : ExecutionService) (binding : ExecutionEnvironment) (said : List BrokerOrder)
      (g : Ambient Tables), OrderRun journals svc binding said g →
      ∀ maxRecords shown,
        PostgresExecutionStore.latestOrders maxRecords g.broker.rows = .ok shown →
        ∀ holds, HoldsOpen svc said holds → Faithful holds g.broker.rows shown := by
  intro faithful
  obtain ⟨open_, length, own, state, listed⟩ := LatestSample.denied
  have live := (faithful Sample.service .demo _ _ (LatestSample.run_of_conforms
    (LatestSample.handler_journals false) (LatestSample.handler_journals true)) 100000 _
    (LatestSample.listed true (length.le.trans (by decide))) _ (LatestSample.holdsOpen true open_)).live
    _ _ own (by rw [state]; rfl) rfl
  obtain ⟨o, member, same⟩ := List.mem_map.mp (listed ▸ List.mem_singleton_self _)
  have identity : o.orderId = LatestSample.held.orderId := by
    rw [LatestSample.held_placed.2]
    exact congrArg Prod.fst same
  have state' : o.state = .rejected := congrArg Prod.snd same
  have terminal := live o member identity
  rw [state'] at terminal
  cases terminal

end Sentry
