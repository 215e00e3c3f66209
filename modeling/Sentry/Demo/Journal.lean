import Sentry.Execution.Store
import Sentry.Ledger.ShadowLedger

/-!
# The execution journal of the offline runtime

`save_order` and `save_fill` of `app/execution/postgres_store.py`, and
`_sync_execution_journal` of `app/demo/runtime.py`, which brings the journal up to the
ledger behind the broker. A call that raises leaves the rows it has already appended; a
synchronisation is only looked at when it completes. Reconciliation events and position
snapshots are written on the way and read by nothing here, so they are left out.
-/
namespace Sentry

open Support

/-- The ledger behind the broker and the durable tables beside it. -/
structure Books where
  ledger : ShadowLedger
  rows : Rows := {}
  transitions : List StateTransitionRecord := []
  fills : List Fill := []

namespace PostgresExecutionStore

/-- The exact terms `save_order` holds the rows of one intent to. -/
def changesTerms (previous order : BrokerOrder) : Bool :=
  previous.contract ≠ order.contract || previous.side ≠ order.side ||
    previous.quantity ≠ order.quantity || previous.limitPrice ≠ order.limitPrice ||
    decide (order.filledQuantity < previous.filledQuantity)

def changesIdentity (previous order : BrokerOrder) : Bool :=
  previous.orderId ≠ order.orderId &&
    !(previous.state == .submitting || previous.state == .submissionUnknown)

def saveOrder (order : BrokerOrder) (d : Rows) : Except Exc Rows :=
  if (d.getOrderIntent order.intentId).isNone then
    .error (.safetyCritical "broker order cannot precede its durable order intent")
  else if d.getOrder order.intentId = some order then .ok d
  else if (d.getOrder order.intentId).any fun previous => changesTerms previous order then
    .error (.safetyCritical "broker order changed its durable exact terms")
  else if (d.getOrder order.intentId).any fun previous => changesIdentity previous order then
    .error (.safetyCritical "broker order identity changed after submission")
  else .ok (d.addOrder order)

/-- A save that returns is what the service relies on. -/
theorem saveOrder_performs {order : BrokerOrder} {d d' : Rows} (went : saveOrder order d = .ok d') :
    performs (.saveOrder order) d (.ok ()) d' := by
  unfold saveOrder at went
  split at went
  · cases went
  · split at went
    next last =>
      cases went
      exact ⟨Or.inl rfl, fun _ => last⟩
    · split at went
      · cases went
      · split at went
        · cases went
        · cases went
          exact ⟨Or.inr rfl, fun _ => Rows.getOrder_addOrder d order⟩

/-- An immutable save: a repetition is accepted, other content under the identifier is not. -/
def saveFill (b : Books) (fill : Fill) : Except Exc Books :=
  if !(b.rows.orders.any fun order => order.orderId == fill.orderId) then
    .error (.safetyCritical "fill cannot precede its durable broker order")
  else match b.fills.find? fun other => other.fillId == fill.fillId with
    | some other =>
      if other ≠ fill then .error (.duplicateOrder "fills fill_id reused with different content")
      else .ok b
    | none => .ok { b with fills := b.fills ++ [fill] }

/-- The last row of every intent, newest first, each order once. -/
def listLatestOrders (d : Rows) : List BrokerOrder :=
  (d.orders.reverse.foldl (fun (state : List UUID × List UUID × List BrokerOrder) order =>
    if state.1.contains order.intentId then state
    else if state.2.1.contains order.orderId then (order.intentId :: state.1, state.2)
    else (order.intentId :: state.1, order.orderId :: state.2.1, state.2.2 ++ [order]))
    ([], [], [])).2.2

/-- The row is that of a command denied before it was sent. -/
def deniedLocally (b : Books) (order : BrokerOrder) : Bool :=
  order.state == .rejected && order.filledQuantity == 0 && order.brokerOrderId.isNone &&
    (b.rows.getOrderIntent order.intentId).isSome &&
    (b.rows.getCommandForOrderIntent order.intentId).isSome &&
    b.transitions.any fun record => record.intentId == order.intentId &&
      record.previous == .submitting && record.current == .rejected &&
      record.reason == "local pre-submission gate denied; no broker write attempted"

end PostgresExecutionStore

namespace OfflineRuntime

open PostgresExecutionStore

variable (hashing : Hashing)

/-- One order of the ledger: its command must be durable, and its row is brought up to it. -/
def syncOrder (d : Rows) (item : LedgerOrder) : Except Exc Rows :=
  if (d.getOrderIntent item.published.intentId).isNone ||
      !((d.getCommandForOrderIntent item.published.intentId).any fun command =>
        command.commandHash hashing == item.command.commandHash hashing) then
    .error (.safetyCritical "ledger order lacks matching durable exact command")
  else if d.getOrder item.published.intentId ≠ some item.published then
    saveOrder item.published d
  else .ok d

/-- A durable order that the ledger does not have was denied locally or is a cancellation. -/
def checkDurable (b : Books) (order : BrokerOrder) : Except Exc Unit :=
  if (b.rows.getOrderIntent order.intentId).any (fun intent => intent.action == .cancelOptionOrder)
  then .ok ()
  else if b.ledger.orders.values.any (fun item => item.published.intentId == order.intentId) then
    .ok ()
  else if deniedLocally b order then .ok ()
  else .error (.safetyCritical "durable order is missing from the simulated ledger")

/-- `_sync_execution_journal`. -/
def syncExecutionJournal (b : Books) : Except Exc Books := do
  let rows ← b.ledger.orders.values.foldlM (syncOrder hashing) b.rows
  let b := { b with rows := rows }
  (listLatestOrders b.rows).forM (checkDurable b)
  b.ledger.fills.foldlM saveFill b

/-! ### What a completed synchronisation leaves -/

variable {hashing}

theorem syncOrder_ok {d d' : Rows} {item : LedgerOrder}
    (went : syncOrder hashing d item = .ok d') :
    d'.orderIntents = d.orderIntents ∧
      ∀ row, row ∈ d'.orders ↔ row ∈ d.orders ∨ row = item.published := by
  unfold syncOrder at went
  split at went
  · cases went
  · split at went
    · exact performs_saveOrder (saveOrder_performs went)
    next last =>
      cases went
      exact performs_saveOrder ⟨Or.inl rfl, fun _ => not_not.mp last⟩

theorem syncOrders_ok {d d' : Rows} {items : List LedgerOrder}
    (went : items.foldlM (syncOrder hashing) d = .ok d') :
    d'.orderIntents = d.orderIntents ∧
      ∀ row, row ∈ d'.orders ↔ row ∈ d.orders ∨ ∃ item ∈ items, row = item.published := by
  refine foldlM_kept (P := fun done e => e.orderIntents = d.orderIntents ∧
    ∀ row, row ∈ e.orders ↔ row ∈ d.orders ∨ ∃ item ∈ done, row = item.published) went
    ⟨rfl, by simp⟩ ?_
  rintro done item rest e e' - ⟨intents, orders⟩ stepped
  obtain ⟨intents', orders'⟩ := syncOrder_ok stepped
  refine ⟨intents'.trans intents, fun row => ?_⟩
  rw [orders', orders, or_assoc]
  simp [or_and_right, exists_or]

/-- Of fills with distinct identifiers, the one found under an identifier is the one that has it. -/
theorem find_fill {fills : List Fill} (distinct : (fills.map Fill.fillId).Nodup) {fill : Fill}
    (member : fill ∈ fills) :
    fills.find? (fun other => other.fillId == fill.fillId) = some fill := by
  induction fills with
  | nil => cases member
  | cons first rest ih =>
    rw [List.map_cons, List.nodup_cons] at distinct
    rcases List.mem_cons.mp member with rfl | later
    · simp
    · have other : (first.fillId == fill.fillId) = false := by
        rw [beq_eq_false_iff_ne]
        intro same
        apply distinct.1
        rw [same]
        exact List.mem_map_of_mem later
      simp only [List.find?_cons, other]
      exact ih distinct.2 later

theorem saveFill_ledger {b b' : Books} {fill : Fill} (went : saveFill b fill = .ok b') :
    b'.ledger = b.ledger ∧ b'.rows = b.rows := by
  unfold saveFill at went
  split at went
  · cases went
  · split at went
    · split at went
      · cases went
      · cases went
        exact ⟨rfl, rfl⟩
    · cases went
      exact ⟨rfl, rfl⟩

/-- The fills that were missing are appended in their order. -/
theorem saveFills_ok {b b' : Books} {fills : List Fill}
    (distinct : (fills.map Fill.fillId).Nodup) (earlier : b.fills <+: fills)
    (went : fills.foldlM saveFill b = .ok b') : b' = { b with fills := fills } := by
  have ended : b' = { b with fills := b'.fills } ∧ b'.fills <+: fills ∧ fills <+: b'.fills := by
    refine foldlM_kept (P := fun done c => c = { b with fills := c.fills } ∧ c.fills <+: fills ∧
      done <+: c.fills) went ⟨rfl, earlier, List.nil_prefix⟩ ?_
    rintro done fill rest c c' split ⟨same, below, reached⟩ stepped
    have next : done ++ [fill] <+: fills := ⟨rest, by rw [split, List.append_assoc]; rfl⟩
    unfold saveFill at stepped
    split at stepped
    · cases stepped
    · by_cases more : done.length < c.fills.length
      · -- the fill was there before
        have reached' : done ++ [fill] <+: c.fills :=
          List.prefix_of_prefix_length_le next below (by simp; omega)
        have member : fill ∈ c.fills :=
          reached'.subset (List.mem_append_right _ List.mem_cons_self)
        have found := find_fill (distinct.sublist (below.sublist.map _)) member
        rw [found] at stepped
        simp only [ne_eq, not_true_eq_false, if_false] at stepped
        cases stepped
        exact ⟨same, below, reached'⟩
      · -- everything before it is there and nothing else
        have all : c.fills = done := (reached.eq_of_length (by
          have := reached.length_le
          omega)).symm
        have missing : c.fills.find? (fun other => other.fillId == fill.fillId) = none := by
          rw [List.find?_eq_none]
          intro other member again
          rw [all] at member
          rw [split, List.map_append, List.nodup_append] at distinct
          exact distinct.2.2 _ (List.mem_map_of_mem member) _ List.mem_cons_self (eq_of_beq again)
        rw [missing] at stepped
        cases stepped
        refine ⟨?_, ?_, ?_⟩
        · rw [same]
        · rw [all]
          exact next
        · rw [all]
  obtain ⟨same, below, above⟩ := ended
  rw [same, below.eq_of_length_le above.length_le]

theorem syncExecutionJournal_frame {b b' : Books} (went : syncExecutionJournal hashing b = .ok b') :
    b'.ledger = b.ledger ∧ b'.rows.orderIntents = b.rows.orderIntents := by
  obtain ⟨rows, synced, went⟩ := bind_ok went
  obtain ⟨_, -, went⟩ := bind_ok went
  have kept : b'.ledger = b.ledger ∧ b'.rows = rows := by
    refine foldlM_kept (P := fun _ c => c.ledger = b.ledger ∧ c.rows = rows) went ⟨rfl, rfl⟩ ?_
    rintro done fill rest c c' - ⟨ledger, same⟩ stepped
    obtain ⟨ledger', same'⟩ := saveFill_ledger stepped
    exact ⟨ledger'.trans ledger, same'.trans same⟩
  exact ⟨kept.1, kept.2 ▸ (syncOrders_ok synced).1⟩

/-- A completed synchronisation: every order of the ledger is in the journal as it stands, and
so is every fill. -/
theorem syncExecutionJournal_ok {b b' : Books} (distinct : (b.ledger.fills.map Fill.fillId).Nodup)
    (earlier : b.fills <+: b.ledger.fills) (went : syncExecutionJournal hashing b = .ok b') :
    b'.ledger = b.ledger ∧ b'.fills = b.ledger.fills ∧
      b'.rows.orderIntents = b.rows.orderIntents ∧
      ∀ row, row ∈ b'.rows.orders ↔
        row ∈ b.rows.orders ∨ ∃ item ∈ b.ledger.orders.values, row = item.published := by
  obtain ⟨rows, synced, went⟩ := bind_ok went
  obtain ⟨_, -, went⟩ := bind_ok went
  obtain ⟨intents, orders⟩ := syncOrders_ok synced
  have saved : b' = { b with rows := rows, fills := b.ledger.fills } :=
    saveFills_ok (b := { b with rows := rows }) distinct earlier went
  rw [saved]
  exact ⟨rfl, rfl, intents, orders⟩

end OfflineRuntime

end Sentry
