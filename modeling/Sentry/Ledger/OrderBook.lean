import Sentry.Ledger.Changes
import Sentry.Ledger.Snapshot
import Sentry.Ledger.Trades

/-!
# The order book over a run

Orders only advance: their terms stay, their filled quantity never falls and a
terminal order is final. `Booked` is what every reached book satisfies, in any
decimal context, and `OneIntent` what keeps a submission from taking the place of
an earlier order. A ledger that is exported and restored is the same ledger, so
runs with restarts reach what runs without them reach.
-/
namespace Sentry

open Support

namespace ShadowLedger

/-! ### Orders that advance -/

theorem isTerminal_of_isOpen {state : OrderState} (isOpen : state.isOpen = true) :
    state.isTerminal = false := by
  cases state <;> first | rfl | cases isOpen

/-- What may become of a recorded order. -/
structure Advanced (item item' : LedgerOrder) : Prop where
  frame : item' = ⟨{ item.published with
    state := item'.published.state
    filledQuantity := item'.published.filledQuantity
    averageFillPrice := item'.published.averageFillPrice }, item.command⟩
  filled_le : item.published.filledQuantity ≤ item'.published.filledQuantity
  terminal : item.published.state.isTerminal = true → item' = item
  settled : item'.published.state.isOpen = true ∨ item'.published.state.isTerminal = true ∨
    item' = item

theorem Advanced.refl (item : LedgerOrder) : Advanced item item :=
  ⟨rfl, le_refl _, fun _ => rfl, Or.inr (Or.inr rfl)⟩

theorem Advanced.trans {a b c : LedgerOrder} (first : Advanced a b) (second : Advanced b c) :
    Advanced a c where
  frame := by rw [second.frame, first.frame]
  filled_le := le_trans first.filled_le second.filled_le
  terminal := by
    intro ended
    have same := first.terminal ended
    subst same
    exact second.terminal ended
  settled := by
    rcases second.settled with isOpen | ended | rfl
    · exact Or.inl isOpen
    · exact Or.inr (Or.inl ended)
    · exact first.settled

/-- Orders advance and none appears or disappears. -/
structure Advances (s s' : ShadowLedger) : Prop where
  keys : s'.orders.keys = s.orders.keys
  orders : ∀ key item, s.orders.get? key = some item →
    ∃ item', s'.orders.get? key = some item' ∧ Advanced item item'

theorem Advances.of_eq {s s' : ShadowLedger} (same : s'.orders = s.orders) : Advances s s' :=
  ⟨by rw [same], fun _ item found => ⟨item, same ▸ found, .refl item⟩⟩

theorem Advances.of_set {s s' : ShadowLedger} {key : UUID} {item item' : LedgerOrder}
    (found : s.orders.get? key = some item) (moved : Advanced item item')
    (written : s'.orders = s.orders.set key item') : Advances s s' := by
  constructor
  · rw [written]
    exact Dict.keys_set_of_mem (Dict.mem_keys.mpr ⟨item, found⟩)
  · intro k old there
    rw [written, Dict.get?_set]
    split
    next same =>
      subst same
      cases found.symm.trans there
      exact ⟨item', rfl, moved⟩
    · exact ⟨old, there, .refl old⟩

theorem Advances.trans {a b c : ShadowLedger} (first : Advances a b) (second : Advances b c) :
    Advances a c where
  keys := second.keys.trans first.keys
  orders := by
    intro key item found
    obtain ⟨middle, there, earlier⟩ := first.orders key item found
    obtain ⟨item', found', later⟩ := second.orders key middle there
    exact ⟨item', found', earlier.trans later⟩

/-- The order a later one came from. -/
theorem Advances.origin {s s' : ShadowLedger} (advances : Advances s s') {key : UUID}
    {item' : LedgerOrder} (found : s'.orders.get? key = some item') :
    ∃ item, s.orders.get? key = some item ∧ Advanced item item' := by
  have member : key ∈ s.orders.keys := advances.keys ▸ Dict.mem_keys.mpr ⟨item', found⟩
  obtain ⟨item, before⟩ := Dict.mem_keys.mp member
  obtain ⟨later, there, moved⟩ := advances.orders key item before
  cases found.symm.trans there
  exact ⟨item, before, moved⟩

theorem advanced_ended {item : LedgerOrder} {state : OrderState}
    (isOpen : item.published.state.isOpen = true) (ended : state.isTerminal = true) :
    Advanced item ⟨{ item.published with state := state }, item.command⟩ where
  frame := rfl
  filled_le := le_refl _
  terminal := fun already => by simp [isTerminal_of_isOpen isOpen] at already
  settled := Or.inr (Or.inl ended)

theorem advanced_filled (D : Decimal.Context) {item : LedgerOrder} {quantity : ℤ} (price : ℚ)
    (isOpen : item.published.state.isOpen = true) (positive : 0 < quantity) :
    Advanced item ⟨filledOrder D item.published quantity price, item.command⟩ where
  frame := rfl
  filled_le := by
    simp only [filledOrder]
    omega
  terminal := fun already => by simp [isTerminal_of_isOpen isOpen] at already
  settled := by
    simp only [filledOrder]
    split
    · exact Or.inr (Or.inl rfl)
    · exact Or.inl rfl

theorem advanced_expireBy (cfg : LedgerConfig) (date : Date) (item : LedgerOrder) :
    Advanced item (LedgerOrder.expireBy cfg date item) := by
  unfold LedgerOrder.expireBy
  split
  next ends =>
    simp only [LedgerOrder.endsBy, Bool.and_eq_true] at ends
    exact advanced_ended ends.1 rfl
  · exact .refl item

theorem advances_lapseOrders (cfg : LedgerConfig) (date : Date) (s : ShadowLedger) :
    Advances s (lapseOrders cfg date s) where
  keys := Dict.keys_mapValues _ _
  orders := by
    intro key item found
    refine ⟨LedgerOrder.expireBy cfg date item, ?_, advanced_expireBy cfg date item⟩
    simp only [Dict.get?_mapValues, found, Option.map_some]

section Changes

variable {D : Decimal.Context} {cfg : LedgerConfig} {now : Time} {op : Op} {s s' : ShadowLedger}

theorem isOpen_of_eligibleFor {order : BrokerOrder} {quote : OptionQuote}
    (eligible : BrokerOrder.eligibleFor order quote = true) : order.state.isOpen = true := by
  simp only [BrokerOrder.eligibleFor, Bool.and_eq_true] at eligible
  exact eligible.1.2

/-- Only a submission under a new key does more to the book than advance its orders. -/
theorem Change.advances (change : Change D cfg now op s s') :
    Advances s s' ∨ ∃ command contract, op = .submit command contract ∧
      Bound cfg command contract .placeOptionOrder ∧
      s.orderByIdempotency.get? command.idempotencyKey = none ∧
      s' = (recordSubmission D cfg now command contract s).2 := by
  cases change with
  | recorded bound unused => exact Or.inr ⟨_, _, rfl, bound, unused, rfl⟩
  | credited => exact Or.inl (.of_eq rfl)
  | reviewed => exact Or.inl (.of_eq rfl)
  | remembered => exact Or.inl (.of_eq rfl)
  | canceled targets isOpen => exact Or.inl (.of_set targets.found (advanced_ended isOpen rfl) rfl)
  | quoted => exact Or.inl (.of_eq (markPosition_orders ..))
  | filled found eligible applied =>
    have did := applied_of_applyFill applied
    have written := congrArg ShadowLedger.orders did.frame
    exact Or.inl (.of_set found (advanced_filled D _ (isOpen_of_eligibleFor eligible)
      did.quantity_pos) written)
  | lapsed => exact Or.inl (advances_lapseOrders cfg _ s)
  | settled => exact Or.inl (.of_eq rfl)

/-- The maps beside the book that a fill, a quote and an expiration leave alone. -/
theorem Change.keys (change : Change D cfg now op s s') :
    s'.orderByIdempotency = s.orderByIdempotency ∨
    (∃ command contract, op = .submit command contract ∧ s'.orderByIdempotency =
      s.orderByIdempotency.set command.idempotencyKey (orderIdFor cfg command)) ∨
    ∃ command ref key item, op = .cancel command ref ∧ Targets command key item s ∧
      s'.orderByIdempotency =
        s.orderByIdempotency.set command.idempotencyKey item.published.orderId := by
  cases change with
  | recorded =>
    refine Or.inr (Or.inl ⟨_, _, rfl, ?_⟩)
    rw [recordSubmission_frame]
  | credited => exact Or.inl rfl
  | reviewed => exact Or.inl rfl
  | remembered targets => exact Or.inr (Or.inr ⟨_, _, _, _, rfl, targets, rfl⟩)
  | canceled targets => exact Or.inr (Or.inr ⟨_, _, _, _, rfl, targets, rfl⟩)
  | quoted => exact Or.inl (by rw [markPosition_frame])
  | filled found eligible applied => exact Or.inl (by rw [(applied_of_applyFill applied).frame])
  | lapsed => exact Or.inl rfl
  | settled => exact Or.inl rfl

/-- A key that leads to an order goes on leading to it. -/
theorem Change.key_kept (change : Change D cfg now op s s') {k : String} {id : UUID}
    (known : s.orderByIdempotency.get? k = some id) :
    s'.orderByIdempotency.get? k = some id := by
  have unmoved : ∀ key target, s.orderByIdempotency.get? key = none →
      s'.orderByIdempotency = s.orderByIdempotency.set key target →
        s'.orderByIdempotency.get? k = some id := by
    intro key target unused written
    rw [written, Dict.get?_set]
    split
    next same =>
      subst same
      rw [unused] at known
      cases known
    · exact known
  rcases change.keys with same | ⟨command, contract, rfl, written⟩ |
    ⟨command, ref, key, item, rfl, targets, written⟩
  · rw [same]
    exact known
  · cases change with
    | recorded bound unused => exact unmoved _ _ unused written
  · exact unmoved _ _ targets.unused written

/-! ### Reached books -/

/-- What holds of every book that commands of a list have led to. -/
structure Booked (cfg : LedgerConfig) (commands : List BrokerCommandIntent) (s : ShadowLedger) :
    Prop where
  keyed : ∀ key item, s.orders.get? key = some item → item.published.orderId = key
  placed : ∀ key item, s.orders.get? key = some item →
    item.command ∈ commands ∧ key = orderIdFor cfg item.command
  known : ∀ key item, s.orders.get? key = some item →
    ∃ id, s.orderByIdempotency.get? item.command.idempotencyKey = some id
  proper : ∀ key item, s.orders.get? key = some item →
    item.published.state.isOpen = true ∨ item.published.state.isTerminal = true
  resolved : ∀ k id, s.orderByIdempotency.get? k = some id → ∃ item, s.orders.get? id = some item

theorem booked_fresh (commands : List BrokerCommandIntent) : Booked cfg commands (fresh cfg) where
  keyed := fun _ _ found => nomatch found
  placed := fun _ _ found => nomatch found
  known := fun _ _ found => nomatch found
  proper := fun _ _ found => nomatch found
  resolved := fun _ _ found => nomatch found

variable {commands : List BrokerCommandIntent}

/-- A book whose orders advanced, and whose keys were only added to, is still one. -/
theorem Booked.advances (booked : Booked cfg commands s) (advances : Advances s s')
    (kept : ∀ k id, s.orderByIdempotency.get? k = some id →
      s'.orderByIdempotency.get? k = some id)
    (added : ∀ k id, s'.orderByIdempotency.get? k = some id →
      s.orderByIdempotency.get? k = some id ∨ id ∈ s.orders.keys) : Booked cfg commands s' where
  keyed := by
    intro key item' found
    obtain ⟨item, before, moved⟩ := advances.origin found
    rw [moved.frame]
    exact booked.keyed key item before
  placed := by
    intro key item' found
    obtain ⟨item, before, moved⟩ := advances.origin found
    rw [moved.frame]
    exact booked.placed key item before
  known := by
    intro key item' found
    obtain ⟨item, before, moved⟩ := advances.origin found
    obtain ⟨id, known⟩ := booked.known key item before
    rw [moved.frame]
    exact ⟨id, kept _ id known⟩
  proper := by
    intro key item' found
    obtain ⟨item, before, moved⟩ := advances.origin found
    rcases moved.settled with isOpen | ended | rfl
    · exact Or.inl isOpen
    · exact Or.inr ended
    · exact booked.proper key _ before
  resolved := by
    intro k id found
    have member : id ∈ s.orders.keys := by
      rcases added k id found with old | there
      · exact Dict.mem_keys.mpr (booked.resolved k id old)
      · exact there
    exact Dict.mem_keys.mp (advances.keys ▸ member)

theorem Booked.recorded (booked : Booked cfg commands s) {command : BrokerCommandIntent}
    (inRun : command ∈ commands) (contract : OptionContract) :
    Booked cfg commands (recordSubmission D cfg now command contract s).2 := by
  have orders := recordSubmission_orders cfg s now command contract D
  have keys := congrArg orderByIdempotency (recordSubmission_frame cfg s now command contract D)
  have lookup : ∀ key item,
      (recordSubmission D cfg now command contract s).2.orders.get? key = some item →
      (key = orderIdFor cfg command ∧ item = recordedOrder cfg now command contract
        (rejectionReasonsFor D cfg now command contract s)) ∨ s.orders.get? key = some item := by
    intro key item found
    rw [orders, Dict.get?_set] at found
    split at found
    next same => exact Or.inl ⟨same.symm, (Option.some.inj found).symm⟩
    · exact Or.inr found
  refine ⟨?_, ?_, ?_, ?_, ?_⟩
  · intro key item found
    rcases lookup key item found with ⟨rfl, rfl⟩ | old
    · rfl
    · exact booked.keyed key item old
  · intro key item found
    rcases lookup key item found with ⟨rfl, rfl⟩ | old
    · exact ⟨inRun, rfl⟩
    · exact booked.placed key item old
  · intro key item found
    rw [keys]
    simp only [Dict.get?_set]
    rcases lookup key item found with ⟨rfl, rfl⟩ | old
    · exact ⟨_, if_pos rfl⟩
    · obtain ⟨id, known⟩ := booked.known key item old
      split
      · exact ⟨_, rfl⟩
      · exact ⟨id, known⟩
  · intro key item found
    rcases lookup key item found with ⟨rfl, rfl⟩ | old
    · simp only [newOrder]
      split
      · exact Or.inl rfl
      · exact Or.inr rfl
    · exact booked.proper key item old
  · intro k id found
    rw [keys, Dict.get?_set] at found
    rw [orders]
    simp only [Dict.get?_set]
    split at found
    · cases found
      exact ⟨_, if_pos rfl⟩
    · obtain ⟨item, there⟩ := booked.resolved k id found
      split
      · exact ⟨_, rfl⟩
      · exact ⟨item, there⟩

theorem Booked.change (booked : Booked cfg commands s)
    (inRun : ∀ command ∈ op.command?, command ∈ commands) (change : Change D cfg now op s s') :
    Booked cfg commands s' := by
  rcases change.advances with advances | ⟨command, contract, rfl, -, -, rfl⟩
  · refine booked.advances advances (fun k id => change.key_kept) ?_
    intro k id found
    rcases change.keys with same | ⟨command, contract, rfl, written⟩ |
      ⟨command, ref, key, item, rfl, targets, written⟩
    · exact Or.inl (same ▸ found)
    · cases change with
      | recorded bound unused =>
        rw [written, Dict.get?_set] at found
        split at found
        · cases found
          right
          rw [← advances.keys, recordSubmission_orders, Dict.mem_keys_set]
          exact Or.inl rfl
        · exact Or.inl found
    · rw [written, Dict.get?_set] at found
      split at found
      · cases found
        right
        rw [booked.keyed key item targets.found]
        exact Dict.mem_keys.mpr ⟨item, targets.found⟩
      · exact Or.inl found
  · exact booked.recorded (inRun command rfl) contract

theorem Booked.perform (booked : Booked cfg commands s) (op : Op)
    (inRun : ∀ command ∈ op.command?, command ∈ commands) :
    Booked cfg commands (perform D cfg now op s).2 :=
  perform_keeps op (fun change booked => booked.change inRun change) booked

/-- The commands of a run are those of its first operation and those of the others. -/
theorem placed_cons {step : Time × Op} {rest : List (Time × Op)}
    (inRun : ∀ command ∈ placed (step :: rest), command ∈ commands) :
    (∀ command ∈ step.2.command?, command ∈ commands) ∧
      ∀ command ∈ placed rest, command ∈ commands := by
  constructor
  · intro command there
    exact inRun command (List.mem_filterMap.mpr ⟨step, List.mem_cons_self, there⟩)
  · intro command member
    obtain ⟨later, inside, there⟩ := List.mem_filterMap.mp member
    exact inRun command (List.mem_filterMap.mpr ⟨later, List.mem_cons_of_mem _ inside, there⟩)

/-- What the changes of operations of some commands keep holds in every state of a run of
such operations. -/
theorem run_keeps_placed {J : ShadowLedger → Prop}
    (change : ∀ {now op s s'}, (∀ command ∈ op.command?, command ∈ commands) →
      Change D cfg now op s s' → J s → J s')
    (ops : List (Time × Op)) (inRun : ∀ command ∈ placed ops, command ∈ commands)
    (s : ShadowLedger) (holds : J s) : J (run D cfg ops s) := by
  induction ops generalizing s with
  | nil => exact holds
  | cons step rest ih =>
    obtain ⟨own, others⟩ := placed_cons inRun
    exact ih others _ (perform_keeps step.2 (change own) holds)

/-- The commands of a run lead to a book of those commands. -/
theorem run_booked (D : Decimal.Context) (cfg : LedgerConfig) (ops : List (Time × Op))
    (inRun : ∀ command ∈ placed ops, command ∈ commands) (s : ShadowLedger)
    (booked : Booked cfg commands s) : Booked cfg commands (run D cfg ops s) :=
  run_keeps_placed (fun own change booked => booked.change own change) ops inRun s booked

theorem run_fresh_booked (D : Decimal.Context) (cfg : LedgerConfig) (ops : List (Time × Op)) :
    Booked cfg (placed ops) (run D cfg ops (fresh cfg)) :=
  run_booked D cfg ops (fun _ member => member) _ (booked_fresh _)

/-! ### One order for each intent -/

/-- No two idempotency keys share an order intent, and the identifiers of the orders tell
the intents apart. -/
structure OneIntent (cfg : LedgerConfig) (commands : List BrokerCommandIntent) : Prop where
  keys : ∀ a ∈ commands, ∀ b ∈ commands, a.orderIntentId = b.orderIntentId →
    a.idempotencyKey = b.idempotencyKey
  apart : ∀ a ∈ commands, ∀ b ∈ commands, orderIdFor cfg a = orderIdFor cfg b →
    a.orderIntentId = b.orderIntentId

/-- Under a new key there is no order yet. -/
theorem Booked.unused (booked : Booked cfg commands s) (one : OneIntent cfg commands)
    {command : BrokerCommandIntent} (inRun : command ∈ commands)
    (unused : s.orderByIdempotency.get? command.idempotencyKey = none) :
    s.orders.get? (orderIdFor cfg command) = none := by
  cases taken : s.orders.get? (orderIdFor cfg command) with
  | none => rfl
  | some item =>
    obtain ⟨inside, named⟩ := booked.placed _ item taken
    have sameKey := one.keys _ inside _ inRun (one.apart _ inside _ inRun named.symm)
    obtain ⟨id, known⟩ := booked.known _ item taken
    rw [sameKey, unused] at known
    cases known

/-- Every order is still there and has advanced. -/
def Grows (s s' : ShadowLedger) : Prop :=
  ∀ key item, s.orders.get? key = some item →
    ∃ item', s'.orders.get? key = some item' ∧ Advanced item item'

theorem Grows.refl (s : ShadowLedger) : Grows s s := fun _ item found => ⟨item, found, .refl item⟩

theorem Grows.trans {a b c : ShadowLedger} (first : Grows a b) (second : Grows b c) :
    Grows a c := by
  intro key item found
  obtain ⟨middle, there, earlier⟩ := first key item found
  obtain ⟨item', found', later⟩ := second key middle there
  exact ⟨item', found', earlier.trans later⟩

theorem Booked.change_grows (booked : Booked cfg commands s) (one : OneIntent cfg commands)
    (inRun : ∀ command ∈ op.command?, command ∈ commands) (change : Change D cfg now op s s') :
    Grows s s' := by
  rcases change.advances with advances | ⟨command, contract, rfl, -, unused, rfl⟩
  · exact advances.orders
  · intro key item found
    have other : orderIdFor cfg command ≠ key := by
      rintro rfl
      rw [booked.unused one (inRun command rfl) unused] at found
      cases found
    refine ⟨item, ?_, .refl item⟩
    rw [recordSubmission_orders, Dict.get?_set_of_ne _ _ other]
    exact found

/-- In a run with one order for each intent, no order is lost or taken back. -/
theorem run_grows (D : Decimal.Context) (ops : List (Time × Op))
    (booked : Booked cfg commands s) (one : OneIntent cfg commands)
    (inRun : ∀ command ∈ placed ops, command ∈ commands) : Grows s (run D cfg ops s) := by
  have both : Booked cfg commands (run D cfg ops s) ∧ Grows s (run D cfg ops s) :=
    run_keeps_placed (J := fun s' => Booked cfg commands s' ∧ Grows s s')
      (fun own change holds =>
        ⟨holds.1.change own change, holds.2.trans (holds.1.change_grows one own change)⟩)
      ops inRun s ⟨booked, .refl s⟩
  exact both.2

/-! ### Restarts -/

/-- Every position is filed under the instrument of its contract. -/
def Filed (positions : Dict String Position) : Prop :=
  ∀ i p, positions.get? i = some p → p.contract.instrumentId = i

theorem Filed.set {positions : Dict String Position} (filed : Filed positions) {i : String}
    {p : Position} (own : p.contract.instrumentId = i) : Filed (positions.set i p) := by
  intro j q found
  rw [Dict.get?_set] at found
  split at found
  next same =>
    subst same
    cases found
    exact own
  · exact filed j q found

theorem Filed.erase {positions : Dict String Position} (filed : Filed positions) (i : String) :
    Filed (positions.erase i) := by
  intro j q found
  rw [Dict.get?_erase] at found
  split at found
  · cases found
  · exact filed j q found

theorem Filed.markPosition (filed : Filed s.positions) (quote : OptionQuote) :
    Filed (markPosition D quote s).positions := by
  unfold ShadowLedger.markPosition
  split
  · exact filed
  next p held => exact filed.set (filed _ p held)

theorem Filed.applyExitPosition (filed : Filed s.positions) {contract : OptionContract}
    {quantity : ℤ} {price : ℚ}
    (went : applyExitPosition D contract quantity price s = (.ok (), s')) :
    Filed s'.positions := by
  unfold ShadowLedger.applyExitPosition at went
  split at went
  · cases went
  next p held =>
    split at went
    · cases went
    · dsimp only at went
      split at went
      · cases went
        exact filed.erase contract.instrumentId
      · cases went
        exact filed.set (filed _ p held)

theorem Filed.applyEntryPosition (filed : Filed s.positions) (now : Time) (id : UUID)
    (command : BrokerCommandIntent) (contract : OptionContract) (quote : OptionQuote)
    (quantity : ℤ) (price : ℚ) :
    Filed (applyEntryPosition D now id command contract quote quantity price s).positions := by
  unfold ShadowLedger.applyEntryPosition
  split
  · exact filed.set rfl
  next existing held =>
    have averaged : Filed (s.positions.set contract.instrumentId
        (averagedPosition D existing quote quantity price)) := filed.set (filed _ existing held)
    exact Filed.markPosition (s := { s with positions := _ }) averaged quote

theorem Filed.moveFill (filed : Filed s.positions) {ids : FreshIds} {quote : OptionQuote}
    {item : LedgerOrder} {quantity : ℤ} {price : ℚ}
    (went : moveFill D cfg now ids item quote quantity price s = (.ok (), s')) :
    Filed s'.positions := by
  unfold ShadowLedger.moveFill at went
  dsimp only at went
  split at went
  · split at went
    · cases went
    · cases went
      have entered := Filed.applyEntryPosition (D := D) (s := { s with
          cash := D.sub s.cash (D.mul (D.mul price quantity) item.published.contract.multiplier) })
        filed now (ids.position item.published.orderId) item.command item.published.contract quote
        quantity price
      exact entered
  · split at went
    · cases went
    next exited =>
      have left := filed.applyExitPosition exited
      cases went
      exact left

theorem Filed.change (filed : Filed s.positions) (change : Change D cfg now op s s') :
    Filed s'.positions := by
  cases change with
  | credited => exact filed
  | reviewed => exact filed
  | recorded =>
    rw [recordSubmission_frame]
    exact filed
  | remembered => exact filed
  | canceled => exact filed
  | quoted =>
    rename_i quote _
    exact Filed.markPosition
      (s := { s with quotes := s.quotes.set quote.contract.instrumentId quote }) filed quote
  | filled found eligible applied =>
    obtain ⟨moved, moves, rfl⟩ := (applied_of_applyFill applied).moves
    have left : Filed moved.positions := filed.moveFill moves
    exact left
  | lapsed => exact filed
  | settled => exact filed.erase _

theorem Indexed.change (indexed : Indexed s) (booked : Booked cfg commands s')
    (change : Change D cfg now op s s') : Indexed s' where
  orders := booked.keyed
  positions := Filed.change indexed.positions change
  quotes := by
    cases change with
    | quoted =>
      rw [markPosition_frame]
      intro i q found
      simp only [Dict.get?_set] at found
      split at found
      next same =>
        cases found
        exact same
      · exact indexed.quotes i q found
    | recorded =>
      rw [recordSubmission_frame]
      exact indexed.quotes
    | filled found eligible applied =>
      rw [(applied_of_applyFill applied).frame]
      exact indexed.quotes
    | _ => exact indexed.quotes
  proposals := by
    cases change with
    | reviewed =>
      intro id p found
      simp only [Dict.get?_set] at found
      split at found
      next same =>
        cases found
        exact same
      · exact indexed.proposals id p found
    | quoted =>
      rw [markPosition_frame]
      exact indexed.proposals
    | recorded =>
      rw [recordSubmission_frame]
      exact indexed.proposals
    | filled found eligible applied =>
      rw [(applied_of_applyFill applied).frame]
      exact indexed.proposals
    | _ => exact indexed.proposals

theorem indexed_fresh : Indexed (fresh cfg) where
  orders := fun _ _ found => nomatch found
  positions := fun _ _ found => nomatch found
  quotes := fun _ _ found => nomatch found
  proposals := fun _ _ found => nomatch found

theorem Indexed.perform (indexed : Indexed s) (booked : Booked cfg commands s)
    (inRun : ∀ command ∈ op.command?, command ∈ commands) :
    Indexed (perform D cfg now op s).2 := by
  have both : Booked cfg commands (ShadowLedger.perform D cfg now op s).2 ∧
      Indexed (ShadowLedger.perform D cfg now op s).2 :=
    perform_keeps (J := fun s' => Booked cfg commands s' ∧ Indexed s') op
      (fun change holds =>
        have booked := holds.1.change inRun change
        ⟨booked, holds.2.change booked change⟩) ⟨booked, indexed⟩
  exact both.2

theorem run_fresh_indexed (D : Decimal.Context) (cfg : LedgerConfig) (ops : List (Time × Op)) :
    Indexed (run D cfg ops (fresh cfg)) := by
  have both : Booked cfg (placed ops) (run D cfg ops (fresh cfg)) ∧
      Indexed (run D cfg ops (fresh cfg)) :=
    run_keeps_placed (J := fun s' => Booked cfg (placed ops) s' ∧ Indexed s')
      (fun own change holds =>
        have booked := holds.1.change own change
        ⟨booked, holds.2.change booked change⟩)
      ops (fun _ member => member) _ ⟨booked_fresh _, indexed_fresh⟩
  exact both.2

end Changes

/-- A process that ends and starts again from the snapshot of its ledger; one whose
snapshot is refused does not start, and what it stored stays. -/
def restart (D : Decimal.Context) (cfg : LedgerConfig) (now : Time) (s : ShadowLedger) :
    ShadowLedger :=
  match exportState cfg now [] s with
  | .error _ => s
  | .ok snapshot =>
    match restoreState D cfg now snapshot (fresh cfg) with
    | (.error _, _) => s
    | (.ok (), restored) => restored

/-- What happens to a ledger in the course of several processes. -/
inductive Event where
  | call (op : Op)
  | restart

def handle (D : Decimal.Context) (cfg : LedgerConfig) (now : Time) (event : Event)
    (s : ShadowLedger) : ShadowLedger :=
  match event with
  | .call op => (perform D cfg now op s).2
  | .restart => s.restart D cfg now

/-- The ledger after some events, in order. -/
def live (D : Decimal.Context) (cfg : LedgerConfig) (events : List (Time × Event))
    (s : ShadowLedger) : ShadowLedger :=
  events.foldl (fun s step => handle D cfg step.1 step.2 s) s

def Event.op? : Event → Option Op
  | .call op => some op
  | .restart => none

/-- The operations among some events. -/
def operations (events : List (Time × Event)) : List (Time × Op) :=
  events.filterMap fun step => step.2.op?.map (step.1, ·)

section Restarts

variable {D : Decimal.Context} {cfg : LedgerConfig}

theorem Indexed.restart_eq {s : ShadowLedger} (indexed : Indexed s) (now : Time) :
    s.restart D cfg now = s := by
  unfold restart
  cases exported : exportState cfg now [] s with
  | error e => rfl
  | ok snapshot =>
    dsimp only
    rcases restoreState_cases D cfg now snapshot (fresh cfg) with
      ⟨e, refused⟩ | ⟨adopted, -, -⟩
    · rw [refused]
    · rw [adopted]
      exact indexed.applySnapshot_exportState exported

variable {now : Time} {event : Event} {s : ShadowLedger} {commands : List BrokerCommandIntent}

theorem operations_cons {rest : List (Time × Event)}
    (inRun : ∀ command ∈ placed (operations ((now, event) :: rest)), command ∈ commands) :
    (∀ op ∈ event.op?, ∀ command ∈ op.command?, command ∈ commands) ∧
      ∀ command ∈ placed (operations rest), command ∈ commands := by
  cases event with
  | restart =>
    refine ⟨fun _ none_ => ?_, inRun⟩
    cases none_
  | call op =>
    obtain ⟨own, others⟩ := placed_cons inRun
    refine ⟨fun op' same => ?_, others⟩
    cases same
    exact own

/-- An event keeps what a restart relies on. -/
theorem Booked.handle (booked : Booked cfg commands s) (indexed : Indexed s) (now : Time)
    (inRun : ∀ op ∈ event.op?, ∀ command ∈ op.command?, command ∈ commands) :
    Booked cfg commands (handle D cfg now event s) ∧ Indexed (handle D cfg now event s) := by
  cases event with
  | restart =>
    have same : ShadowLedger.handle D cfg now .restart s = s := indexed.restart_eq now
    rw [same]
    exact ⟨booked, indexed⟩
  | call op => exact ⟨booked.perform op (inRun op rfl), indexed.perform booked (inRun op rfl)⟩

/-- Restarts leave no trace: the ledger is that of the operations alone. -/
theorem live_eq_run (events : List (Time × Event)) :
    live D cfg events (fresh cfg) = run D cfg (operations events) (fresh cfg) := by
  have loop : ∀ (events : List (Time × Event)) (commands : List BrokerCommandIntent)
      (s : ShadowLedger), (∀ command ∈ placed (operations events), command ∈ commands) →
      Booked cfg commands s → Indexed s →
        live D cfg events s = run D cfg (operations events) s := by
    intro events commands
    induction events with
    | nil => exact fun s _ _ _ => rfl
    | cons step rest ih =>
      intro s inRun booked indexed
      obtain ⟨now, event⟩ := step
      obtain ⟨own, others⟩ := operations_cons inRun
      obtain ⟨booked', indexed'⟩ := booked.handle (D := D) indexed now own
      refine (ih _ others booked' indexed').trans ?_
      cases event with
      | restart =>
        have same : handle D cfg now .restart s = s := indexed.restart_eq now
        rw [same]
        rfl
      | call op => rfl
  exact loop events (placed (operations events)) _ (fun _ member => member) (booked_fresh _)
    indexed_fresh

theorem operations_append (xs ys : List (Time × Event)) :
    operations (xs ++ ys) = operations xs ++ operations ys :=
  List.filterMap_append

theorem live_append (earlier later : List (Time × Event)) (s : ShadowLedger) :
    live D cfg (earlier ++ later) s = live D cfg later (live D cfg earlier s) :=
  List.foldl_append

/-- In every state that operations and restarts reach, the book is one of their commands. -/
theorem live_booked (events : List (Time × Event)) :
    Booked cfg (placed (operations events)) (live D cfg events (fresh cfg)) := by
  rw [live_eq_run]
  exact run_fresh_booked D cfg (operations events)

/-- With one order for each intent, orders only advance, across restarts too. -/
theorem live_grows (events later : List (Time × Event))
    (one : OneIntent cfg (placed (operations (events ++ later)))) :
    Grows (live D cfg events (fresh cfg)) (live D cfg (events ++ later) (fresh cfg)) := by
  rw [operations_append, placed_append] at one
  rw [live_eq_run, live_eq_run, operations_append, run_append]
  have booked : Booked cfg (placed (operations events) ++ placed (operations later))
      (run D cfg (operations events) (fresh cfg)) :=
    run_booked D cfg _ (fun _ member => List.mem_append_left _ member) _ (booked_fresh _)
  exact run_grows D _ booked one fun _ member => List.mem_append_right _ member

end Restarts

end ShadowLedger

end Sentry
