import Sentry.Ledger.Positions

/-!
# Fills of a solvent ledger

The invariant that makes every fill of a built-in model go through, `Solvent`:
cash covers what the open entries reserve, owned quantities cover what the open
exits reserve, and the book is well formed. `applyFill_solvent` is the step
lemma of the fill loop: on a solvent ledger a sound fill of an open order never
raises and leaves a solvent ledger. `Filled` records what it did, for the other
invariants of the loop.
-/
namespace Sentry

open Support

namespace ShadowLedger

structure Solvent (cfg : LedgerConfig) (catalog : String → OptionContract) (s : ShadowLedger) : Prop where
  cash_nonneg : 0 ≤ s.cash
  reserved_le : s.reservedBuyingPower .exact ≤ s.cash
  covered : ∀ i, s.reservedQuantity i ≤ s.owned i
  orders_ok : OrdersOk cfg catalog s
  positions_ok : PositionsOk catalog s

/-! ### Writing one order -/

section Write

variable {cfg : LedgerConfig} {catalog : String → OptionContract} {s : ShadowLedger} {key : UUID}
  {item item' : LedgerOrder}

theorem reservedBuyingPower_set_of_some (found : s.orders.get? key = some item)
    (item' : LedgerOrder) :
    ({ s with orders := s.orders.set key item' } : ShadowLedger).reservedBuyingPower .exact =
      s.reservedBuyingPower .exact - buyReserve item + buyReserve item' := by
  simp only [reservedBuyingPower_eq, Dict.total_set, Dict.at?, found, Option.elim_some]

theorem reservedQuantity_set_of_some (found : s.orders.get? key = some item)
    (item' : LedgerOrder) (i : String) :
    ({ s with orders := s.orders.set key item' } : ShadowLedger).reservedQuantity i =
      s.reservedQuantity i - sellReserve i item + sellReserve i item' := by
  simp only [reservedQuantity_eq, Dict.total_set, Dict.at?, found, Option.elim_some]

theorem ordersOk_set (ok : OrdersOk cfg catalog s) (new : OrderOk cfg catalog key item') :
    OrdersOk cfg catalog { s with orders := s.orders.set key item' } := by
  intro k found_item found
  simp only [Dict.get?_set] at found
  split at found
  next same =>
    subst same
    cases found
    exact new
  · exact ok k found_item found

/-- Reservations only depend on the order book. -/
theorem reservedBuyingPower_congr {s s' : ShadowLedger} (same : s'.orders = s.orders) :
    s'.reservedBuyingPower .exact = s.reservedBuyingPower .exact := by
  rw [reservedBuyingPower_eq, reservedBuyingPower_eq, same]

theorem reservedQuantity_congr {s s' : ShadowLedger} (same : s'.orders = s.orders) (i : String) :
    s'.reservedQuantity i = s.reservedQuantity i := by
  rw [reservedQuantity_eq, reservedQuantity_eq, same]

end Write

/-! ### The filled order -/

section Filled

variable (D : Decimal.Context) {cfg : LedgerConfig} {catalog : String → OptionContract}
  {key : UUID} {item : LedgerOrder} {quantity : ℤ} {price : ℚ}

@[simp] theorem filledOrder_side (order : BrokerOrder) :
    (filledOrder D order quantity price).side = order.side := rfl

@[simp] theorem filledOrder_contract (order : BrokerOrder) :
    (filledOrder D order quantity price).contract = order.contract := rfl

@[simp] theorem filledOrder_remaining (order : BrokerOrder) :
    (filledOrder D order quantity price).remaining = order.remaining - quantity := by
  simp only [filledOrder, BrokerOrder.remaining]
  ring

theorem filledOrder_isOpen (order : BrokerOrder) :
    (filledOrder D order quantity price).state.isOpen = decide (order.remaining ≠ quantity) := by
  have same : order.filledQuantity + quantity = order.quantity ↔ order.remaining = quantity := by
    simp only [BrokerOrder.remaining]
    omega
  by_cases complete : order.remaining = quantity
  · simp [filledOrder, same.mpr complete, complete, OrderState.isOpen]
  · simp [filledOrder, mt same.mp complete, complete, OrderState.isOpen]

theorem orderOk_filled (price : ℚ) (ok : OrderOk cfg catalog key item) (positive : 0 < quantity)
    (within : quantity ≤ item.published.remaining) :
    OrderOk cfg catalog key ⟨filledOrder D item.published quantity price, item.command⟩ := by
  have nonneg := ok.filled_nonneg
  simp only [BrokerOrder.remaining] at within
  refine ⟨ok.key_eq, ok.contract_eq, ?_, ?_, ?_, ?_, ok.environment, ok.correlated,
    ok.command_environment, ok.command_namespace⟩
  · simp only [filledOrder]
    omega
  · simp only [filledOrder]
    omega
  · intro stillOpen
    rw [filledOrder_isOpen, decide_eq_true_eq] at stillOpen
    rw [filledOrder_remaining]
    simp only [BrokerOrder.remaining] at stillOpen ⊢
    omega
  · intro complete
    simp only [filledOrder] at complete ⊢
    by_contra unequal
    simp [unequal] at complete

theorem buyReserve_filled (isOpen : item.published.state.isOpen = true)
    (buy : item.published.side = .buyToOpen) :
    buyReserve ⟨filledOrder D item.published quantity price, item.command⟩ =
      buyReserve item -
        quantity * item.published.limitPrice * item.published.contract.multiplier := by
  simp only [buyReserve, BrokerOrder.isOpenBuy, filledOrder_isOpen, filledOrder_side, buy, isOpen,
    beq_self_eq_true, Bool.and_self, Bool.and_true, if_true, filledOrder_remaining,
    decide_eq_true_eq, filledOrder_contract]
  split
  · push_cast
    simp only [filledOrder]
    ring
  next complete =>
    rw [not_not.mp complete]
    ring

theorem buyReserve_of_sell (item : LedgerOrder) (sell : item.published.side = .sellToClose) : buyReserve item = 0 := by
  simp [buyReserve, BrokerOrder.isOpenBuy, sell]

theorem sellReserve_of_buy (item : LedgerOrder) (buy : item.published.side = .buyToOpen)
    (i : String) :
    sellReserve i item = 0 := by
  simp [sellReserve, BrokerOrder.isOpenSell, buy]

theorem sellReserve_of_open (isOpen : item.published.state.isOpen = true)
    (sell : item.published.side = .sellToClose) (i : String) :
    sellReserve i item =
      if item.published.contract.instrumentId = i then item.published.remaining else 0 := by
  simp [sellReserve, BrokerOrder.isOpenSell, isOpen, sell]

theorem sellReserve_filled (isOpen : item.published.state.isOpen = true)
    (sell : item.published.side = .sellToClose) (i : String) :
    sellReserve i ⟨filledOrder D item.published quantity price, item.command⟩ =
      sellReserve i item - if item.published.contract.instrumentId = i then quantity else 0 := by
  rw [sellReserve_of_open isOpen sell]
  simp only [sellReserve, BrokerOrder.isOpenSell, filledOrder_isOpen, filledOrder_side, sell,
    beq_self_eq_true, Bool.and_true, filledOrder_contract, filledOrder_remaining,
    Bool.and_eq_true, decide_eq_true_eq, beq_iff_eq]
  by_cases hit : item.published.contract.instrumentId = i
  · by_cases complete : item.published.remaining = quantity
    · simp [hit, complete]
    · simp [hit, complete]
  · simp [hit]

end Filled

/-! ### One fill -/

section Fill

variable {catalog : String → OptionContract} (cfg : LedgerConfig) (now : Time) (ids : FreshIds)
  {key : UUID} {item : LedgerOrder} (quote : OptionQuote) {quantity : ℤ} {price : ℚ}
  {s : ShadowLedger}

/-- The order after the fill. -/
abbrev after (item : LedgerOrder) (quantity : ℤ) (price : ℚ) : LedgerOrder :=
  ⟨filledOrder .exact item.published quantity price, item.command⟩

/-- Money and contracts moved by a fill, measured against the reservations that
the fill releases: cash pays at most the released buying power, the position
gives up at most the released quantity. -/
structure Moved (catalog : String → OptionContract) (item : LedgerOrder) (quantity : ℤ) (price : ℚ)
    (s moved : ShadowLedger) : Prop where
  frame : moved = { s with
    cash := moved.cash
    positions := moved.positions
    entryOrdersByDate := moved.entryOrdersByDate
    realizedPnl := moved.realizedPnl
    closedRealizedPnl := moved.closedRealizedPnl }
  cash_ge : s.cash - (buyReserve item - buyReserve (after item quantity price)) ≤ moved.cash
  owned_ge : ∀ i, s.owned i -
    (sellReserve i item - sellReserve i (after item quantity price)) ≤ moved.owned i
  basis_le : moved.costBasis ≤
    s.costBasis + (buyReserve item - buyReserve (after item quantity price))
  conserved : moved.cash + moved.costBasis - moved.realizedPnl =
    s.cash + s.costBasis - s.realizedPnl
  positions_ok : PositionsOk catalog moved
  owned_pos : ∀ i, 0 < moved.owned i → 0 < s.owned i ∨
    (item.published.side = .buyToOpen ∧ item.published.contract.instrumentId = i)
  admitted : ∀ date, s.admittedOn date ⊆ moved.admittedOn date

theorem moveFill_buy (solvent : Solvent cfg catalog s) (found : s.orders.get? key = some item)
    (isOpen : item.published.state.isOpen = true) (buy : item.published.side = .buyToOpen)
    (positive : 0 < quantity) (within : quantity ≤ item.published.remaining) (paid : 0 < price)
    (limit : price ≤ item.published.limitPrice) :
    ∃ moved, moveFill .exact cfg now ids item quote quantity price s = (.ok (), moved) ∧
      Moved catalog item quantity price s moved := by
  have listed := (solvent.orders_ok key item found).contract_eq
  have multiplier : (0 : ℚ) < item.published.contract.multiplier := by
    exact_mod_cast item.published.contract.multiplier_pos
  have count : (0 : ℚ) < quantity := by exact_mod_cast positive
  have remaining : (quantity : ℚ) ≤ item.published.remaining := by exact_mod_cast within
  have released : buyReserve item - buyReserve (after item quantity price) =
      quantity * item.published.limitPrice * item.published.contract.multiplier := by
    rw [buyReserve_filled .exact isOpen buy]
    ring
  have spent : price * quantity * item.published.contract.multiplier ≤
      quantity * item.published.limitPrice * item.published.contract.multiplier := by
    have := mul_le_mul_of_nonneg_right limit (le_of_lt (mul_pos count multiplier))
    linarith
  -- the reservation of the order bounds the notional, and cash covers the reservation
  have affordable : price * quantity * item.published.contract.multiplier ≤ s.cash := by
    calc price * quantity * item.published.contract.multiplier
        ≤ quantity * item.published.limitPrice * item.published.contract.multiplier := spent
      _ ≤ item.published.remaining * item.published.limitPrice *
            item.published.contract.multiplier := by
          have price_pos := item.published.limitPrice_pos
          gcongr
      _ = buyReserve item := by simp [buyReserve, BrokerOrder.isOpenBuy, isOpen, buy]
      _ ≤ s.reservedBuyingPower .exact := buyReserve_le solvent.orders_ok found
      _ ≤ s.cash := solvent.reserved_le
  have notOver : ¬(price * quantity * item.published.contract.multiplier > s.cash) :=
    not_lt.mpr affordable
  let paidOut := { s with cash := s.cash - price * quantity * item.published.contract.multiplier }
  let held := applyEntryPosition .exact now (ids.position item.published.orderId) item.command
    item.published.contract quote quantity price paidOut
  have frame : held = { paidOut with positions := held.positions } :=
    applyEntryPosition_frame now _ item.command quote paidOut .exact
  have basis : held.costBasis = s.costBasis +
      price * quantity * item.published.contract.multiplier :=
    applyEntryPosition_costBasis now _ item.command quote paidOut solvent.positions_ok listed
      positive
  have owned : ∀ j, held.owned j =
      if item.published.contract.instrumentId = j then s.owned j + quantity else s.owned j :=
    applyEntryPosition_owned now _ item.command quote paidOut .exact
  have cash : held.cash = s.cash - price * quantity * item.published.contract.multiplier := by
    rw [frame]
  have realized : held.realizedPnl = s.realizedPnl := by rw [frame]
  refine ⟨held.admitEntry (cfg.marketDate now) item.published.orderId, ?_, ?_⟩
  · simp only [moveFill, buy, Decimal.Context.exact_mul, notOver, if_false,
      Decimal.Context.exact_sub]
    rfl
  · refine ⟨?_, ?_, ?_, ?_, ?_, ?_, ?_, ?_⟩
    · rw [frame]
      rfl
    · change _ ≤ held.cash
      rw [released, cash]
      linarith
    · intro i
      change _ ≤ held.owned i
      rw [sellReserve_of_buy item buy, sellReserve_of_buy (after item quantity price) buy, owned]
      split <;> omega
    · change held.costBasis ≤ _
      rw [released, basis]
      linarith
    · change held.cash + held.costBasis - held.realizedPnl = _
      rw [cash, basis, realized]
      ring
    · exact applyEntryPosition_positionsOk now _ item.command quote paidOut solvent.positions_ok
        listed positive paid
    · intro i more
      change 0 < held.owned i at more
      rw [owned] at more
      split at more
      next same => exact Or.inr ⟨buy, same⟩
      · exact Or.inl more
    · intro date
      have same : held.admittedOn date = s.admittedOn date := by rw [frame]; rfl
      rw [admittedOn_admitEntry, same]
      split
      · exact Finset.subset_insert _ _
      · exact Finset.Subset.refl _

theorem moveFill_sell (solvent : Solvent cfg catalog s) (found : s.orders.get? key = some item)
    (isOpen : item.published.state.isOpen = true) (sell : item.published.side = .sellToClose)
    (positive : 0 < quantity) (within : quantity ≤ item.published.remaining) (paid : 0 < price) :
    ∃ moved, moveFill .exact cfg now ids item quote quantity price s = (.ok (), moved) ∧
      Moved catalog item quantity price s moved := by
  have listed := (solvent.orders_ok key item found).contract_eq
  have multiplier : (0 : ℚ) < item.published.contract.multiplier := by
    exact_mod_cast item.published.contract.multiplier_pos
  have count : (0 : ℚ) < quantity := by exact_mod_cast positive
  -- the order's own reservation is part of what the position covers
  have covered : quantity ≤ s.owned item.published.contract.instrumentId := by
    calc quantity ≤ item.published.remaining := within
      _ = sellReserve item.published.contract.instrumentId item := by
          rw [sellReserve_of_open isOpen sell, if_pos rfl]
      _ ≤ s.reservedQuantity item.published.contract.instrumentId :=
          sellReserve_le solvent.orders_ok found _
      _ ≤ s.owned item.published.contract.instrumentId := solvent.covered _
  cases held : s.positions.get? item.published.contract.instrumentId with
  | none =>
    rw [owned_of_none held] at covered
    omega
  | some p =>
    rw [owned_of_some held] at covered
    obtain ⟨exit_, result, exited, positions⟩ :=
      applyExitPosition_spec price solvent.positions_ok listed held covered
    have pOk := solvent.positions_ok _ p held
    have same : p.contract = item.published.contract := pOk.contract_eq.symm.trans listed
    have cash : exit_.cash = s.cash := by rw [exited.frame]
    have average := pOk.average_pos
    refine ⟨{ exit_ with cash :=
      exit_.cash + price * quantity * item.published.contract.multiplier }, ?_, ?_⟩
    · simp only [moveFill, sell, result, Decimal.Context.exact_mul, Decimal.Context.exact_add]
    · refine ⟨?_, ?_, ?_, ?_, ?_, positions, ?_, ?_⟩
      · rw [exited.frame]
      · change _ ≤ exit_.cash + price * quantity * item.published.contract.multiplier
        rw [buyReserve_of_sell item sell, buyReserve_of_sell (after item quantity price) sell,
          cash]
        have : 0 ≤ price * quantity * item.published.contract.multiplier := by positivity
        linarith
      · intro i
        change _ ≤ exit_.owned i
        rw [exited.owned, sellReserve_filled .exact isOpen sell]
        split <;> omega
      · change exit_.costBasis ≤ _
        rw [buyReserve_of_sell item sell, buyReserve_of_sell (after item quantity price) sell,
          exited.costBasis, same]
        have : 0 ≤ p.averageEntryPrice * quantity * item.published.contract.multiplier := by
          positivity
        linarith
      · change exit_.cash + price * quantity * item.published.contract.multiplier +
          exit_.costBasis - exit_.realizedPnl = _
        rw [cash, exited.costBasis, exited.realizedPnl, same]
        ring
      · intro i more
        change 0 < exit_.owned i at more
        rw [exited.owned] at more
        left
        split at more <;> omega
      · intro date
        change s.admittedOn date ⊆ exit_.admittedOn date
        rw [exited.frame]
        exact Finset.Subset.refl _

/-- What a fill did, in the terms the ledger's invariants speak of. -/
structure Filled (key : UUID) (item : LedgerOrder) (quantity : ℤ) (price : ℚ)
    (s s' : ShadowLedger) : Prop where
  frame : s' = { s with
    cash := s'.cash
    orders := s'.orders
    positions := s'.positions
    fills := s'.fills
    entryOrdersByDate := s'.entryOrdersByDate
    realizedPnl := s'.realizedPnl
    closedRealizedPnl := s'.closedRealizedPnl }
  orders : s'.orders = s.orders.set key (after item quantity price)
  fills : ∃ fill : Fill, fill.orderId = item.published.orderId ∧ s'.fills = s.fills ++ [fill]
  /-- No money appears: cash and basis move by what is realized. -/
  conserved : s'.cash + s'.costBasis - s'.realizedPnl = s.cash + s.costBasis - s.realizedPnl
  /-- Neither does risk: a bought contract costs at most what was reserved for it. -/
  risk_le : s'.openOptionRisk .exact ≤ s.openOptionRisk .exact
  owned_pos : ∀ i, 0 < s'.owned i → 0 < s.owned i ∨
    (item.published.side = .buyToOpen ∧ item.published.contract.instrumentId = i)
  admitted : ∀ date, s.admittedOn date ⊆ s'.admittedOn date

theorem solvent_bookFill {moved : ShadowLedger} (fill : Fill) (solvent : Solvent cfg catalog s)
    (found : s.orders.get? key = some item) (own : fill.orderId = item.published.orderId)
    (positive : 0 < fill.quantity)
    (within : fill.quantity ≤ item.published.remaining)
    (did : Moved catalog item fill.quantity fill.price s moved) :
    Solvent cfg catalog (bookFill .exact key item fill moved) ∧
      Filled key item fill.quantity fill.price s (bookFill .exact key item fill moved) := by
  let booked := bookFill .exact key item fill moved
  have sameOrders : moved.orders = s.orders := by rw [did.frame]
  have found' : moved.orders.get? key = some item := by rw [sameOrders]; exact found
  have newOk := orderOk_filled .exact fill.price (solvent.orders_ok key item found) positive within
  have ordersOk : OrdersOk cfg catalog moved := by
    intro k o held
    rw [sameOrders] at held
    exact solvent.orders_ok k o held
  have booked_ok : OrdersOk cfg catalog booked := ordersOk_set ordersOk newOk
  have reserved : booked.reservedBuyingPower .exact = s.reservedBuyingPower .exact -
      (buyReserve item - buyReserve (after item fill.quantity fill.price)) := by
    have written := reservedBuyingPower_set_of_some found' (after item fill.quantity fill.price)
    rw [reservedBuyingPower_congr sameOrders] at written
    calc booked.reservedBuyingPower .exact
        = s.reservedBuyingPower .exact - buyReserve item +
            buyReserve (after item fill.quantity fill.price) := written
      _ = _ := by ring
  have sells : ∀ i, booked.reservedQuantity i = s.reservedQuantity i -
      (sellReserve i item - sellReserve i (after item fill.quantity fill.price)) := by
    intro i
    have written := reservedQuantity_set_of_some found' (after item fill.quantity fill.price) i
    rw [reservedQuantity_congr sameOrders] at written
    calc booked.reservedQuantity i
        = s.reservedQuantity i - sellReserve i item +
            sellReserve i (after item fill.quantity fill.price) := written
      _ = _ := by ring
  have reserved_le : booked.reservedBuyingPower .exact ≤ booked.cash := by
    have old := solvent.reserved_le
    have paid := did.cash_ge
    change _ ≤ moved.cash
    linarith
  have nonneg := reservedBuyingPower_nonneg booked_ok
  refine ⟨⟨le_trans nonneg reserved_le, reserved_le, ?_, booked_ok, did.positions_ok⟩,
    ⟨?_, ?_, ⟨fill, own, ?_⟩, did.conserved, ?_, did.owned_pos, did.admitted⟩⟩
  · intro i
    have old := solvent.covered i
    have given := did.owned_ge i
    have now_ := sells i
    change booked.reservedQuantity i ≤ moved.owned i
    omega
  · simp only [bookFill]
    rw [did.frame]
  · change moved.orders.set key _ = _
    rw [sameOrders]
  · simp only [bookFill]
    rw [did.frame]
  · rw [openOptionRisk_eq, openOptionRisk_eq, reserved]
    have basis := did.basis_le
    change moved.costBasis + _ ≤ _
    linarith

/-- On a solvent ledger a sound fill of an open order goes through. -/
theorem applyFill_solvent (solvent : Solvent cfg catalog s) (found : s.orders.get? key = some item)
    (isOpen : item.published.state.isOpen = true) (positive : 0 < quantity)
    (within : quantity ≤ item.published.remaining)
    (limit : FillModel.WithinLimit item.published price) (seed : Nat) (reason : String) :
    ∃ s', applyFill .exact cfg now ids key item quote quantity price seed reason s =
        (.ok (fillRecord cfg now ids item.published quote quantity price seed reason), s') ∧
      Solvent cfg catalog s' ∧ Filled key item quantity price s s' := by
  have wrongQuantity : ¬(quantity ≤ 0 ∨ quantity > item.published.remaining) := by omega
  have wrongPrice : ¬(price ≤ 0) := not_le.mpr limit.1
  have overLimit : ¬(item.published.side = .buyToOpen ∧ price > item.published.limitPrice) := by
    rintro ⟨buy, above⟩
    have capped := limit.2
    simp only [buy] at capped
    linarith
  have underLimit : ¬(item.published.side = .sellToClose ∧ price < item.published.limitPrice) := by
    rintro ⟨sell, below⟩
    have floor := limit.2
    simp only [sell] at floor
    linarith
  have moves : ∃ moved, moveFill .exact cfg now ids item quote quantity price s = (.ok (), moved) ∧
      Moved catalog item quantity price s moved := by
    cases side : item.published.side with
    | buyToOpen =>
      exact moveFill_buy cfg now ids quote solvent found isOpen side positive within limit.1
        (by simpa only [side] using limit.2)
    | sellToClose =>
      exact moveFill_sell cfg now ids quote solvent found isOpen side positive within limit.1
  obtain ⟨moved, result, did⟩ := moves
  let fill := fillRecord cfg now ids item.published quote quantity price seed reason
  have booked := solvent_bookFill cfg fill solvent found rfl positive within did
  refine ⟨bookFill .exact key item fill moved, ?_, booked⟩
  simp only [applyFill, wrongQuantity, wrongPrice, overLimit, underLimit, if_false, result]
  rfl

end Fill

end ShadowLedger

end Sentry
