import Mathlib.Tactic.FieldSimp
import Mathlib.Tactic.Linarith
import Mathlib.Tactic.Ring
import Sentry.Ledger.ShadowLedger

/-!
# Position and reservation bookkeeping

What each primitive of the ledger does to the quantities its invariants speak
of, in exact arithmetic: the owned quantity of every instrument, the cost basis
of the open positions, and the two reservations that open orders hold (buying
power for entries, owned quantity for exits). The later modules use these rules
and never unfold the primitives again.
-/
namespace Sentry

open Support

namespace ShadowLedger

/-! ### Reservations as sums over the order book -/

private theorem sum_map_filter {α M : Type} [AddCommMonoid M] (p : α → Bool) (f : α → M)
    (xs : List α) :
    ((xs.filter p).map f).sum = (xs.map fun x => if p x then f x else 0).sum := by
  induction xs with
  | nil => rfl
  | cons x xs ih => by_cases keep : p x <;> simp [keep, ih]

/-- Buying power an order reserves. -/
def buyReserve (item : LedgerOrder) : ℚ :=
  if item.published.isOpenBuy then
    item.published.remaining * item.published.limitPrice * item.published.contract.multiplier
  else 0

/-- Quantity of an instrument an order reserves. -/
def sellReserve (instrumentId : String) (item : LedgerOrder) : ℤ :=
  if item.published.isOpenSell instrumentId then item.published.remaining else 0

theorem reservedBuyingPower_eq (s : ShadowLedger) :
    s.reservedBuyingPower .exact = Dict.total (fun _ item => buyReserve item) s.orders := by
  simp only [reservedBuyingPower, Decimal.Context.exact_sum, Decimal.Context.exact_mul]
  rw [sum_map_filter]
  simp only [Dict.total, Dict.values, List.map_map, Function.comp_def, buyReserve]

theorem reservedQuantity_eq (s : ShadowLedger) (instrumentId : String) :
    s.reservedQuantity instrumentId =
      Dict.total (fun _ item => sellReserve instrumentId item) s.orders := by
  simp only [reservedQuantity]
  rw [sum_map_filter]
  simp only [Dict.total, Dict.values, List.map_map, Function.comp_def, sellReserve]

/-- What the open positions cost: average entry price times quantity and multiplier. -/
def costBasis (s : ShadowLedger) : ℚ :=
  Dict.total (fun _ p => p.averageEntryPrice * p.quantity * p.contract.multiplier) s.positions

theorem openOptionRisk_eq (s : ShadowLedger) :
    s.openOptionRisk .exact = s.costBasis + s.reservedBuyingPower .exact := by
  simp only [openOptionRisk, Decimal.Context.exact_add, Decimal.Context.exact_sum, costBasis,
    Dict.total, Dict.values, List.map_map, Function.comp_def, positionRisk,
    Decimal.Context.exact_mul]

theorem admittedOn_admitEntry (s : ShadowLedger) (day date : Date) (orderId : UUID) :
    (s.admitEntry day orderId).admittedOn date =
      if day = date then insert orderId (s.admittedOn date) else s.admittedOn date := by
  simp only [admitEntry, admittedOn, Dict.get?_set]
  split
  next same => simp [same]
  · rfl

theorem findOrder_some {s : ShadowLedger} {ref : OrderRef} {key : UUID} {item : LedgerOrder}
    (located : findOrder ref s = some (key, item)) : s.orders.get? key = some item := by
  have keyed : ∀ id, (s.orders.get? id).map (id, ·) = some (key, item) →
      s.orders.get? key = some item := by
    intro id mapped
    obtain ⟨found, there, equal⟩ := Option.map_eq_some_iff.mp mapped
    cases equal
    exact there
  unfold findOrder at located
  split at located
  next id => exact keyed id located
  next text =>
    split at located
    next found byId =>
      cases located
      obtain ⟨id, _, mapped⟩ := Option.bind_eq_some_iff.mp byId
      exact keyed id mapped
    · exact Dict.mem_entries.mp (List.mem_of_find?_eq_some located)

/-! ### Well-formed orders and positions -/

/-- An order as the ledger keeps it. -/
structure OrderOk (cfg : LedgerConfig) (catalog : String → OptionContract) (key : UUID)
    (item : LedgerOrder) : Prop where
  key_eq : item.published.orderId = key
  contract_eq : catalog item.published.contract.instrumentId = item.published.contract
  filled_nonneg : 0 ≤ item.published.filledQuantity
  filled_le : item.published.filledQuantity ≤ item.published.quantity
  open_remaining : item.published.state.isOpen = true → 0 < item.published.remaining
  filled_complete : item.published.state = .filled →
    item.published.filledQuantity = item.published.quantity
  environment : item.published.environment = .demo
  correlated : item.published.intentId = item.command.orderIntentId
  command_environment : item.command.environment = .demo
  command_namespace : item.command.namespace_ = cfg.namespace_

structure PositionOk (catalog : String → OptionContract) (key : String) (p : Position) : Prop where
  key_eq : p.contract.instrumentId = key
  contract_eq : catalog key = p.contract
  quantity_pos : 0 < p.quantity
  average_pos : 0 < p.averageEntryPrice
  environment : p.environment = .demo

def OrdersOk (cfg : LedgerConfig) (catalog : String → OptionContract) (s : ShadowLedger) : Prop :=
  ∀ key item, s.orders.get? key = some item → OrderOk cfg catalog key item

def PositionsOk (catalog : String → OptionContract) (s : ShadowLedger) : Prop :=
  ∀ key p, s.positions.get? key = some p → PositionOk catalog key p

theorem buyReserve_nonneg {cfg : LedgerConfig} {catalog : String → OptionContract} {key : UUID}
    {item : LedgerOrder} (ok : OrderOk cfg catalog key item) : 0 ≤ buyReserve item := by
  unfold buyReserve
  split
  next isBuy =>
    simp only [BrokerOrder.isOpenBuy, Bool.and_eq_true] at isBuy
    have remaining : (0 : ℚ) < item.published.remaining := by
      exact_mod_cast ok.open_remaining isBuy.1
    have multiplier : (0 : ℚ) < item.published.contract.multiplier := by
      exact_mod_cast item.published.contract.multiplier_pos
    have limit := item.published.limitPrice_pos
    positivity
  · exact le_refl 0

theorem sellReserve_nonneg {cfg : LedgerConfig} {catalog : String → OptionContract} {key : UUID}
    {item : LedgerOrder} (ok : OrderOk cfg catalog key item) (instrumentId : String) :
    0 ≤ sellReserve instrumentId item := by
  unfold sellReserve
  split
  next isSell =>
    simp only [BrokerOrder.isOpenSell, Bool.and_eq_true] at isSell
    exact le_of_lt (ok.open_remaining isSell.1.1)
  · exact le_refl 0

/-- One order's reservation is part of the whole. -/
theorem buyReserve_le {cfg : LedgerConfig} {catalog : String → OptionContract} {s : ShadowLedger}
    (ok : OrdersOk cfg catalog s) {key : UUID} {item : LedgerOrder}
    (found : s.orders.get? key = some item) : buyReserve item ≤ s.reservedBuyingPower .exact := by
  rw [reservedBuyingPower_eq]
  exact Dict.le_total (f := fun _ item => buyReserve item)
    (fun k v inside => buyReserve_nonneg (ok k v (Dict.mem_entries.mp inside))) found

theorem sellReserve_le {cfg : LedgerConfig} {catalog : String → OptionContract} {s : ShadowLedger}
    (ok : OrdersOk cfg catalog s) {key : UUID} {item : LedgerOrder}
    (found : s.orders.get? key = some item) (instrumentId : String) :
    sellReserve instrumentId item ≤ s.reservedQuantity instrumentId := by
  rw [reservedQuantity_eq]
  exact Dict.le_total (f := fun _ item => sellReserve instrumentId item)
    (fun k v inside => sellReserve_nonneg (ok k v (Dict.mem_entries.mp inside)) _) found

theorem reservedBuyingPower_nonneg {cfg : LedgerConfig} {catalog : String → OptionContract} {s : ShadowLedger}
    (ok : OrdersOk cfg catalog s) : 0 ≤ s.reservedBuyingPower .exact := by
  rw [reservedBuyingPower_eq]
  exact Dict.total_nonneg fun k v inside => buyReserve_nonneg (ok k v (Dict.mem_entries.mp inside))

/-! ### Writing one position -/

theorem owned_set (s : ShadowLedger) (i j : String) (p : Position) :
    ({ s with positions := s.positions.set i p } : ShadowLedger).owned j =
      if i = j then p.quantity else s.owned j := by
  simp only [owned, Dict.get?_set]
  split <;> rfl

theorem owned_of_some {s : ShadowLedger} {i : String} {p : Position}
    (found : s.positions.get? i = some p) : s.owned i = p.quantity := by
  simp [owned, found]

theorem owned_of_none {s : ShadowLedger} {i : String}
    (missing : s.positions.get? i = none) : s.owned i = 0 := by
  simp [owned, missing]

theorem costBasis_set_of_some {s : ShadowLedger} {i : String} {p : Position}
    (found : s.positions.get? i = some p) (q : Position) :
    ({ s with positions := s.positions.set i q } : ShadowLedger).costBasis =
      s.costBasis - p.averageEntryPrice * p.quantity * p.contract.multiplier +
        q.averageEntryPrice * q.quantity * q.contract.multiplier := by
  simp only [costBasis, Dict.total_set, Dict.at?, found, Option.elim_some]

theorem costBasis_set_of_none {s : ShadowLedger} {i : String}
    (missing : s.positions.get? i = none) (q : Position) :
    ({ s with positions := s.positions.set i q } : ShadowLedger).costBasis =
      s.costBasis + q.averageEntryPrice * q.quantity * q.contract.multiplier := by
  simp only [costBasis, Dict.total_set, Dict.at?, missing, Option.elim_none, sub_zero]

theorem positionsOk_set {catalog : String → OptionContract} {s : ShadowLedger}
    (ok : PositionsOk catalog s) {i : String} {p : Position} (new : PositionOk catalog i p) :
    PositionsOk catalog { s with positions := s.positions.set i p } := by
  intro key q found
  simp only [Dict.get?_set] at found
  split at found
  next same =>
    subst same
    cases found
    exact new
  · exact ok key q found

/-! ### Marking -/

section Mark

variable (D : Decimal.Context) (quote : OptionQuote) (s : ShadowLedger)

/-- Marking changes the marks of at most one position. -/
theorem markPosition_cases : markPosition D quote s = s ∨
    ∃ p, s.positions.get? quote.contract.instrumentId = some p ∧ markPosition D quote s =
      { s with
        positions := s.positions.set quote.contract.instrumentId (markedPosition D quote p) } := by
  unfold markPosition
  split
  · exact Or.inl rfl
  next p found => exact Or.inr ⟨p, found, rfl⟩

@[simp] theorem markPosition_cash : (markPosition D quote s).cash = s.cash := by
  rcases markPosition_cases D quote s with h | ⟨_, _, h⟩ <;> rw [h]

@[simp] theorem markPosition_orders : (markPosition D quote s).orders = s.orders := by
  rcases markPosition_cases D quote s with h | ⟨_, _, h⟩ <;> rw [h]

@[simp] theorem markPosition_realizedPnl :
    (markPosition D quote s).realizedPnl = s.realizedPnl := by
  rcases markPosition_cases D quote s with h | ⟨_, _, h⟩ <;> rw [h]

@[simp] theorem markPosition_deposits : (markPosition D quote s).deposits = s.deposits := by
  rcases markPosition_cases D quote s with h | ⟨_, _, h⟩ <;> rw [h]

@[simp] theorem markPosition_owned (j : String) : (markPosition D quote s).owned j = s.owned j := by
  rcases markPosition_cases D quote s with h | ⟨p, found, h⟩
  · rw [h]
  · rw [h, owned_set]
    split
    next same =>
      subst same
      rw [owned_of_some found]
      rfl
    · rfl

@[simp] theorem markPosition_costBasis : (markPosition D quote s).costBasis = s.costBasis := by
  rcases markPosition_cases D quote s with h | ⟨p, found, h⟩
  · rw [h]
  · rw [h, costBasis_set_of_some found]
    simp only [markedPosition]
    ring

theorem markPosition_positionsOk {catalog : String → OptionContract}
    (ok : PositionsOk catalog s) : PositionsOk catalog (markPosition D quote s) := by
  rcases markPosition_cases D quote s with h | ⟨p, found, h⟩
  · rwa [h]
  · rw [h]
    have old := ok _ p found
    exact positionsOk_set ok ⟨old.key_eq, old.contract_eq, old.quantity_pos, old.average_pos,
      old.environment⟩

theorem markPosition_frame :
    markPosition D quote s = { s with positions := (markPosition D quote s).positions } := by
  rcases markPosition_cases D quote s with h | ⟨p, found, h⟩ <;> rw [h]

end Mark

/-! ### Entries -/

section Entry

variable {catalog : String → OptionContract} (now : Time) (positionId : UUID)
  (command : BrokerCommandIntent) {contract : OptionContract} (quote : OptionQuote)
  {quantity : ℤ} {price : ℚ} (s : ShadowLedger)

/-- An entry writes positions and nothing else. -/
theorem applyEntryPosition_frame (D : Decimal.Context) :
    applyEntryPosition D now positionId command contract quote quantity price s =
      { s with positions :=
        (applyEntryPosition D now positionId command contract quote quantity price s).positions } := by
  unfold applyEntryPosition
  split
  · rfl
  · dsimp only
    rw [markPosition_frame]

theorem applyEntryPosition_owned (D : Decimal.Context) (j : String) :
    (applyEntryPosition D now positionId command contract quote quantity price s).owned j =
      if contract.instrumentId = j then s.owned j + quantity else s.owned j := by
  unfold applyEntryPosition
  split
  next missing =>
    rw [owned_set]
    split
    next same =>
      subst same
      simp [owned_of_none missing, openedPosition]
    · rfl
  next existing found =>
    dsimp only
    rw [markPosition_owned, owned_set]
    split
    next same =>
      subst same
      simp [owned_of_some found, averagedPosition]
    · rfl

/-- Averaging keeps money: the new basis is the old one plus what was paid. -/
theorem applyEntryPosition_costBasis (ok : PositionsOk catalog s)
    (listed : catalog contract.instrumentId = contract) (positive : 0 < quantity) :
    (applyEntryPosition .exact now positionId command contract quote quantity price s).costBasis =
      s.costBasis + price * quantity * contract.multiplier := by
  unfold applyEntryPosition
  split
  next missing =>
    rw [costBasis_set_of_none missing]
    rfl
  next existing found =>
    have old := ok _ existing found
    have same : existing.contract = contract := old.contract_eq.symm.trans listed
    have held : (0 : ℚ) < existing.quantity + quantity := by
      exact_mod_cast add_pos old.quantity_pos positive
    dsimp only
    rw [markPosition_costBasis, costBasis_set_of_some found]
    simp only [averagedPosition, Decimal.Context.exact_add, Decimal.Context.exact_mul,
      Decimal.Context.exact_div, same, Int.cast_add]
    rw [div_mul_cancel₀ _ (ne_of_gt held)]
    ring

theorem applyEntryPosition_positionsOk (ok : PositionsOk catalog s)
    (listed : catalog contract.instrumentId = contract) (positive : 0 < quantity)
    (paid : 0 < price) : PositionsOk catalog
      (applyEntryPosition .exact now positionId command contract quote quantity price s) := by
  unfold applyEntryPosition
  split
  · exact positionsOk_set ok ⟨rfl, listed, positive, paid, rfl⟩
  next existing found =>
    have old := ok _ existing found
    apply markPosition_positionsOk
    refine positionsOk_set ok
      ⟨old.key_eq, old.contract_eq, add_pos old.quantity_pos positive, ?_, old.environment⟩
    have average := old.average_pos
    have before : (0 : ℚ) < existing.quantity := by exact_mod_cast old.quantity_pos
    have added : (0 : ℚ) < quantity := by exact_mod_cast positive
    simp only [averagedPosition, Decimal.Context.exact_add, Decimal.Context.exact_mul,
      Decimal.Context.exact_div, Int.cast_add]
    positivity

end Entry

/-! ### Exits and settlements -/

section Exit

variable {catalog : String → OptionContract} {s : ShadowLedger} {p : Position}

/-- What an exit that the position covers leaves behind. -/
structure Exited (i : String) (quantity : ℤ) (price : ℚ) (p : Position)
    (s s' : ShadowLedger) : Prop where
  frame : s' = { s with
    positions := s'.positions
    realizedPnl := s'.realizedPnl
    closedRealizedPnl := s'.closedRealizedPnl }
  owned : ∀ j, s'.owned j = if i = j then s.owned j - quantity else s.owned j
  costBasis : s'.costBasis =
    s.costBasis - p.averageEntryPrice * quantity * p.contract.multiplier
  realizedPnl : s'.realizedPnl =
    s.realizedPnl + (price - p.averageEntryPrice) * quantity * p.contract.multiplier

theorem applyExitPosition_spec {contract : OptionContract} {quantity : ℤ} (price : ℚ)
    (ok : PositionsOk catalog s) (listed : catalog contract.instrumentId = contract)
    (found : s.positions.get? contract.instrumentId = some p) (covered : quantity ≤ p.quantity) :
    ∃ s', applyExitPosition .exact contract quantity price s = (.ok (), s') ∧
      Exited contract.instrumentId quantity price p s s' ∧ PositionsOk catalog s' := by
  have old := ok _ p found
  have same : p.contract = contract := old.contract_eq.symm.trans listed
  unfold applyExitPosition
  simp only [found, gt_iff_lt, not_lt.mpr covered, if_false]
  by_cases all : p.quantity - quantity = 0
  · have whole : p.quantity = quantity := by omega
    refine ⟨_, by simp only [all, if_true]; rfl, ⟨rfl, ?_, ?_, ?_⟩, ?_⟩
    · intro j
      simp only [ShadowLedger.owned, Dict.get?_erase]
      split
      next hit =>
        subst hit
        simp [found, whole]
      · rfl
    · simp only [ShadowLedger.costBasis, Dict.total_erase, Dict.at?, found, Option.elim_some, whole]
    · simp [same]
    · intro key q kept
      simp only [Dict.get?_erase] at kept
      split at kept
      · cases kept
      · exact ok key q kept
  · refine ⟨_, by simp only [all, if_false]; rfl, ⟨rfl, ?_, ?_, ?_⟩, ?_⟩
    · intro j
      simp only [ShadowLedger.owned, Dict.get?_set]
      split
      next hit =>
        subst hit
        simp [found]
      · rfl
    · simp only [ShadowLedger.costBasis, Dict.total_set, Dict.at?, found, Option.elim_some,
        Int.cast_sub]
      ring
    · simp [same]
    · intro key q kept
      simp only [Dict.get?_set] at kept
      split at kept
      next hit =>
        subst hit
        cases kept
        refine ⟨old.key_eq, old.contract_eq, ?_, old.average_pos, old.environment⟩
        simp only
        omega
      · exact ok key q kept

/-- A settlement closes the whole position at the settlement price. -/
theorem settlePosition_spec {i : String} (perShare : ℚ)
    (found : s.positions.get? i = some p) :
    let s' := settlePosition .exact i p perShare s
    s'.cash = s.cash + perShare * p.quantity * p.contract.multiplier ∧
    s'.realizedPnl =
      s.realizedPnl + (perShare - p.averageEntryPrice) * p.quantity * p.contract.multiplier ∧
    s'.costBasis = s.costBasis - p.averageEntryPrice * p.quantity * p.contract.multiplier ∧
    (∀ j, s'.owned j = if i = j then 0 else s.owned j) ∧
    s'.positions = s.positions.erase i := by
  refine ⟨by simp [settlePosition], by simp [settlePosition], ?_, ?_, rfl⟩
  · simp only [settlePosition, ShadowLedger.costBasis, Dict.total_erase, Dict.at?, found,
      Option.elim_some]
  · intro j
    simp only [settlePosition, ShadowLedger.owned, Dict.get?_erase]
    split <;> rfl

end Exit

end ShadowLedger

end Sentry
