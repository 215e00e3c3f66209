import Sentry.Ledger.Quotes

/-!
# Expiration

`expire` ends orders first and closes positions after. Closing a position is
safe only because of that order: an open closing order in an instrument has the
contract of the position, so it has ended by the time the position is closed.
A negative settlement raises in the middle of the position loop; what was closed
before stays closed.
-/
namespace Sentry

open Support

namespace ShadowLedger

section Expiry

variable {cfg : LedgerConfig} {catalog : String → OptionContract} {s : ShadowLedger}

/-! ### Orders -/

theorem progressed_expireBy (date : Date) (item : LedgerOrder) :
    Progressed item (LedgerOrder.expireBy cfg date item) := by
  unfold LedgerOrder.expireBy
  split
  next ends =>
    have isOpen : item.published.state.isOpen = true := by
      simp only [LedgerOrder.endsBy, Bool.and_eq_true] at ends
      exact ends.1
    refine ⟨rfl, ?_, ?_⟩
    · intro stillOpen
      cases stillOpen
    constructor
    · intro rejected
      cases rejected
    · intro rejected
      rw [rejected] at isOpen
      cases isOpen
  · exact Progressed.refl item

theorem orderOk_expireBy {key : UUID} {item : LedgerOrder} (date : Date)
    (ok : OrderOk cfg catalog key item) :
    OrderOk cfg catalog key (LedgerOrder.expireBy cfg date item) := by
  unfold LedgerOrder.expireBy
  split
  · refine { ok with open_remaining := ?_, filled_complete := ?_ }
    · intro stillOpen
      cases stillOpen
    · intro filled
      cases filled
  · exact ok

theorem buyReserve_expireBy_le {key : UUID} {item : LedgerOrder} (date : Date)
    (ok : OrderOk cfg catalog key item) :
    buyReserve (LedgerOrder.expireBy cfg date item) ≤ buyReserve item := by
  unfold LedgerOrder.expireBy
  split
  · have nothing : buyReserve
        { item with published := { item.published with state := .expired } } = 0 := by
      simp [buyReserve, BrokerOrder.isOpenBuy, OrderState.isOpen]
    rw [nothing]
    exact buyReserve_nonneg ok
  · exact le_refl _

theorem sellReserve_expireBy_le {key : UUID} {item : LedgerOrder} (date : Date) (i : String)
    (ok : OrderOk cfg catalog key item) :
    sellReserve i (LedgerOrder.expireBy cfg date item) ≤ sellReserve i item := by
  unfold LedgerOrder.expireBy
  split
  · have nothing : sellReserve i
        { item with published := { item.published with state := .expired } } = 0 := by
      simp [sellReserve, BrokerOrder.isOpenSell, OrderState.isOpen]
    rw [nothing]
    exact sellReserve_nonneg ok i
  · exact le_refl _

/-- Every order that is still open outlives the date. -/
def OpenAfter (date : Date) (s : ShadowLedger) : Prop :=
  ∀ key item, s.orders.get? key = some item → item.published.state.isOpen = true →
    date < item.published.contract.expiration

theorem expireOrders_kept (date : Date) (solvent : Solvent cfg catalog s) :
    let s' := { s with orders := s.orders.mapValues (LedgerOrder.expireBy cfg date) }
    Solvent cfg catalog s' ∧ Kept 0 s s' ∧ OpenAfter date s' := by
  intro s'
  have lookup : ∀ key item', s'.orders.get? key = some item' →
      ∃ item, s.orders.get? key = some item ∧ LedgerOrder.expireBy cfg date item = item' := by
    intro key item' found
    simp only [s', Dict.get?_mapValues, Option.map_eq_some_iff] at found
    exact found
  have buys : s'.reservedBuyingPower .exact ≤ s.reservedBuyingPower .exact := by
    simp only [reservedBuyingPower_eq, s', Dict.total_mapValues]
    exact Dict.total_mono fun k v member =>
      buyReserve_expireBy_le date (solvent.orders_ok k v (Dict.mem_entries.mp member))
  have sells : ∀ i, s'.reservedQuantity i ≤ s.reservedQuantity i := by
    intro i
    simp only [reservedQuantity_eq, s', Dict.total_mapValues]
    exact Dict.total_mono fun k v member =>
      sellReserve_expireBy_le date i (solvent.orders_ok k v (Dict.mem_entries.mp member))
  have progressed : ∀ key item', s'.orders.get? key = some item' →
      ∃ item, s.orders.get? key = some item ∧ Progressed item item' := by
    intro key item' found
    obtain ⟨item, before, rfl⟩ := lookup key item' found
    exact ⟨item, before, progressed_expireBy date item⟩
  refine ⟨⟨solvent.cash_nonneg, le_trans buys solvent.reserved_le, ?_, ?_, solvent.positions_ok⟩,
    ⟨(add_zero _).symm, ?_, ?_, Dict.keys_mapValues _ _, progressed,
      fun _ => Finset.Subset.refl _, fun _ old => Or.inl old⟩, ?_⟩
  · intro i
    exact le_trans (sells i) (solvent.covered i)
  · intro key item' found
    obtain ⟨item, before, rfl⟩ := lookup key item' found
    exact orderOk_expireBy date (solvent.orders_ok key item before)
  · rw [openOptionRisk_eq, openOptionRisk_eq]
    exact add_le_add (le_refl s.costBasis) buys
  · rintro i (held | ⟨key, item', found, isBuy, instrument⟩)
    · exact Or.inl held
    · obtain ⟨item, before, moved⟩ := progressed key item' found
      exact Or.inr ⟨key, item, before, moved.isOpenBuy isBuy, moved.contract ▸ instrument⟩
  · intro key item' found isOpen
    obtain ⟨item, before, rfl⟩ := lookup key item' found
    unfold LedgerOrder.expireBy at isOpen ⊢
    split at isOpen
    · cases isOpen
    next survives =>
      rw [if_neg survives]
      by_contra expired
      apply survives
      simp only [LedgerOrder.endsBy, isOpen, Bool.true_and, Bool.or_eq_true, decide_eq_true_eq]
      exact Or.inr (not_lt.mp expired)

/-! ### Positions -/

/-- No order reserves quantity of an instrument whose contract has ended. -/
theorem reservedQuantity_of_ended {date : Date} {i : String} {p : Position}
    (solvent : Solvent cfg catalog s) (after : OpenAfter date s)
    (found : s.positions.get? i = some p) (ended : p.contract.expiration ≤ date) :
    s.reservedQuantity i = 0 := by
  have zero : ∀ k v, (k, v) ∈ s.orders.entries → sellReserve i v = 0 := by
    intro k v member
    have there := Dict.mem_entries.mp member
    unfold sellReserve
    split
    next isSell =>
      simp only [BrokerOrder.isOpenSell, Bool.and_eq_true, beq_iff_eq] at isSell
      have later := after k v there isSell.1.1
      -- one instrument is one contract, so the order has the position's expiration
      have same : v.published.contract = p.contract := by
        rw [← (solvent.orders_ok k v there).contract_eq, isSell.2]
        exact (solvent.positions_ok i p found).contract_eq
      rw [same] at later
      exact absurd ended (not_le.mpr later)
    · rfl
  rw [reservedQuantity_eq, Dict.total_congr zero]
  simp [Dict.total]

theorem settlePosition_kept {date : Date} {i : String} {p : Position} {perShare : ℚ}
    (solvent : Solvent cfg catalog s) (after : OpenAfter date s)
    (found : s.positions.get? i = some p) (ended : p.contract.expiration ≤ date)
    (paid : 0 ≤ perShare) :
    Solvent cfg catalog (settlePosition .exact i p perShare s) ∧
      Kept 0 s (settlePosition .exact i p perShare s) := by
  obtain ⟨cash, realized, basis, owned, positions⟩ := settlePosition_spec perShare found
  set s' := settlePosition .exact i p perShare s with settled
  have orders : s'.orders = s.orders := rfl
  have pOk := solvent.positions_ok i p found
  have quantity : (0 : ℚ) < p.quantity := by exact_mod_cast pOk.quantity_pos
  have multiplier : (0 : ℚ) < p.contract.multiplier := by exact_mod_cast p.contract.multiplier_pos
  have average := pOk.average_pos
  have proceeds : 0 ≤ perShare * p.quantity * p.contract.multiplier := by positivity
  have cost : 0 ≤ p.averageEntryPrice * p.quantity * p.contract.multiplier := by positivity
  constructor
  · refine ⟨?_, ?_, ?_, solvent.orders_ok, ?_⟩
    · rw [cash]
      exact add_nonneg solvent.cash_nonneg proceeds
    · rw [reservedBuyingPower_congr orders, cash]
      have covered := solvent.reserved_le
      linarith
    · intro j
      rw [reservedQuantity_congr orders, owned]
      split
      next same =>
        subst same
        exact le_of_eq (reservedQuantity_of_ended solvent after found ended)
      · exact solvent.covered j
    · intro key q kept
      rw [positions, Dict.get?_erase] at kept
      split at kept
      · cases kept
      · exact solvent.positions_ok key q kept
  · refine Kept.of_orders_eq orders ?_ ?_ ?_ rfl rfl
    · simp only [worth, cash, realized, basis]
      ring
    · rw [basis]
      linarith
    · intro j held
      rw [owned] at held
      split at held
      · exact absurd held (lt_irrefl 0)
      · exact held

/-- The position loop, raising or not, keeps the ledger solvent. -/
theorem expirePositions_kept (date : Date) (policy : ExpirationPolicy)
    (settlements : Dict String ℚ) (rest : List (String × Position)) (totals : ExpirationTotals)
    (s : ShadowLedger) (distinct : (rest.map Prod.fst).Nodup)
    (present : ∀ e ∈ rest, s.positions.get? e.1 = some e.2)
    (solvent : Solvent cfg catalog s) (after : OpenAfter date s) :
    Solvent cfg catalog (expirePositions .exact date policy settlements rest totals s).2 ∧
      Kept 0 s (expirePositions .exact date policy settlements rest totals s).2 := by
  induction rest generalizing totals s with
  | nil => exact ⟨solvent, Kept.refl s⟩
  | cons e rest ih =>
    obtain ⟨i, p⟩ := e
    obtain ⟨absent, distinct'⟩ := List.nodup_cons.mp distinct
    have present' : ∀ e ∈ rest, s.positions.get? e.1 = some e.2 :=
      fun e member => present e (List.mem_cons_of_mem _ member)
    simp only [expirePositions]
    split
    · exact ih totals s distinct' present' solvent after
    next ended =>
      split
      · exact ⟨solvent, Kept.refl s⟩
      next offered =>
        have found := present (i, p) List.mem_cons_self
        have paid : 0 ≤ if policy = .doNotExercise then 0 else (settlements.get? i).getD 0 := by
          split
          · exact le_refl 0
          · exact not_lt.mp offered
        obtain ⟨solvent₁, kept₁⟩ :=
          settlePosition_kept solvent after found (not_lt.mp ended) paid
        -- the other positions of the list are still there
        have still : ∀ e ∈ rest, (settlePosition .exact i p
            (if policy = .doNotExercise then 0 else (settlements.get? i).getD 0) s).positions.get?
              e.1 = some e.2 := by
          intro e member
          have other : i ≠ e.1 := fun equal =>
            absent (List.mem_map.mpr ⟨e, member, equal.symm⟩)
          simp only [settlePosition, Dict.get?_erase, other, if_false]
          exact present' e member
        obtain ⟨solvent₂, kept₂⟩ := ih _ _ distinct' still solvent₁ after
        exact ⟨solvent₂, kept₁.trans kept₂⟩

theorem expire_kept (now : Time) (onDate : Option Date) (policy : ExpirationPolicy)
    (settlements : Dict String ℚ) (solvent : Solvent cfg catalog s) :
    Solvent cfg catalog (expire .exact cfg now onDate policy settlements s).2 ∧
      Kept 0 s (expire .exact cfg now onDate policy settlements s).2 := by
  unfold expire
  dsimp only
  split
  · exact ⟨solvent, Kept.refl s⟩
  · generalize onDate.getD (cfg.marketDate now) = date
    obtain ⟨solvent₁, kept₁, after⟩ := expireOrders_kept date solvent
    have closed := expirePositions_kept date policy settlements s.positions.entries {}
      { s with orders := s.orders.mapValues (LedgerOrder.expireBy cfg date) }
      s.positions.distinct (fun e member => Dict.mem_entries.mp member) solvent₁ after
    cases outcome : expirePositions .exact date policy settlements s.positions.entries {}
        { s with orders := s.orders.mapValues (LedgerOrder.expireBy cfg date) } with
    | mk answer s' =>
      rw [outcome] at closed
      cases answer with
      | error e => exact ⟨closed.1, kept₁.trans closed.2⟩
      | ok totals => exact ⟨closed.1, kept₁.trans closed.2⟩

end Expiry

end ShadowLedger

end Sentry
