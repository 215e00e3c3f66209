import Sentry.Ledger.Changes
import Sentry.Ledger.Snapshot
import Sentry.Execution.Operations

/-!
# What the ledger's check lets through

`restore_state` and `reconciliation_report` rest on the ledger's discrepancy check, which
looks at the closing orders of the instruments that have a position. The exact condition is
proved under which what they let through is sound.
-/
namespace Sentry

open Support

namespace ShadowLedger

/-! ### What the discrepancy check lets through -/

/-- `reconciliation_report`. The account snapshot in it refuses negative amounts. How a
decimal is written is an argument: the digits a value was computed with are not kept. -/
def reconciliationReport (D : Decimal.Context) (cfg : LedgerConfig) (write : ℚ → String)
    (now : Time) (snapshotId : UUID) (s : ShadowLedger) : Except Exc ReconciliationReport :=
  let discrepancies := s.invariantDiscrepancies D
  let account := s.accountSnapshot D cfg now snapshotId
  if account.cash < 0 ∨ account.openOptionRisk < 0 then
    .error (.valueError "Input should be greater than or equal to 0")
  else
    .ok { environment := .demo
          reconciledAt := now
          successful := discrepancies.isEmpty
          observedAccount := account
          effectiveAccount := account
          positionCount := s.positions.keys.length
          openOrderCount := (s.orders.values.filter (·.published.state.isOpen)).length
          discrepancies := discrepancies
          details := .obj [("account_kind", .str cfg.accountKind.value),
            ("fill_model_version", .str cfg.fillModel.version),
            ("fill_count", .int s.fills.length), ("realized_pnl", .str (write s.realizedPnl))] }

/-- What the fill loop later relies on. -/
structure Sound (D : Decimal.Context) (s : ShadowLedger) : Prop where
  cash_nonneg : 0 ≤ s.cash
  power_nonneg : 0 ≤ s.buyingPower D
  filled_bounds : ∀ key item, s.orders.get? key = some item →
    0 ≤ item.published.filledQuantity ∧ item.published.filledQuantity ≤ item.published.quantity
  filled_complete : ∀ key item, s.orders.get? key = some item → item.published.state = .filled →
    item.published.filledQuantity = item.published.quantity
  quantity_pos : ∀ i p, s.positions.get? i = some p → 0 < p.quantity
  covered : ∀ i, s.reservedQuantity i ≤ s.owned i

/-- An open order to sell that still has something to sell. -/
def BrokerOrder.sells (order : BrokerOrder) : Prop :=
  order.state.isOpen = true ∧ order.side = .sellToClose ∧ 0 < order.remaining

section Checks

variable {D : Decimal.Context} {cfg : LedgerConfig} {now : Time} {s : ShadowLedger}
  {snapshot : LedgerSnapshot}

theorem reported_iff {p : Prop} [Decidable p] (text : String) :
    (if p then [text] else []) = [] ↔ ¬p := by
  split <;> simp_all

/-- The check asks for everything but the cover of instruments without a position. -/
theorem invariantDiscrepancies_eq_nil_iff :
    s.invariantDiscrepancies D = [] ↔
      0 ≤ s.cash ∧ 0 ≤ s.buyingPower D ∧
      (∀ key item, s.orders.get? key = some item →
        (0 ≤ item.published.filledQuantity ∧
          item.published.filledQuantity ≤ item.published.quantity) ∧
        (item.published.state = .filled →
          item.published.filledQuantity = item.published.quantity)) ∧
      ∀ i p, s.positions.get? i = some p →
        0 < p.quantity ∧ s.reservedQuantity i ≤ s.owned i := by
  have orders : (∀ item ∈ s.orders.values, (0 ≤ item.published.filledQuantity ∧
        item.published.filledQuantity ≤ item.published.quantity) ∧
      (item.published.state = .filled →
        item.published.filledQuantity = item.published.quantity)) ↔
      ∀ key item, s.orders.get? key = some item → (0 ≤ item.published.filledQuantity ∧
        item.published.filledQuantity ≤ item.published.quantity) ∧
      (item.published.state = .filled →
        item.published.filledQuantity = item.published.quantity) := by
    constructor
    · exact fun all key item found => all item (Dict.mem_values.mpr ⟨key, found⟩)
    · intro all item member
      obtain ⟨key, found⟩ := Dict.mem_values.mp member
      exact all key item found
  have positions : (∀ e ∈ s.positions.entries,
      0 < e.2.quantity ∧ s.reservedQuantity e.1 ≤ s.owned e.1) ↔
      ∀ i p, s.positions.get? i = some p → 0 < p.quantity ∧ s.reservedQuantity i ≤ s.owned i :=
    ⟨fun all i p held => all (i, p) (Dict.mem_entries.mpr held),
      fun all e member => all e.1 e.2 (Dict.mem_entries.mp member)⟩
  rw [← orders, ← positions]
  simp only [invariantDiscrepancies, List.append_eq_nil_iff, List.flatMap_eq_nil_iff, reported_iff,
    not_lt, not_le, not_and, not_not, Classical.not_imp, ne_eq, and_assoc]
  simp only [availablePositionQuantity, sub_nonneg]

/-- Instruments without a position are covered if and only if nothing is for sale in them. -/
theorem sound_iff_backed (clean : s.invariantDiscrepancies D = []) :
    Sound D s ↔ ∀ key item, s.orders.get? key = some item → BrokerOrder.sells item.published →
      item.published.contract.instrumentId ∈ s.positions.keys := by
  obtain ⟨cash, power, orders, positions⟩ := invariantDiscrepancies_eq_nil_iff.mp clean
  have nonneg : ∀ i key item, (key, item) ∈ s.orders.entries → 0 ≤ sellReserve i item := by
    intro i key item member
    have bounds := (orders key item (Dict.mem_entries.mp member)).1
    unfold sellReserve
    split
    · simp only [BrokerOrder.remaining]
      omega
    · exact le_refl 0
  constructor
  · intro sound key item found sells
    by_contra flat
    have nothing : s.owned item.published.contract.instrumentId = 0 := by
      refine owned_of_none ?_
      cases held : s.positions.get? item.published.contract.instrumentId with
      | none => rfl
      | some p => exact absurd (Dict.mem_keys.mpr ⟨p, held⟩) flat
    have covered := sound.covered item.published.contract.instrumentId
    have asked : sellReserve item.published.contract.instrumentId item =
        item.published.remaining := by
      simp [sellReserve, BrokerOrder.isOpenSell, sells.1, sells.2.1]
    have whole := Dict.le_total (nonneg item.published.contract.instrumentId) found
    rw [← reservedQuantity_eq, asked] at whole
    have positive := sells.2.2
    omega
  · intro backed
    refine ⟨cash, power, fun key item found => (orders key item found).1,
      fun key item found => (orders key item found).2, fun i p held => (positions i p held).1, ?_⟩
    intro i
    cases held : s.positions.get? i with
    | some p => exact (positions i p held).2
    | none =>
      rw [owned_of_none held, reservedQuantity_eq]
      have nothing : ∀ key item, (key, item) ∈ s.orders.entries → sellReserve i item ≤ 0 := by
        intro key item member
        unfold sellReserve
        split
        next isSell =>
          simp only [BrokerOrder.isOpenSell, Bool.and_eq_true, beq_iff_eq] at isSell
          by_contra asks
          have there := backed key item (Dict.mem_entries.mp member)
            ⟨isSell.1.1, isSell.1.2, not_le.mp asks⟩
          rw [isSell.2, Dict.mem_keys, held] at there
          obtain ⟨_, equal⟩ := there
          cases equal
        · exact le_refl 0
      refine (Dict.total_mono nothing).trans (le_of_eq ?_)
      simp [Dict.total]

theorem nodup_of_card {α β : Type} [DecidableEq β] {f : α → β} {xs : List α}
    (all : ¬(xs.map f).toFinset.card ≠ xs.length) : (xs.map f).Nodup := by
  rw [not_not, List.card_toFinset, ← List.length_map (f := f)] at all
  rw [← List.dedup_eq_self]
  exact (List.dedup_sublist (xs.map f)).eq_of_length all

theorem of_passed {refused : Prop} [Decidable refused] {e : Exc} {rest : Except Exc Unit}
    (passed : (if refused then .error e else rest) = .ok ()) : ¬refused ∧ rest = .ok () := by
  split at passed
  · cases passed
  next not_refused => exact ⟨not_refused, passed⟩

/-- A snapshot that passes names no order and no instrument twice. -/
theorem nodup_of_validateSnapshot (valid : validateSnapshot cfg now snapshot = .ok ()) :
    (snapshot.orders.map (·.published.orderId)).Nodup ∧
      (snapshot.positions.map (·.contract.instrumentId)).Nodup := by
  unfold validateSnapshot at valid
  obtain ⟨-, valid⟩ := of_passed valid
  obtain ⟨-, valid⟩ := of_passed valid
  obtain ⟨-, valid⟩ := of_passed valid
  obtain ⟨-, valid⟩ := of_passed valid
  obtain ⟨orders, valid⟩ := of_passed valid
  obtain ⟨-, valid⟩ := of_passed valid
  obtain ⟨-, valid⟩ := of_passed valid
  obtain ⟨-, valid⟩ := of_passed valid
  obtain ⟨-, valid⟩ := of_passed valid
  obtain ⟨positions, -⟩ := of_passed valid
  exact ⟨nodup_of_card orders, nodup_of_card positions⟩

/-- The maps of an applied snapshot are its lists. -/
theorem applySnapshot_lookup (orders : (snapshot.orders.map (·.published.orderId)).Nodup)
    (positions : (snapshot.positions.map (·.contract.instrumentId)).Nodup) :
    (applySnapshot snapshot).orders.values = snapshot.orders ∧
      (applySnapshot snapshot).positions.keys =
        snapshot.positions.map (·.contract.instrumentId) := by
  have listed : (Dict.ofPairs (snapshot.orders.map
      fun item => (item.published.orderId, item))).entries = _ :=
    Dict.entries_ofPairs (by rw [List.map_map]; exact orders)
  have held : (Dict.ofPairs (snapshot.positions.map
      fun p => (p.contract.instrumentId, p))).entries = _ :=
    Dict.entries_ofPairs (by rw [List.map_map]; exact positions)
  constructor
  · change (Dict.ofPairs _).entries.map Prod.snd = _
    rw [listed, List.map_map]
    exact List.map_id snapshot.orders
  · change (Dict.ofPairs _).entries.map Prod.fst = _
    rw [held, List.map_map]
    rfl

end Checks

/-- A restore that raises leaves the ledger exactly as it was. What a restore that
succeeds adopts, and what a successful report is about, is sound if and only if no open
order is selling in an instrument without a position. -/
theorem restore_sound_iff (D : Decimal.Context) (cfg : LedgerConfig) (now : Time) :
    (∀ (snapshot : LedgerSnapshot) (target : ShadowLedger),
      (∀ e s', restoreState D cfg now snapshot target = (.error e, s') → s' = target) ∧
      ∀ s', restoreState D cfg now snapshot target = (.ok (), s') →
        (Sound D s' ↔ ∀ item ∈ snapshot.orders, BrokerOrder.sells item.published →
          item.published.contract.instrumentId ∈
            snapshot.positions.map (·.contract.instrumentId))) ∧
    ∀ (s : ShadowLedger) (write : ℚ → String) (snapshotId : UUID) (report : ReconciliationReport),
      reconciliationReport D cfg write now snapshotId s = .ok report → report.successful = true →
        (Sound D s ↔ ∀ item ∈ s.orders.values, BrokerOrder.sells item.published →
          item.published.contract.instrumentId ∈ s.positions.keys) := by
  have values : ∀ s : ShadowLedger, s.invariantDiscrepancies D = [] →
      (Sound D s ↔ ∀ item ∈ s.orders.values, BrokerOrder.sells item.published →
        item.published.contract.instrumentId ∈ s.positions.keys) := by
    intro s clean
    rw [sound_iff_backed clean]
    constructor
    · intro backed item member
      obtain ⟨key, found⟩ := Dict.mem_values.mp member
      exact backed key item found
    · exact fun backed key item found => backed item (Dict.mem_values.mpr ⟨key, found⟩)
  constructor
  · intro snapshot target
    rcases restoreState_cases D cfg now snapshot target with
      ⟨e, refused⟩ | ⟨adopted, valid, clean⟩
    · rw [refused]
      constructor
      · intro _ s' same
        cases same
        rfl
      · intro s' same
        cases same
    · rw [adopted]
      constructor
      · intro _ s' same
        cases same
      · intro s' same
        cases same
        obtain ⟨orders, positions⟩ := nodup_of_validateSnapshot valid
        obtain ⟨listed, held⟩ := applySnapshot_lookup orders positions
        rw [values _ clean, listed, held]
  · intro s write snapshotId report reported successful
    unfold reconciliationReport at reported
    dsimp only at reported
    split at reported
    · cases reported
    · cases reported
      exact values s (by simpa using successful)

/-- A snapshot with an open order to sell a contract that nobody holds. -/
def nakedSnapshot : LedgerSnapshot where
  recordedAt := 30
  environment := .demo
  accountKind := .shadow
  namespace_ := "demo"
  initialCash := 500
  cash := 500
  fillModelVersion := sampleConfig.fillModel.version
  orders := [recordedOrder sampleConfig 30
    (sampleCommand 12 .placeOptionOrder .sellToClose 1 ⟨2, 0⟩) sampleContract []]
  idempotencyOrderIds := .empty
  positions := []
  fills := []
  quotes := []
  proposals := []
  rejectionReasons := .empty
  deposits := []
  entryOrdersByDate := .empty
  realizedPnl := 0
  closedRealizedPnl := .empty
  initialCash_nonneg := sampleConfig.initialCash_nonneg
  cash_nonneg := sampleConfig.initialCash_nonneg

/-- It is restored, and reconciled successfully. -/
theorem restore_uncovered :
    let outcome := restoreState .exact sampleConfig 40 nakedSnapshot (fresh sampleConfig)
    raised outcome.1 = none ∧
      outcome.2.reservedQuantity "spy-put" = 1 ∧ outcome.2.owned "spy-put" = 0 ∧
      (reconciliationReport .exact sampleConfig (fun _ => "0") 40 ⟨9⟩ outcome.2).toOption.map
        (fun report => report.successful) = some true := by
  decide +kernel

end ShadowLedger

end Sentry
