import Mathlib.Data.Finset.Sort
import Sentry.Ledger.Solvency

/-!
# Ledger snapshots

`LedgerSnapshot`, `export_state` and `restore_state` of
`app/broker/shadow_ledger.py`. A restore re-validates the cross references of
the snapshot and the ledger's own discrepancy check before it adopts anything;
`restoreState_exportState` says that every reachable ledger passes.
-/
namespace Sentry

open Support

/-- Identifiers compare by their text, whose width is fixed, so by their number. -/
instance : LinearOrder UUID :=
  LinearOrder.lift' UUID.val fun a b same => by cases a; cases b; simpa using same

structure LedgerSnapshot where
  recordedAt : Time
  environment : ExecutionEnvironment
  accountKind : AccountKind
  namespace_ : String
  initialCash : ℚ
  cash : ℚ
  fillModelVersion : String
  orders : List LedgerOrder
  idempotencyOrderIds : Dict String UUID
  positions : List Position
  fills : List Fill
  quotes : List OptionQuote
  proposals : List TradeProposal
  rejectionReasons : Dict UUID (List String)
  deposits : List DepositRecord
  entryOrdersByDate : Dict Date (List UUID)
  realizedPnl : ℚ
  closedRealizedPnl : Dict String ℚ
  recordedCommands : List BrokerCommandIntent := []
  initialCash_nonneg : 0 ≤ initialCash
  cash_nonneg : 0 ≤ cash

namespace ShadowLedger

variable (D : Decimal.Context) (cfg : LedgerConfig)

/-- A ledger with negative cash cannot be exported: the snapshot refuses the field. -/
def exportState (now : Time) (recordedCommands : List BrokerCommandIntent) (s : ShadowLedger) :
    Except Exc LedgerSnapshot :=
  if covered : 0 ≤ s.cash then
    .ok { recordedAt := now
          environment := .demo
          accountKind := cfg.accountKind
          namespace_ := cfg.namespace_
          initialCash := cfg.initialCash
          cash := s.cash
          fillModelVersion := cfg.fillModel.version
          orders := s.orders.values
          idempotencyOrderIds := s.orderByIdempotency
          positions := s.positions.values
          fills := s.fills
          quotes := s.quotes.values
          proposals := s.proposals.values
          rejectionReasons := s.rejectionReasons
          deposits := s.deposits
          entryOrdersByDate := s.entryOrdersByDate.mapValues fun ids => ids.sort
          realizedPnl := s.realizedPnl
          closedRealizedPnl := s.closedRealizedPnl
          recordedCommands := recordedCommands
          initialCash_nonneg := cfg.initialCash_nonneg
          cash_nonneg := covered }
  else .error (.valueError "Input should be greater than or equal to 0")

/-- `_apply_snapshot`. -/
def applySnapshot (snapshot : LedgerSnapshot) : ShadowLedger where
  cash := snapshot.cash
  orders := .ofPairs (snapshot.orders.map fun item => (item.published.orderId, item))
  orderByIdempotency := snapshot.idempotencyOrderIds
  positions := .ofPairs (snapshot.positions.map fun p => (p.contract.instrumentId, p))
  fills := snapshot.fills
  quotes := .ofPairs (snapshot.quotes.map fun q => (q.contract.instrumentId, q))
  proposals := .ofPairs (snapshot.proposals.map fun p => (p.proposalId, p))
  rejectionReasons := snapshot.rejectionReasons
  deposits := snapshot.deposits
  entryOrdersByDate := snapshot.entryOrdersByDate.mapValues List.toFinset
  realizedPnl := snapshot.realizedPnl
  closedRealizedPnl := snapshot.closedRealizedPnl

/-- The guards of `restore_state`, in the order of the source. -/
def validateSnapshot (now : Time) (snapshot : LedgerSnapshot) : Except Exc Unit :=
  let orderIds := snapshot.orders.map (·.published.orderId)
  if snapshot.environment ≠ .demo ∨ snapshot.accountKind ≠ cfg.accountKind ∨
      snapshot.namespace_ ≠ cfg.namespace_ then
    .error (.safetyCritical "ledger snapshot identity does not match startup binding")
  else if snapshot.initialCash ≠ cfg.initialCash then
    .error (.safetyCritical "initial cash changed while restoring an existing ledger")
  else if snapshot.fillModelVersion ≠ cfg.fillModel.version then
    .error (.safetyCritical "fill model changed while restoring an existing ledger")
  else if snapshot.recordedAt > now then
    .error (.dataInvalid "ledger snapshot is newer than the injected clock")
  else if orderIds.toFinset.card ≠ snapshot.orders.length then
    .error (.safetyCritical "ledger snapshot contains duplicate order IDs")
  else if snapshot.idempotencyOrderIds.values.any (· ∉ orderIds) then
    .error (.safetyCritical "ledger idempotency map references an absent order")
  else if snapshot.orders.any fun item => decide (item.published.environment ≠ .demo ∨
      item.command.environment ≠ .demo ∨ item.command.namespace_ ≠ cfg.namespace_ ∨
      item.published.intentId ≠ item.command.orderIntentId) then
    .error (.safetyCritical "ledger order snapshot is cross-boundary or uncorrelated")
  else if snapshot.recordedCommands.any fun command => decide (command.environment ≠ .demo ∨
      command.namespace_ ≠ cfg.namespace_) then
    .error (.safetyCritical "recorded command does not match ledger identity")
  else if snapshot.positions.any fun p => decide (p.environment ≠ .demo) then
    .error (.safetyCritical "ledger position snapshot crosses environments")
  else if (snapshot.positions.map (·.contract.instrumentId)).toFinset.card ≠
      snapshot.positions.length then
    .error (.safetyCritical "ledger snapshot contains duplicate positions")
  else if snapshot.fills.any (·.orderId ∉ orderIds) then
    .error (.safetyCritical "ledger fill references an absent order")
  else if snapshot.quotes.any fun q => decide (q.metadata.observedAt > snapshot.recordedAt ∨
      q.metadata.effectiveAt > snapshot.recordedAt) then
    .error (.dataInvalid "ledger snapshot contains a future quote")
  else .ok ()

/-- `restore_state` on a ledger: a refused snapshot leaves it as it is. -/
def restoreState (now : Time) (snapshot : LedgerSnapshot) (s : ShadowLedger) :
    Except Exc Unit × ShadowLedger :=
  match validateSnapshot cfg now snapshot with
  | .error e => (.error e, s)
  | .ok () =>
    let issues := (applySnapshot snapshot).invariantDiscrepancies D
    if !issues.isEmpty then
      (.error (.safetyCritical ("invalid restored ledger: " ++ "; ".intercalate issues)), s)
    else (.ok (), applySnapshot snapshot)

/-- A restore refuses and changes nothing, or adopts a snapshot that passed its checks. -/
theorem restoreState_cases (now : Time) (snapshot : LedgerSnapshot) (target : ShadowLedger) :
    (∃ e, restoreState D cfg now snapshot target = (.error e, target)) ∨
    restoreState D cfg now snapshot target = (.ok (), applySnapshot snapshot) ∧
      validateSnapshot cfg now snapshot = .ok () ∧
      (applySnapshot snapshot).invariantDiscrepancies D = [] := by
  unfold restoreState
  cases valid : validateSnapshot cfg now snapshot with
  | error e => exact Or.inl ⟨e, rfl⟩
  | ok u =>
    dsimp only
    split
    · exact Or.inl ⟨_, rfl⟩
    next clean =>
      refine Or.inr ⟨rfl, rfl, ?_⟩
      simpa using clean

/-! ### What the loops leave alone -/

/-- The maps that only reviews, submissions, cancellations and quotes write. -/
structure SameIndexes (s s' : ShadowLedger) : Prop where
  idempotency : s'.orderByIdempotency = s.orderByIdempotency
  quotes : s'.quotes = s.quotes
  proposals : s'.proposals = s.proposals

theorem SameIndexes.refl (s : ShadowLedger) : SameIndexes s s := ⟨rfl, rfl, rfl⟩

theorem SameIndexes.trans {a b c : ShadowLedger} (first : SameIndexes a b)
    (second : SameIndexes b c) : SameIndexes a c :=
  ⟨second.idempotency.trans first.idempotency, second.quotes.trans first.quotes,
    second.proposals.trans first.proposals⟩

section Frames

theorem markPosition_indexes (quote : OptionQuote) (s : ShadowLedger) :
    SameIndexes s (markPosition D quote s) := by
  rw [markPosition_frame]
  exact ⟨rfl, rfl, rfl⟩

theorem applyExitPosition_indexes (contract : OptionContract) (quantity : ℤ) (price : ℚ)
    (s : ShadowLedger) : SameIndexes s (applyExitPosition D contract quantity price s).2 := by
  unfold applyExitPosition
  split
  · exact .refl s
  · split
    · exact .refl s
    · dsimp only
      split <;> exact ⟨rfl, rfl, rfl⟩

theorem moveFill_indexes (now : Time) (ids : FreshIds) (item : LedgerOrder) (quote : OptionQuote)
    (quantity : ℤ) (price : ℚ) (s : ShadowLedger) :
    SameIndexes s (moveFill D cfg now ids item quote quantity price s).2 := by
  unfold moveFill
  dsimp only
  split
  · split
    · exact .refl s
    · rw [applyEntryPosition_frame]
      exact ⟨rfl, rfl, rfl⟩
  · have exited := applyExitPosition_indexes D item.published.contract quantity price s
    split
    next outcome =>
      rw [outcome] at exited
      exact exited
    next outcome =>
      rw [outcome] at exited
      exact ⟨exited.idempotency, exited.quotes, exited.proposals⟩

theorem applyFill_indexes (now : Time) (ids : FreshIds) (key : UUID) (item : LedgerOrder)
    (quote : OptionQuote) (quantity : ℤ) (price : ℚ) (seed : Nat) (reason : String)
    (s : ShadowLedger) :
    SameIndexes s (applyFill D cfg now ids key item quote quantity price seed reason s).2 := by
  have moved := moveFill_indexes D cfg now ids item quote quantity price s
  unfold applyFill
  dsimp only
  split
  · exact .refl s
  · split
    · exact .refl s
    · split
      · exact .refl s
      · split
        · exact .refl s
        · split
          next outcome =>
            rw [outcome] at moved
            exact moved
          next outcome =>
            rw [outcome] at moved
            exact ⟨moved.idempotency, moved.quotes, moved.proposals⟩

theorem considerOrder_indexes (now : Time) (ids : FreshIds) (quote : OptionQuote) (key : UUID)
    (item : LedgerOrder) (s : ShadowLedger) :
    SameIndexes s (considerOrder D cfg now ids quote key item s).2 := by
  unfold considerOrder
  dsimp only
  split
  · exact .refl s
  · split
    · exact .refl s
    · split
      · exact .refl s
      next price _ =>
        have filled := applyFill_indexes D cfg now ids key item quote
          (decisionOn D cfg quote item.published).quantity price
          (decisionOn D cfg quote item.published).deterministicSeed
          (decisionOn D cfg quote item.published).reason s
        split
        next outcome =>
          rw [outcome] at filled
          exact filled
        next outcome =>
          rw [outcome] at filled
          exact filled

theorem considerOrders_indexes (now : Time) (ids : FreshIds) (quote : OptionQuote)
    (keys : List UUID) (s : ShadowLedger) :
    SameIndexes s (considerOrders D cfg now ids quote keys s).2 := by
  induction keys generalizing s with
  | nil => exact .refl s
  | cons key rest ih =>
    simp only [considerOrders]
    split
    · exact ih s
    next item _ =>
      have one := considerOrder_indexes D cfg now ids quote key item s
      split
      next outcome =>
        rw [outcome] at one
        exact one
      next s₁ outcome =>
        rw [outcome] at one
        have others := ih s₁
        split
        next outcome' =>
          rw [outcome'] at others
          exact one.trans others
        next outcome' =>
          rw [outcome'] at others
          exact one.trans others

theorem expirePositions_indexes (date : Date) (policy : ExpirationPolicy)
    (settlements : Dict String ℚ) (rest : List (String × Position)) (totals : ExpirationTotals)
    (s : ShadowLedger) :
    SameIndexes s (expirePositions D date policy settlements rest totals s).2 := by
  induction rest generalizing totals s with
  | nil => exact .refl s
  | cons e rest ih =>
    simp only [expirePositions]
    split
    · exact ih totals s
    · split
      · exact .refl s
      · have settled : SameIndexes s (settlePosition D e.1 e.2
            (if policy = .doNotExercise then 0 else (settlements.get? e.1).getD 0) s) :=
          ⟨rfl, rfl, rfl⟩
        exact settled.trans (ih _ _)

theorem expire_indexes (now : Time) (onDate : Option Date) (policy : ExpirationPolicy)
    (settlements : Dict String ℚ) (s : ShadowLedger) :
    SameIndexes s (expire D cfg now onDate policy settlements s).2 := by
  unfold expire
  dsimp only
  split
  · exact .refl s
  · generalize onDate.getD (cfg.marketDate now) = date
    have closed := expirePositions_indexes D date policy settlements s.positions.entries {}
      { s with orders := s.orders.mapValues (LedgerOrder.expireBy cfg date) }
    split
    next outcome =>
      rw [outcome] at closed
      exact ⟨closed.idempotency, closed.quotes, closed.proposals⟩
    next outcome =>
      rw [outcome] at closed
      exact ⟨closed.idempotency, closed.quotes, closed.proposals⟩

/-- A quote writes at most its own entry of the quote map. -/
theorem observeQuote_indexes (now : Time) (ids : FreshIds) (quote : OptionQuote)
    (s : ShadowLedger) :
    SameIndexes s (observeQuote D cfg now ids quote s).2 ∨
      (quote.metadata.effectiveAt ≤ now ∧ quote.metadata.observedAt ≤ now ∧
        SameIndexes { s with quotes := s.quotes.set quote.contract.instrumentId quote }
          (observeQuote D cfg now ids quote s).2) := by
  unfold observeQuote observeQuoteLog
  rcases admitQuote_cases now quote s with ⟨text, refused⟩ | ⟨repeated, _⟩ | ⟨admitted, _, timely⟩
  · rw [refused]
    exact Or.inl (.refl s)
  · rw [repeated]
    exact Or.inl (.refl s)
  · rw [admitted]
    refine Or.inr ⟨timely.1, timely.2, ?_⟩
    have marked := markPosition_indexes D quote
      { s with quotes := s.quotes.set quote.contract.instrumentId quote }
    dsimp only
    split
    · exact marked
    · exact marked.trans (considerOrders_indexes D cfg now ids quote _ _)

end Frames

/-! ### Cross references -/

/-- Every cross reference of the ledger resolves, and no quote is later than `now`. -/
structure References (now : Time) (s : ShadowLedger) : Prop where
  idempotency : ∀ key id, s.orderByIdempotency.get? key = some id → id ∈ s.orders.keys
  fills : ∀ fill ∈ s.fills, fill.orderId ∈ s.orders.keys
  quotes : ∀ i q, s.quotes.get? i = some q → q.contract.instrumentId = i ∧
    q.metadata.observedAt ≤ now ∧ q.metadata.effectiveAt ≤ now
  proposals : ∀ id p, s.proposals.get? id = some p → p.proposalId = id

section References

variable {cfg} {catalog : String → OptionContract} {now at_ : Time} {s s' : ShadowLedger}

theorem References.of_kept {paid : ℚ} (refs : References now s) (kept : Kept paid s s')
    (same : SameIndexes s s') : References now s' where
  idempotency := by
    intro key id found
    rw [same.idempotency] at found
    rw [kept.keys]
    exact refs.idempotency key id found
  fills := by
    intro fill member
    rw [kept.keys]
    rcases kept.fills fill member with old | own
    · exact refs.fills fill old
    · exact own
  quotes := by
    rw [same.quotes]
    exact refs.quotes
  proposals := by
    rw [same.proposals]
    exact refs.proposals

theorem References.setQuote (refs : References now s) {quote : OptionQuote}
    (effective : quote.metadata.effectiveAt ≤ now) (observed : quote.metadata.observedAt ≤ now) :
    References now { s with quotes := s.quotes.set quote.contract.instrumentId quote } where
  idempotency := refs.idempotency
  fills := refs.fills
  quotes := by
    intro i q found
    simp only [Dict.get?_set] at found
    split at found
    next same =>
      cases found
      exact ⟨same, observed, effective⟩
    · exact refs.quotes i q found
  proposals := refs.proposals

theorem References.remember (refs : References now s) (key : String) {id : UUID}
    (known : id ∈ s.orders.keys) : References now (s.remember key id) where
  idempotency := by
    intro k i found
    simp only [ShadowLedger.remember, Dict.get?_set] at found
    split at found
    · cases found
      exact known
    · exact refs.idempotency k i found
  fills := refs.fills
  quotes := refs.quotes
  proposals := refs.proposals

theorem review_references (cfg : LedgerConfig) (at_ : Time) (ids : FreshIds)
    (proposal : TradeProposal) (refs : References now s) :
    References now (review .exact cfg at_ ids proposal s).2 where
  idempotency := refs.idempotency
  fills := refs.fills
  quotes := refs.quotes
  proposals := by
    intro id p found
    simp only [review, Dict.get?_set] at found
    split at found
    next same =>
      cases found
      exact same
    · exact refs.proposals id p found

theorem cancel_references (command : BrokerCommandIntent) (ref : OrderRef)
    (solvent : Solvent cfg catalog s) (refs : References now s) :
    References now (cancel cfg command ref s).2 := by
  rcases cancel_cases command ref with same | ⟨key, item, targets, outcome⟩
  · rw [same]
    exact refs
  · have found := targets.found
    have known : item.published.orderId ∈ s.orders.keys := by
      rw [(solvent.orders_ok key item found).key_eq]
      exact Dict.mem_keys.mpr ⟨item, found⟩
    rcases outcome with remembered | ⟨_, canceled⟩
    · rw [remembered]
      exact refs.remember _ known
    · rw [canceled]
      have keys : (endOrder .canceled key item s).orders.keys = s.orders.keys :=
        Dict.keys_set_of_mem (Dict.mem_keys.mpr ⟨item, found⟩)
      have ended : References now (endOrder .canceled key item s) :=
        ⟨fun k id there => by rw [keys]; exact refs.idempotency k id there,
          fun fill member => by rw [keys]; exact refs.fills fill member,
          refs.quotes, refs.proposals⟩
      exact ended.remember _ (by rw [keys]; exact known)

theorem submit_references (command : BrokerCommandIntent) (contract : OptionContract)
    (refs : References now s) : References now (submit .exact cfg at_ command contract s).2 := by
  rcases submit_cases .exact at_ command contract with same | ⟨_, _, recorded⟩
  · rw [same]
    exact refs
  · rw [recorded]
    have orders := recordSubmission_orders cfg s at_ command contract .exact
    have frame := recordSubmission_frame cfg s at_ command contract .exact
    refine ⟨?_, ?_, ?_, ?_⟩
    · intro key id found
      rw [frame, Dict.get?_set] at found
      rw [orders, Dict.mem_keys_set]
      split at found
      · cases found
        exact Or.inl rfl
      · exact Or.inr (refs.idempotency key id found)
    · intro fill member
      rw [frame] at member
      rw [orders, Dict.mem_keys_set]
      exact Or.inr (refs.fills fill member)
    · rw [frame]
      exact refs.quotes
    · rw [frame]
      exact refs.proposals

/-- An operation at a time not after `now` keeps the references of a solvent ledger. -/
theorem perform_references (timely : at_ ≤ now) (op : Op) (solvent : Solvent cfg catalog s)
    (refs : References now s) : References now (perform .exact cfg at_ op s).2 := by
  cases op with
  | deposit amount reference =>
    have kept := (deposit_kept at_ amount reference solvent).2
    refine refs.of_kept kept ?_
    change SameIndexes s (deposit .exact at_ amount reference s).2
    unfold deposit
    split <;> exact ⟨rfl, rfl, rfl⟩
  | review ids proposal => exact review_references cfg at_ ids proposal refs
  | submit command contract => exact submit_references command contract refs
  | cancel command ref => exact cancel_references command ref solvent refs
  | observeQuote ids quote =>
    have kept := (observeQuote_kept at_ ids quote solvent).2
    rcases observeQuote_indexes .exact cfg at_ ids quote s with same | ⟨effective, observed, same⟩
    · exact refs.of_kept kept same
    · have recorded := refs.setQuote (le_trans effective timely) (le_trans observed timely)
      exact recorded.of_kept
        ⟨kept.worth_eq, kept.risk_le, kept.holds, kept.keys, kept.orders, kept.admitted,
          kept.fills⟩ same
  | expire onDate policy settlements =>
    exact refs.of_kept (expire_kept at_ onDate policy settlements solvent).2
      (expire_indexes .exact cfg at_ onDate policy settlements s)

theorem run_references (ops : List (Time × Op)) (one : OneContract catalog ops)
    (timely : ∀ step ∈ ops, step.1 ≤ now) (s : ShadowLedger) (solvent : Solvent cfg catalog s)
    (refs : References now s) : References now (run .exact cfg ops s) := by
  induction ops generalizing s with
  | nil => exact refs
  | cons step rest ih =>
    have first := perform_solvent step.1 step.2 (one step List.mem_cons_self) solvent
    exact ih (fun next member => one next (List.mem_cons_of_mem _ member))
      (fun next member => timely next (List.mem_cons_of_mem _ member)) _ first.1
      (perform_references (timely step List.mem_cons_self) step.2 solvent refs)

theorem fresh_references : References now (fresh cfg) where
  idempotency := fun _ _ found => nomatch found
  fills := fun _ member => nomatch member
  quotes := fun _ _ found => nomatch found
  proposals := fun _ _ found => nomatch found

end References

/-! ### The round trip -/

section RoundTrip

variable {cfg} {catalog : String → OptionContract} {now later : Time} {s : ShadowLedger}
  {snapshot : LedgerSnapshot}

/-- Every value of the ledger's maps is filed under its own identifier. -/
structure Indexed (s : ShadowLedger) : Prop where
  orders : ∀ key item, s.orders.get? key = some item → item.published.orderId = key
  positions : ∀ i p, s.positions.get? i = some p → p.contract.instrumentId = i
  quotes : ∀ i q, s.quotes.get? i = some q → q.contract.instrumentId = i
  proposals : ∀ id p, s.proposals.get? id = some p → p.proposalId = id

/-- The snapshot's lists of values give the maps back. -/
theorem Indexed.applySnapshot_exportState {commands : List BrokerCommandIntent}
    (indexed : Indexed s) (exported : exportState cfg now commands s = .ok snapshot) :
    applySnapshot snapshot = s := by
  unfold exportState at exported
  split at exported
  next covered =>
    cases exported
    have orders : Dict.ofPairs (s.orders.values.map fun item => (item.published.orderId, item)) =
        s.orders := Dict.ofPairs_values indexed.orders
    have positions : Dict.ofPairs (s.positions.values.map fun p => (p.contract.instrumentId, p)) =
        s.positions := Dict.ofPairs_values indexed.positions
    have quotes : Dict.ofPairs (s.quotes.values.map fun q => (q.contract.instrumentId, q)) =
        s.quotes := Dict.ofPairs_values indexed.quotes
    have proposals : Dict.ofPairs (s.proposals.values.map fun p => (p.proposalId, p)) =
        s.proposals := Dict.ofPairs_values indexed.proposals
    have entries : (s.entryOrdersByDate.mapValues fun ids => ids.sort).mapValues List.toFinset =
        s.entryOrdersByDate := by
      apply Dict.ext_entries
      simp only [Dict.mapValues, List.map_map, Function.comp_def, Finset.sort_toFinset,
        Prod.mk.eta, List.map_id']
    simp only [applySnapshot, orders, positions, quotes, proposals, entries]
  · cases exported

theorem applySnapshot_exportState {commands : List BrokerCommandIntent}
    (solvent : Solvent cfg catalog s) (refs : References now s)
    (exported : exportState cfg now commands s = .ok snapshot) : applySnapshot snapshot = s := by
  have indexed : Indexed s :=
    { orders := fun key item found => (solvent.orders_ok key item found).key_eq
      positions := fun i p found => (solvent.positions_ok i p found).key_eq
      quotes := fun i q found => (refs.quotes i q found).1
      proposals := refs.proposals }
  exact indexed.applySnapshot_exportState exported

/-- The ledger's own discrepancy check finds nothing in a solvent ledger. -/
theorem invariantDiscrepancies_solvent (solvent : Solvent cfg catalog s) :
    s.invariantDiscrepancies .exact = [] := by
  have power : ¬(s.buyingPower .exact < 0) := by
    simpa only [buyingPower, Decimal.Context.exact_sub, not_lt, sub_nonneg] using
      solvent.reserved_le
  have orders : ∀ item ∈ s.orders.values,
      (0 ≤ item.published.filledQuantity ∧
        item.published.filledQuantity ≤ item.published.quantity) ∧
      ¬(item.published.state = .filled ∧
        item.published.filledQuantity ≠ item.published.quantity) := by
    intro item member
    obtain ⟨key, found⟩ := Dict.mem_values.mp member
    have ok := solvent.orders_ok key item found
    exact ⟨⟨ok.filled_nonneg, ok.filled_le⟩, fun bad => bad.2 (ok.filled_complete bad.1)⟩
  have positions : ∀ e ∈ s.positions.entries,
      ¬(e.2.quantity ≤ 0) ∧ ¬(s.availablePositionQuantity e.1 < 0) := by
    intro e member
    have ok := solvent.positions_ok e.1 e.2 (Dict.mem_entries.mp member)
    have covered := solvent.covered e.1
    have positive := ok.quantity_pos
    refine ⟨by omega, ?_⟩
    simp only [availablePositionQuantity]
    omega
  simp only [invariantDiscrepancies, not_lt.mpr solvent.cash_nonneg, power, if_false,
    List.nil_append, List.append_eq_nil_iff, List.flatMap_eq_nil_iff]
  constructor
  · intro item member
    simp [(orders item member).1, (orders item member).2]
  · intro e member
    simp [(positions e member).1, (positions e member).2]

theorem card_keys {κ ν : Type} [DecidableEq κ] (d : Dict κ ν) :
    d.keys.toFinset.card = d.values.length := by
  have distinct : d.keys.Nodup := d.distinct
  rw [List.toFinset_card_of_nodup distinct]
  simp [Dict.keys, Dict.values]

theorem validateSnapshot_exportState {commands : List BrokerCommandIntent}
    (solvent : Solvent cfg catalog s) (refs : References now s) (waited : now ≤ later)
    (bound : ∀ c ∈ commands, c.environment = .demo ∧ c.namespace_ = cfg.namespace_)
    (exported : exportState cfg now commands s = .ok snapshot) :
    validateSnapshot cfg later snapshot = .ok () := by
  unfold exportState at exported
  rw [dif_pos solvent.cash_nonneg] at exported
  cases exported
  have orderIds : s.orders.values.map (·.published.orderId) = s.orders.keys := by
    rw [Dict.values, Dict.keys, List.map_map]
    apply List.map_congr_left
    intro e member
    exact (solvent.orders_ok e.1 e.2 (Dict.mem_entries.mp member)).key_eq
  have instruments : s.positions.values.map (·.contract.instrumentId) = s.positions.keys := by
    rw [Dict.values, Dict.keys, List.map_map]
    apply List.map_congr_left
    intro e member
    exact (solvent.positions_ok e.1 e.2 (Dict.mem_entries.mp member)).key_eq
  unfold validateSnapshot
  dsimp only
  rw [orderIds, instruments]
  -- one fact for each guard, in the order of the source
  rw [if_neg (by simp), if_neg (by simp), if_neg (by simp), if_neg (not_lt.mpr waited)]
  rw [if_neg (not_not.mpr (card_keys s.orders))]
  rw [if_neg (by
    simp only [List.any_eq_true, decide_eq_true_eq, not_exists, not_and, not_not]
    intro id member
    obtain ⟨key, found⟩ := Dict.mem_values.mp member
    exact refs.idempotency key id found)]
  rw [if_neg (by
    simp only [List.any_eq_true, decide_eq_true_eq, not_exists, not_and, not_or, not_not]
    intro item member
    obtain ⟨key, found⟩ := Dict.mem_values.mp member
    have ok := solvent.orders_ok key item found
    exact ⟨ok.environment, ok.command_environment, ok.command_namespace, ok.correlated⟩)]
  rw [if_neg (by
    simp only [List.any_eq_true, decide_eq_true_eq, not_exists, not_and, not_or, not_not]
    exact bound)]
  rw [if_neg (by
    simp only [List.any_eq_true, decide_eq_true_eq, not_exists, not_and, not_not]
    intro p member
    obtain ⟨key, found⟩ := Dict.mem_values.mp member
    exact (solvent.positions_ok key p found).environment)]
  rw [if_neg (not_not.mpr (card_keys s.positions))]
  rw [if_neg (by
    simp only [List.any_eq_true, decide_eq_true_eq, not_exists, not_and, not_not]
    exact refs.fills)]
  rw [if_neg (by
    simp only [List.any_eq_true, decide_eq_true_eq, not_exists, not_and, not_or, not_lt,
      gt_iff_lt]
    intro q member
    obtain ⟨i, found⟩ := Dict.mem_values.mp member
    exact (refs.quotes i q found).2)]

/-- Restoring the snapshot of a solvent ledger gives the ledger back. -/
theorem restoreState_exportState {commands : List BrokerCommandIntent} (target : ShadowLedger)
    (solvent : Solvent cfg catalog s) (refs : References now s) (waited : now ≤ later)
    (bound : ∀ c ∈ commands, c.environment = .demo ∧ c.namespace_ = cfg.namespace_) :
    ∃ snapshot, exportState cfg now commands s = .ok snapshot ∧
      snapshot.recordedCommands = commands ∧
      restoreState .exact cfg later snapshot target = (.ok (), s) := by
  obtain ⟨snapshot, exported, recorded⟩ : ∃ snapshot, exportState cfg now commands s = .ok snapshot ∧
      snapshot.recordedCommands = commands := by
    unfold exportState
    rw [dif_pos solvent.cash_nonneg]
    exact ⟨_, rfl, rfl⟩
  refine ⟨snapshot, exported, recorded, ?_⟩
  have valid := validateSnapshot_exportState solvent refs waited bound exported
  have applied := applySnapshot_exportState solvent refs exported
  simp only [restoreState, valid, applied, invariantDiscrepancies_solvent solvent,
    List.isEmpty_nil, Bool.not_true, Bool.false_eq_true, if_false]

end RoundTrip

end ShadowLedger

end Sentry
