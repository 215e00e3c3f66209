import Sentry.Ledger.Expiry

/-!
# Solvency and conservation over whole runs

The step lemmas of the remaining operations, and the run lemmas: from a fresh
ledger, every finite run of operations (raising ones included) keeps cash and
buying power nonnegative, owned quantities above what closing orders reserve,
and the money in the ledger equal to the money paid in plus what was realized.
-/
namespace Sentry

open Support

namespace ShadowLedger

/-! ### Deposits, reviews and cancellations -/

section Steps

variable {cfg : LedgerConfig} {catalog : String → OptionContract} {s : ShadowLedger}

theorem deposit_kept (now : Time) (amount : ℚ) (reference : String)
    (solvent : Solvent cfg catalog s) :
    Solvent cfg catalog (deposit .exact now amount reference s).2 ∧
      Kept (max 0 amount) s (deposit .exact now amount reference s).2 := by
  unfold deposit
  split
  next refused =>
    rw [max_eq_left refused]
    exact ⟨solvent, Kept.refl s⟩
  next positive =>
    have paid : 0 ≤ amount := le_of_lt (not_le.mp positive)
    rw [max_eq_right paid]
    constructor
    · refine solvent.of_orders_eq rfl ?_ (fun i => le_refl _) solvent.positions_ok
      simpa only [Decimal.Context.exact_add, le_add_iff_nonneg_right] using paid
    · refine Kept.of_orders_eq rfl ?_ (le_refl _) (fun i held => held) rfl rfl
      simp only [worth, costBasis, Decimal.Context.exact_add]
      ring

theorem review_kept (now : Time) (ids : FreshIds) (proposal : TradeProposal)
    (solvent : Solvent cfg catalog s) :
    Solvent cfg catalog (review .exact cfg now ids proposal s).2 ∧
      Kept 0 s (review .exact cfg now ids proposal s).2 :=
  ⟨solvent.of_orders_eq rfl (le_refl _) (fun _ => le_refl _) solvent.positions_ok,
    Kept.of_orders_eq rfl (add_zero _).symm (le_refl _) (fun _ held => held) rfl rfl⟩

/-- The book with one order moved to a closed state. -/
abbrev endOrder (state : OrderState) (key : UUID) (item : LedgerOrder) (s : ShadowLedger) :
    ShadowLedger :=
  { s with orders := s.orders.set key ⟨{ item.published with state := state }, item.command⟩ }

theorem unused_of_duplicateOrder {command : BrokerCommandIntent}
    (duplicate : duplicateOrder cfg command s = .ok none) :
    s.orderByIdempotency.get? command.idempotencyKey = none := by
  unfold duplicateOrder at duplicate
  split at duplicate
  next unused => exact unused
  · split at duplicate
    · cases duplicate
    · split at duplicate <;> cases duplicate

/-- A cancellation that reached an order: its key was new and its instrument agrees. -/
structure Targets (command : BrokerCommandIntent) (key : UUID) (item : LedgerOrder)
    (s : ShadowLedger) : Prop where
  found : s.orders.get? key = some item
  action : command.action = .cancelOptionOrder
  unused : s.orderByIdempotency.get? command.idempotencyKey = none
  instrument : command.instrumentId = item.published.contract.instrumentId

/-- Everything a cancellation can leave behind. -/
theorem cancel_cases (command : BrokerCommandIntent) (ref : OrderRef) :
    (cancel cfg command ref s).2 = s ∨
    ∃ key item, Targets command key item s ∧
      ((cancel cfg command ref s).2 = s.remember command.idempotencyKey item.published.orderId ∨
        item.published.state.isOpen = true ∧ (cancel cfg command ref s).2 =
          (endOrder .canceled key item s).remember command.idempotencyKey
            item.published.orderId) := by
  unfold cancel
  split
  · exact Or.inl rfl
  next action =>
    split
    · exact Or.inl rfl
    · split
      · exact Or.inl rfl
      · exact Or.inl rfl
      next duplicate =>
        split
        · exact Or.inl rfl
        next key item located =>
          dsimp only
          split
          · exact Or.inl rfl
          next instrument =>
            have targets : Targets command key item s :=
              ⟨findOrder_some located, not_not.mp action, unused_of_duplicateOrder duplicate,
                not_not.mp instrument⟩
            split
            · exact Or.inr ⟨key, item, targets, Or.inl rfl⟩
            · split
              · exact Or.inl rfl
              next isOpen =>
                exact Or.inr ⟨key, item, targets, Or.inr ⟨by simpa using isOpen, rfl⟩⟩

/-- Closing an open order releases what it reserved. -/
theorem endOrder_kept {key : UUID} {item : LedgerOrder} (solvent : Solvent cfg catalog s)
    (found : s.orders.get? key = some item) (isOpen : item.published.state.isOpen = true) :
    Solvent cfg catalog (endOrder .canceled key item s) ∧
      Kept 0 s (endOrder .canceled key item s) := by
  let item' : LedgerOrder := ⟨{ item.published with state := .canceled }, item.command⟩
  have ok := solvent.orders_ok key item found
  have ok' : OrderOk cfg catalog key item' := { ok with
    open_remaining := fun stillOpen => nomatch stillOpen
    filled_complete := fun filled => nomatch filled }
  have moved : Progressed item item' := by
    refine ⟨rfl, (fun stillOpen => nomatch stillOpen), (fun rejected => nomatch rejected), ?_⟩
    intro rejected
    rw [rejected] at isOpen
    cases isOpen
  have noBuy : buyReserve item' = 0 := by
    simp [buyReserve, BrokerOrder.isOpenBuy, OrderState.isOpen, item']
  have noSell : ∀ i, sellReserve i item' = 0 := by
    intro i
    simp [sellReserve, BrokerOrder.isOpenSell, OrderState.isOpen, item']
  have buys : (endOrder .canceled key item s).reservedBuyingPower .exact =
      s.reservedBuyingPower .exact - buyReserve item + buyReserve item' :=
    reservedBuyingPower_set_of_some found item'
  have sells : ∀ i, (endOrder .canceled key item s).reservedQuantity i =
      s.reservedQuantity i - sellReserve i item + sellReserve i item' :=
    reservedQuantity_set_of_some found item'
  have buy_nonneg := buyReserve_nonneg ok
  have covered := solvent.reserved_le
  obtain ⟨keys, orders⟩ := progressed_set found moved
    (rfl : (endOrder .canceled key item s).orders = _)
  rw [noBuy] at buys
  constructor
  · refine ⟨solvent.cash_nonneg, ?_, ?_, ordersOk_set solvent.orders_ok ok', solvent.positions_ok⟩
    · change _ ≤ s.cash
      linarith
    · intro i
      change _ ≤ s.owned i
      have sell_nonneg := sellReserve_nonneg ok i
      have before := solvent.covered i
      have released := sells i
      rw [noSell i] at released
      omega
  · refine ⟨(add_zero _).symm, ?_, ?_, keys, orders, fun _ => Finset.Subset.refl _,
      fun _ old => Or.inl old⟩
    · rw [openOptionRisk_eq, openOptionRisk_eq]
      change s.costBasis + (endOrder .canceled key item s).reservedBuyingPower .exact ≤ _
      linarith
    · rintro i (held | ⟨k, new, there, isBuy, instrument⟩)
      · exact Or.inl held
      · obtain ⟨old, before, progressed⟩ := orders k new there
        exact Or.inr ⟨k, old, before, progressed.isOpenBuy isBuy, progressed.contract ▸ instrument⟩

theorem remember_kept (idempotencyKey : String) (orderId : UUID)
    (solvent : Solvent cfg catalog s) :
    Solvent cfg catalog (s.remember idempotencyKey orderId) ∧
      Kept 0 s (s.remember idempotencyKey orderId) :=
  ⟨solvent.of_orders_eq rfl (le_refl _) (fun _ => le_refl _) solvent.positions_ok,
    Kept.of_orders_eq rfl (add_zero _).symm (le_refl _) (fun _ held => held) rfl rfl⟩

theorem cancel_kept (command : BrokerCommandIntent) (ref : OrderRef)
    (solvent : Solvent cfg catalog s) :
    Solvent cfg catalog (cancel cfg command ref s).2 ∧ Kept 0 s (cancel cfg command ref s).2 := by
  rcases cancel_cases command ref with
    same | ⟨key, item, targets, remembered | ⟨isOpen, canceled⟩⟩
  · rw [same]
    exact ⟨solvent, Kept.refl s⟩
  · rw [remembered]
    exact remember_kept _ _ solvent
  · rw [canceled]
    obtain ⟨solvent₁, kept₁⟩ := endOrder_kept solvent targets.found isOpen
    obtain ⟨solvent₂, kept₂⟩ := remember_kept command.idempotencyKey item.published.orderId solvent₁
    exact ⟨solvent₂, kept₁.trans kept₂⟩

/-! ### Submissions -/

/-- What `validateCommand` accepts is bound to the ledger and to its contract. -/
structure Bound (cfg : LedgerConfig) (command : BrokerCommandIntent) (contract : OptionContract)
    (expected : BrokerAction) : Prop where
  environment : command.environment = .demo
  namespace_ : command.namespace_ = cfg.namespace_
  action : command.action = expected
  instrument : command.instrumentId = contract.instrumentId

theorem bound_of_validateCommand {command : BrokerCommandIntent} {contract : OptionContract}
    {expected : BrokerAction}
    (valid : validateCommand cfg command contract expected s = .ok ()) :
    Bound cfg command contract expected := by
  unfold validateCommand at valid
  split at valid
  · cases valid
  next environment =>
    split at valid
    · cases valid
    next namespace_ =>
      split at valid
      · cases valid
      next action =>
        split at valid
        · cases valid
        next instrument =>
          exact ⟨not_not.mp environment, not_not.mp namespace_, not_not.mp action,
            not_not.mp instrument⟩

/-- A submission leaves the ledger alone, or records a new order for a bound command
whose idempotency key is new. -/
theorem submit_cases (D : Decimal.Context) (now : Time) (command : BrokerCommandIntent)
    (contract : OptionContract) :
    (submit D cfg now command contract s).2 = s ∨
    (Bound cfg command contract .placeOptionOrder ∧
      s.orderByIdempotency.get? command.idempotencyKey = none ∧
      submit D cfg now command contract s =
        ((.ok (recordSubmission D cfg now command contract s).1),
          (recordSubmission D cfg now command contract s).2)) := by
  unfold submit
  cases valid : validateCommand cfg command contract .placeOptionOrder s with
  | error e => exact Or.inl rfl
  | ok u =>
    cases duplicate : duplicateOrder cfg command s with
    | error e => exact Or.inl rfl
    | ok known =>
      cases known with
      | some order => exact Or.inl rfl
      | none =>
        exact Or.inr ⟨bound_of_validateCommand valid, unused_of_duplicateOrder duplicate, rfl⟩

section Admission

variable {now : Time} {command : BrokerCommandIntent} {contract : OptionContract}

theorem reasons_empty_buy (buy : command.side = .buyToOpen)
    (accepted : rejectionReasonsFor .exact cfg now command contract s = []) :
    command.limitPrice.val * command.quantity * contract.multiplier ≤ s.buyingPower .exact := by
  simp only [rejectionReasonsFor, buy, Decimal.Context.exact_mul, List.append_eq_nil_iff] at accepted
  by_contra excess
  simp [not_le.mp excess] at accepted

theorem reasons_empty_sell (sell : command.side = .sellToClose)
    (accepted : rejectionReasonsFor .exact cfg now command contract s = []) :
    command.quantity ≤ s.availablePositionQuantity contract.instrumentId := by
  simp only [rejectionReasonsFor, sell, List.append_eq_nil_iff] at accepted
  by_contra excess
  simp [not_le.mp excess] at accepted

/-- The order a submission records. -/
abbrev recordedOrder (cfg : LedgerConfig) (now : Time) (command : BrokerCommandIntent)
    (contract : OptionContract) (reasons : List String) : LedgerOrder :=
  ⟨newOrder cfg now command contract reasons, command⟩

theorem orderOk_new (bound : Bound cfg command contract .placeOptionOrder)
    (listed : catalog contract.instrumentId = contract) (reasons : List String) :
    OrderOk cfg catalog (orderIdFor cfg command) (recordedOrder cfg now command contract reasons) where
  key_eq := rfl
  contract_eq := listed
  filled_nonneg := le_refl 0
  filled_le := le_of_lt command.quantity_pos
  open_remaining := fun _ => by simpa [BrokerOrder.remaining, newOrder] using command.quantity_pos
  filled_complete := by
    intro filled
    simp only [newOrder] at filled
    split at filled <;> cases filled
  environment := rfl
  correlated := rfl
  command_environment := bound.environment
  command_namespace := bound.namespace_

/-- What a new order reserves: nothing when it is rejected, its whole notional or
its whole quantity when it is accepted. -/
theorem buyReserve_new (reasons : List String) :
    buyReserve (recordedOrder cfg now command contract reasons) =
      if reasons = [] ∧ command.side = .buyToOpen then
        command.quantity * command.limitPrice.val * contract.multiplier else 0 := by
  cases reasons with
  | nil => simp [buyReserve, newOrder, BrokerOrder.isOpenBuy, OrderState.isOpen,
      BrokerOrder.remaining]
  | cons reason rest => simp [buyReserve, newOrder, BrokerOrder.isOpenBuy, OrderState.isOpen]

theorem sellReserve_new (reasons : List String) (i : String) :
    sellReserve i (recordedOrder cfg now command contract reasons) =
      if reasons = [] ∧ command.side = .sellToClose ∧ contract.instrumentId = i then
        command.quantity else 0 := by
  cases reasons with
  | nil => simp [sellReserve, newOrder, BrokerOrder.isOpenSell, OrderState.isOpen,
      BrokerOrder.remaining]
  | cons reason rest => simp [sellReserve, newOrder, BrokerOrder.isOpenSell, OrderState.isOpen]

/-- Recording an order releases what it overwrites and reserves what it asks for. -/
theorem reservedBuyingPower_set_le (ok : OrdersOk cfg catalog s) (key : UUID)
    (item' : LedgerOrder) :
    ({ s with orders := s.orders.set key item' } : ShadowLedger).reservedBuyingPower .exact ≤
      s.reservedBuyingPower .exact + buyReserve item' := by
  simp only [reservedBuyingPower_eq, Dict.total_set, Dict.at?]
  cases old : s.orders.get? key with
  | none => simp
  | some item =>
    have released := buyReserve_nonneg (ok key item old)
    simp only [Option.elim_some]
    linarith

theorem reservedQuantity_set_le (ok : OrdersOk cfg catalog s) (key : UUID) (item' : LedgerOrder)
    (i : String) :
    ({ s with orders := s.orders.set key item' } : ShadowLedger).reservedQuantity i ≤
      s.reservedQuantity i + sellReserve i item' := by
  simp only [reservedQuantity_eq, Dict.total_set, Dict.at?]
  cases old : s.orders.get? key with
  | none => simp
  | some item =>
    have released := sellReserve_nonneg (ok key item old) i
    simp only [Option.elim_some]
    linarith

variable (cfg now command contract s) in
theorem recordSubmission_orders (D : Decimal.Context) :
    (recordSubmission D cfg now command contract s).2.orders =
      s.orders.set (orderIdFor cfg command) (recordedOrder cfg now command contract
        (rejectionReasonsFor D cfg now command contract s)) := by
  simp only [recordSubmission]
  split
  · rfl
  · split <;> rfl

variable (cfg now command contract s) in
/-- Recording a submission writes the order and its key, and the reasons or the entries. -/
theorem recordSubmission_frame (D : Decimal.Context) :
    (recordSubmission D cfg now command contract s).2 = { s with
      orders := (recordSubmission D cfg now command contract s).2.orders
      orderByIdempotency :=
        s.orderByIdempotency.set command.idempotencyKey (orderIdFor cfg command)
      rejectionReasons := (recordSubmission D cfg now command contract s).2.rejectionReasons
      entryOrdersByDate := (recordSubmission D cfg now command contract s).2.entryOrdersByDate } := by
  simp only [recordSubmission]
  split
  · rfl
  · split <;> rfl

theorem recordSubmission_solvent (bound : Bound cfg command contract .placeOptionOrder)
    (listed : catalog contract.instrumentId = contract) (solvent : Solvent cfg catalog s) :
    Solvent cfg catalog (recordSubmission .exact cfg now command contract s).2 := by
  have orders := recordSubmission_orders cfg s now command contract .exact
  have frame := recordSubmission_frame cfg s now command contract .exact
  have cash := congrArg ShadowLedger.cash frame
  have positions := congrArg ShadowLedger.positions frame
  clear frame
  dsimp only at cash positions
  set reasons := rejectionReasonsFor .exact cfg now command contract s with why
  set s' := (recordSubmission .exact cfg now command contract s).2
  let item' := recordedOrder cfg now command contract reasons
  have buys : s'.reservedBuyingPower .exact ≤ s.reservedBuyingPower .exact + buyReserve item' := by
    calc s'.reservedBuyingPower .exact
        = ({ s with orders := s.orders.set (orderIdFor cfg command) item' } :
            ShadowLedger).reservedBuyingPower .exact := reservedBuyingPower_congr orders
      _ ≤ _ := reservedBuyingPower_set_le solvent.orders_ok _ item'
  have sells : ∀ i, s'.reservedQuantity i ≤ s.reservedQuantity i + sellReserve i item' := by
    intro i
    calc s'.reservedQuantity i
        = ({ s with orders := s.orders.set (orderIdFor cfg command) item' } :
            ShadowLedger).reservedQuantity i := reservedQuantity_congr orders i
      _ ≤ _ := reservedQuantity_set_le solvent.orders_ok _ item' i
  refine ⟨?_, ?_, ?_, ?_, ?_⟩
  · rw [cash]
    exact solvent.cash_nonneg
  · -- an accepted entry was checked against the buying power
    rw [cash]
    have new : buyReserve item' = _ := buyReserve_new reasons
    have covered := solvent.reserved_le
    split at new
    next accepted =>
      have power := reasons_empty_buy accepted.2 (why ▸ accepted.1)
      simp only [buyingPower, Decimal.Context.exact_sub] at power
      have same : command.limitPrice.val * command.quantity * contract.multiplier =
          command.quantity * command.limitPrice.val * contract.multiplier := by ring
      linarith
    · linarith
  · -- an accepted exit was checked against the unreserved position
    intro i
    have owned : s'.owned i = s.owned i := by simp only [owned, positions]
    have new : sellReserve i item' = _ := sellReserve_new reasons i
    have covered := solvent.covered i
    have sells := sells i
    rw [owned]
    split at new
    next accepted =>
      have available := reasons_empty_sell accepted.2.1 (why ▸ accepted.1)
      simp only [availablePositionQuantity, accepted.2.2] at available
      omega
    · omega
  · intro key item found
    rw [orders] at found
    exact ordersOk_set solvent.orders_ok (orderOk_new bound listed reasons) key item found
  · intro key p found
    rw [positions] at found
    exact solvent.positions_ok key p found

end Admission

theorem submit_solvent (now : Time) (command : BrokerCommandIntent) (contract : OptionContract)
    (listed : catalog contract.instrumentId = contract) (solvent : Solvent cfg catalog s) :
    Solvent cfg catalog (submit .exact cfg now command contract s).2 ∧
      (submit .exact cfg now command contract s).2.worth = s.worth + 0 := by
  rw [add_zero]
  rcases submit_cases .exact now command contract with same | ⟨bound, -, recorded⟩
  · rw [same]
    exact ⟨solvent, rfl⟩
  · rw [recorded]
    refine ⟨recordSubmission_solvent bound listed solvent, ?_⟩
    rw [recordSubmission_frame]
    rfl

/-! ### Runs -/

/-- The money an operation pays in. -/
def Op.paidIn : Op → ℚ
  | .deposit amount _ => max 0 amount
  | _ => 0

/-- The money a run pays in; a refused deposit pays nothing. -/
def paidIn (ops : List (Time × Op)) : ℚ := (ops.map fun step => step.2.paidIn).sum

/-- Every operation but a submission keeps the ledger's measures. -/
theorem perform_kept (now : Time) {op : Op} (other : ∀ command contract, op ≠ .submit command contract)
    (solvent : Solvent cfg catalog s) :
    Solvent cfg catalog (perform .exact cfg now op s).2 ∧
      Kept op.paidIn s (perform .exact cfg now op s).2 := by
  cases op with
  | deposit amount reference => exact deposit_kept now amount reference solvent
  | review ids proposal => exact review_kept now ids proposal solvent
  | submit command contract => exact absurd rfl (other command contract)
  | cancel command ref => exact cancel_kept command ref solvent
  | observeQuote ids quote => exact observeQuote_kept now ids quote solvent
  | expire onDate policy settlements => exact expire_kept now onDate policy settlements solvent

theorem perform_solvent (now : Time) (op : Op)
    (listed : ∀ c ∈ op.contract?, catalog c.instrumentId = c) (solvent : Solvent cfg catalog s) :
    Solvent cfg catalog (perform .exact cfg now op s).2 ∧
      (perform .exact cfg now op s).2.worth = s.worth + op.paidIn := by
  by_cases submission : ∃ command contract, op = .submit command contract
  · obtain ⟨command, contract, rfl⟩ := submission
    exact submit_solvent now command contract (listed contract rfl) solvent
  · have other : ∀ command contract, op ≠ .submit command contract := by
      intro command contract equal
      exact submission ⟨command, contract, equal⟩
    obtain ⟨solvent', kept⟩ := perform_kept now other solvent
    exact ⟨solvent', kept.worth_eq⟩

theorem run_invariant (ops : List (Time × Op)) (one : OneContract catalog ops) (s : ShadowLedger)
    (solvent : Solvent cfg catalog s) :
    Solvent cfg catalog (run .exact cfg ops s) ∧
      (run .exact cfg ops s).worth = s.worth + paidIn ops := by
  induction ops generalizing s with
  | nil => exact ⟨solvent, (add_zero _).symm⟩
  | cons step rest ih =>
    obtain ⟨solvent₁, worth₁⟩ :=
      perform_solvent step.1 step.2 (one step List.mem_cons_self) solvent
    obtain ⟨solvent₂, worth₂⟩ :=
      ih (fun next member => one next (List.mem_cons_of_mem _ member)) _ solvent₁
    refine ⟨solvent₂, worth₂.trans ?_⟩
    rw [worth₁, paidIn, paidIn, List.map_cons, List.sum_cons, add_assoc]

theorem fresh_solvent : Solvent cfg catalog (fresh cfg) where
  cash_nonneg := cfg.initialCash_nonneg
  reserved_le := cfg.initialCash_nonneg
  covered := fun _ => le_refl 0
  orders_ok := fun _ _ found => nomatch found
  positions_ok := fun _ _ found => nomatch found

theorem run_fresh_solvent (ops : List (Time × Op)) (one : OneContract catalog ops) :
    Solvent cfg catalog (run .exact cfg ops (fresh cfg)) :=
  (run_invariant ops one (fresh cfg) fresh_solvent).1

end Steps

/-! ### Whole runs from a fresh ledger -/

/-- Solvency. In every state a fresh ledger reaches, cash is nonnegative, the open
entries leave nonnegative buying power, and every instrument is owned at least in
the quantity its open closing orders still ask for. -/
theorem run_solvency (cfg : LedgerConfig) (catalog : String → OptionContract)
    (ops : List (Time × Op)) (one : OneContract catalog ops) :
    let s := run .exact cfg ops (fresh cfg)
    0 ≤ s.cash ∧
    s.buyingPower .exact = s.cash - ((s.orders.values.filter (·.published.isOpenBuy)).map
      fun item => (item.published.remaining : ℚ) * item.published.limitPrice *
        item.published.contract.multiplier).sum ∧
    0 ≤ s.buyingPower .exact ∧
    ∀ i, ((s.orders.values.filter (·.published.isOpenSell i)).map (·.published.remaining)).sum ≤
      ((s.positions.get? i).map Position.quantity).getD 0 := by
  intro s
  have solvent : Solvent cfg catalog s := run_fresh_solvent ops one
  refine ⟨solvent.cash_nonneg, ?_, ?_, solvent.covered⟩
  · simp only [buyingPower, reservedBuyingPower, Decimal.Context.exact_sub,
      Decimal.Context.exact_sum, Decimal.Context.exact_mul]
  · simpa only [buyingPower, Decimal.Context.exact_sub, sub_nonneg] using solvent.reserved_le

/-- A contract, a placement command and a quote, with the figures that vary. -/
def sampleContract : OptionContract where
  instrumentId := "spy-put"
  symbol := "SPY"
  optionType := .put
  strike := 500
  expiration := 900

def sampleCommand (id : Nat) (action : BrokerAction) (side : OrderSide) (quantity : ℤ)
    (limitPrice : Decimal)
    (quantity_pos : 0 < quantity := by
      first
        | exact count_pos (nat_lit 1)
        | exact count_pos (nat_lit 2)
        | exact count_pos (nat_lit 3)
        | norm_num)
    (limitPrice_pos : 0 < limitPrice.val := by
      first
        | exact Decimal.val_pos (nat_lit 150) (nat_lit 2)
        | exact Decimal.val_pos (nat_lit 100) (nat_lit 2)
        | exact Decimal.val_pos (nat_lit 200) (nat_lit 2)
        | exact Decimal.val_pos (nat_lit 1) (nat_lit 0)
        | exact Decimal.val_pos (nat_lit 2) (nat_lit 0)
        | norm_num [Decimal.val]) :
    BrokerCommandIntent where
  createdAt := 0
  commandIntentId := ⟨id⟩
  orderIntentId := ⟨id⟩
  environment := .demo
  namespace_ := "demo"
  action := action
  capabilityName := "place_option_order"
  capabilitySchemaVersion := "v1"
  capabilitySchemaHash := "schema"
  instrumentId := "spy-put"
  side := side
  quantity := quantity
  limitPrice := limitPrice
  validatedArguments := .obj []
  proposalId := ⟨id⟩
  riskDecisionId := ⟨id⟩
  approvalId := none
  quoteSnapshotId := ⟨1⟩
  brokerObservedAccountSnapshotId := none
  effectiveAccountSnapshotId := ⟨2⟩
  policyVersion := "policy"
  orderFingerprint := "fingerprint"
  idempotencyKey := "key-" ++ toString id
  quantity_pos := quantity_pos
  limitPrice_pos := limitPrice_pos

theorem five_quarters_above : (1 : ℚ) ≤ 5 / 4 := by norm_num

theorem vast_nonneg : (0 : ℚ) ≤ 100000000000000000000000000.1 := by norm_num

def sampleQuote (id : Nat) (observedAt effectiveAt : Time) (bid ask : ℚ)
    (bid_nonneg : 0 ≤ bid := by
      first
        | exact amount_nonneg (nat_lit 0)
        | exact amount_nonneg (nat_lit 1)
        | exact amount_nonneg (nat_lit 2)
        | norm_num)
    (ordered : bid ≤ ask := by
      first
        | exact amount_le (nat_lit 1) (nat_lit 2)
        | exact amount_le (nat_lit 2) (nat_lit 3)
        | with_reducible exact five_quarters_above
        | with_reducible exact vast_nonneg
        | norm_num) : OptionQuote where
  snapshotId := ⟨id⟩
  contract := sampleContract
  bid := bid
  ask := ask
  metadata := ⟨"replay", "v1", observedAt, effectiveAt, none⟩
  bid_nonneg := bid_nonneg
  ask_nonneg := le_trans bid_nonneg ordered
  valid_market := fun _ => ordered

/-- Small stand-ins for the digests: the first text of a document, and a polynomial of
the characters of a name. -/
def sampleHashing : Hashing where
  sha256Json := fun document => match document with
    | .obj ((_, .str text) :: _) => text
    | _ => ""
  uuid5 := fun _ name => ⟨name.toList.foldl (fun acc c => acc * 31 + c.toNat) 7 % 2 ^ 128⟩
  fillSeed := fun text => text.length

def sampleIds : FreshIds where
  fill := id
  position := id
  review := ⟨3⟩
  account := ⟨4⟩

def sampleConfig : LedgerConfig where
  hashing := sampleHashing
  marketDate := fun now => now / 86400000000
  initialCash := 500
  fillModel := .optimistic

/-- Buy two contracts, fill them below the limit, offer one of them for sale. -/
def sampleRun : List (Time × Op) :=
  [(10, .submit (sampleCommand 11 .placeOptionOrder .buyToOpen 2 ⟨150, -2⟩) sampleContract),
    (20, .observeQuote sampleIds (sampleQuote 5 15 15 1 (5 / 4))),
    (30, .submit (sampleCommand 12 .placeOptionOrder .sellToClose 1 ⟨2, 0⟩) sampleContract)]

theorem sampleRun_one : OneContract (fun _ => sampleContract) sampleRun := by
  intro step member c named
  simp only [sampleRun, List.mem_cons, List.not_mem_nil, or_false] at member
  rcases member with rfl | rfl | rfl <;> exact Option.mem_some.mp named

theorem run_solvency_sampleRun :
    OneContract (fun _ => sampleContract) sampleRun ∧
      (run .exact sampleConfig sampleRun (fresh sampleConfig)).cash = 250 ∧
      0 ≤ (run .exact sampleConfig sampleRun (fresh sampleConfig)).buyingPower .exact :=
  ⟨sampleRun_one, by decide +kernel,
    (run_solvency sampleConfig (fun _ => sampleContract) sampleRun sampleRun_one).2.2.1⟩

/-- A ledger of more money than 28 digits hold. -/
def vastConfig : LedgerConfig where
  hashing := sampleHashing
  marketDate := fun now => now / 86400000000
  initialCash := 10000000000000000000000000006
  fillModel := .optimistic

/-- An entry whose notional, rounded to 28 digits, is four more than the cash. -/
def vastRun : List (Time × Op) :=
  [(10, .submit (sampleCommand 11 .placeOptionOrder .buyToOpen 1 ⟨1000000000000000000000000001, -1⟩)
    sampleContract)]

/-- With the rounding of the default decimal context the buying power can turn negative. -/
theorem run_insolvent_rounded :
    OneContract (fun _ => sampleContract) vastRun ∧
      (run (.halfEven 28) vastConfig vastRun (fresh vastConfig)).buyingPower (.halfEven 28) = -4 := by
  refine ⟨?_, by decide +kernel⟩
  intro step member c named
  rw [vastRun, List.mem_singleton] at member
  subst member
  exact Option.mem_some.mp named

/-- Conservation. Cash and the cost of the open positions are what was paid in and
what was realized. -/
theorem run_conservation (cfg : LedgerConfig) (catalog : String → OptionContract)
    (ops : List (Time × Op)) (one : OneContract catalog ops) :
    let s := run .exact cfg ops (fresh cfg)
    s.cash + (s.positions.values.map fun p =>
        (p.averageEntryPrice * p.quantity * p.contract.multiplier : ℚ)).sum =
      cfg.initialCash + paidIn ops + s.realizedPnl := by
  intro s
  have conserved : s.worth = (fresh cfg).worth + paidIn ops :=
    (run_invariant ops one (fresh cfg) fresh_solvent).2
  have basis : s.costBasis = (s.positions.values.map fun p =>
      (p.averageEntryPrice * p.quantity * p.contract.multiplier : ℚ)).sum := by
    simp only [costBasis, Dict.total, Dict.values, List.map_map, Function.comp_def]
  have start : (fresh cfg).worth = cfg.initialCash := by
    simp [worth, fresh, costBasis]
  rw [← basis]
  rw [start] at conserved
  simp only [worth] at conserved
  linarith

/-- One of the two contracts is sold, and the other one expires in the money. -/
def wholeRun : List (Time × Op) :=
  sampleRun ++
    [(35, .deposit 100 "top-up"),
      (40, .observeQuote sampleIds (sampleQuote 6 35 35 2 3)),
      (900 * 86400000000, .expire none .cashSettle (Dict.empty.set "spy-put" 3))]

theorem wholeRun_one : OneContract (fun _ => sampleContract) wholeRun := by
  intro step member c named
  rcases List.mem_append.mp member with early | late
  · exact sampleRun_one step early c named
  · simp only [List.mem_cons, List.not_mem_nil, or_false] at late
    rcases late with rfl | rfl | rfl
    · cases named
    · exact Option.mem_some.mp named
    · cases named

theorem run_conservation_wholeRun :
    OneContract (fun _ => sampleContract) wholeRun ∧
      paidIn wholeRun = 100 ∧
      (run .exact sampleConfig wholeRun (fresh sampleConfig)).realizedPnl = 250 ∧
      (run .exact sampleConfig wholeRun (fresh sampleConfig)).positions.values.length = 0 ∧
      (run .exact sampleConfig wholeRun (fresh sampleConfig)).cash +
        ((run .exact sampleConfig wholeRun (fresh sampleConfig)).positions.values.map fun p =>
          (p.averageEntryPrice * p.quantity * p.contract.multiplier : ℚ)).sum =
        500 + paidIn wholeRun +
          (run .exact sampleConfig wholeRun (fresh sampleConfig)).realizedPnl :=
  ⟨wholeRun_one, by decide +kernel, by decide +kernel, by decide +kernel,
    run_conservation sampleConfig (fun _ => sampleContract) wholeRun wholeRun_one⟩

/-! ### Quotes are applied whole -/

/-- In every state a fresh ledger reaches, a quote is refused with `DataInvalidError`
and changes nothing, or it is applied to the end: each order of `evaluatedBy` was put
to the fill model once and its decision carried out. No other exception occurs. -/
theorem observeQuote_whole (cfg : LedgerConfig) (catalog : String → OptionContract)
    (ops : List (Time × Op)) (one : OneContract catalog ops) (now : Time) (ids : FreshIds)
    (quote : OptionQuote) :
    let s := run .exact cfg ops (fresh cfg)
    (∃ text, observeQuote .exact cfg now ids quote s = (.error (.dataInvalid text), s)) ∨
    ∃ evaluations s', observeQuoteLog .exact cfg now ids quote s = (.ok evaluations, s') ∧
      observeQuote .exact cfg now ids quote s =
        (.ok (evaluations.filterMap Evaluation.fill), s') ∧
      List.Forall₂ (EvaluationOf cfg quote) (evaluatedBy cfg now quote s) evaluations := by
  intro s
  have solvent : Solvent cfg catalog s := run_fresh_solvent ops one
  rcases observeQuoteLog_solvent now ids quote solvent with
    ⟨text, refused⟩ | ⟨evaluations, s', applied, _, _, evaluated⟩
  · exact Or.inl ⟨text, by rw [observeQuote, refused]; rfl⟩
  · exact Or.inr ⟨evaluations, s', applied, by rw [observeQuote, applied]; rfl, evaluated⟩

theorem observeQuote_whole_sampleRun :
    OneContract (fun _ => sampleContract) sampleRun ∧
      ((∃ text, observeQuote .exact sampleConfig 40 sampleIds (sampleQuote 6 35 35 2 3)
          (run .exact sampleConfig sampleRun (fresh sampleConfig)) =
            (.error (.dataInvalid text), run .exact sampleConfig sampleRun (fresh sampleConfig))) ∨
        ∃ evaluations s', observeQuoteLog .exact sampleConfig 40 sampleIds (sampleQuote 6 35 35 2 3)
            (run .exact sampleConfig sampleRun (fresh sampleConfig)) = (.ok evaluations, s') ∧
          observeQuote .exact sampleConfig 40 sampleIds (sampleQuote 6 35 35 2 3)
            (run .exact sampleConfig sampleRun (fresh sampleConfig)) =
              (.ok (evaluations.filterMap Evaluation.fill), s') ∧
          List.Forall₂ (EvaluationOf sampleConfig (sampleQuote 6 35 35 2 3))
            (evaluatedBy sampleConfig 40 (sampleQuote 6 35 35 2 3)
              (run .exact sampleConfig sampleRun (fresh sampleConfig))) evaluations) :=
  ⟨sampleRun_one, observeQuote_whole sampleConfig (fun _ => sampleContract) sampleRun sampleRun_one
    40 sampleIds (sampleQuote 6 35 35 2 3)⟩

/-- A stale quote returns normally and evaluates no open order; and with the rounding
of the default decimal context a quote can raise after it has been recorded. -/
theorem observeQuote_partial :
    (let s := run .exact sampleConfig (sampleRun.take 1) (fresh sampleConfig)
      let log := (observeQuoteLog .exact sampleConfig 31000000 sampleIds
        (sampleQuote 5 15 15 1 (5 / 4)) s).1
      s.orders.values.map (fun item => item.published.isOpenBuy) = [true] ∧
        raised log = none ∧ log.toOption.map List.length = some 0) ∧
    (let s := run (.halfEven 28) vastConfig vastRun (fresh vastConfig)
      let outcome := observeQuote (.halfEven 28) vastConfig 20 sampleIds
        (sampleQuote 5 15 15 0 100000000000000000000000000.1) s
      raised outcome.1 = some (.safetyCritical "simulated fill would make cash negative") ∧
        s.quotes.get? "spy-put" = none ∧ outcome.2.quotes.get? "spy-put" ≠ none) := by
  decide +kernel

end ShadowLedger

end Sentry
