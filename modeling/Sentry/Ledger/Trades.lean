import Sentry.Ledger.Solvency

/-!
# Trades and their results

What one fill does to the result of the instrument it trades in. The ledger keeps
results at average cost: a position carries the result of its partial exits and
the cost of what is still held, and `closed_realized_pnl` collects the results of
the positions that were closed. Measured as cash, both are sums of what the fills
paid and received: `Traded` is the step lemma, and `observeQuote_trades` the rule
by which an invariant of trades is an invariant of quotes.
-/
namespace Sentry

open Support

namespace ShadowLedger

/-- What the open position in an instrument has brought in so far, less what it cost. -/
def openResult (s : ShadowLedger) (i : String) : ℚ :=
  (s.positions.get? i).elim 0 fun p =>
    p.realizedPnl - p.averageEntryPrice * p.quantity * p.contract.multiplier

/-- The entry of `closed_realized_pnl` for an instrument; no entry means zero. -/
def closedResult (s : ShadowLedger) (i : String) : ℚ := (s.closedRealizedPnl.get? i).getD 0

/-- The cash a fill of an order moves: paid for an entry, received for an exit. -/
def cashflow (order : BrokerOrder) (quantity : ℤ) (price : ℚ) : ℚ :=
  match order.side with
  | .buyToOpen => -(price * quantity * order.contract.multiplier)
  | .sellToClose => price * quantity * order.contract.multiplier

/-- The contracts a fill of an order adds to the position. -/
def inflow (order : BrokerOrder) (quantity : ℤ) : ℤ :=
  match order.side with
  | .buyToOpen => quantity
  | .sellToClose => -quantity

/-! ### Positions -/

section Results

variable {catalog : String → OptionContract} {s : ShadowLedger}

theorem openResult_of_none {i : String} (flat : s.positions.get? i = none) :
    s.openResult i = 0 := by
  simp [openResult, flat]

theorem openResult_of_some {i : String} {p : Position} (held : s.positions.get? i = some p) :
    s.openResult i = p.realizedPnl - p.averageEntryPrice * p.quantity * p.contract.multiplier := by
  simp [openResult, held]

theorem openResult_set (i j : String) (p : Position) :
    ({ s with positions := s.positions.set i p } : ShadowLedger).openResult j =
      if i = j then p.realizedPnl - p.averageEntryPrice * p.quantity * p.contract.multiplier
      else s.openResult j := by
  simp only [openResult, Dict.get?_set]
  split <;> rfl

theorem owned_nonneg (ok : PositionsOk catalog s) (i : String) : 0 ≤ s.owned i := by
  cases held : s.positions.get? i with
  | none => rw [owned_of_none held]
  | some p =>
    rw [owned_of_some held]
    exact le_of_lt (ok i p held).quantity_pos

@[simp] theorem markPosition_openResult (D : Decimal.Context) (quote : OptionQuote) (i : String) :
    (markPosition D quote s).openResult i = s.openResult i := by
  rcases markPosition_cases D quote s with same | ⟨p, held, marked⟩
  · rw [same]
  · rw [marked, openResult_set]
    split
    next equal =>
      subst equal
      rw [openResult_of_some held]
      rfl
    · rfl

/-- An entry costs what it pays, whether it opens a position or averages one. -/
theorem applyEntryPosition_openResult (now : Time) (positionId : UUID)
    (command : BrokerCommandIntent) {contract : OptionContract} (quote : OptionQuote)
    {quantity : ℤ} (price : ℚ) (ok : PositionsOk catalog s)
    (listed : catalog contract.instrumentId = contract) (positive : 0 < quantity) (j : String) :
    (applyEntryPosition .exact now positionId command contract quote quantity price s).openResult j =
      if contract.instrumentId = j then
        s.openResult j - price * quantity * contract.multiplier
      else s.openResult j := by
  unfold applyEntryPosition
  split
  next flat =>
    rw [openResult_set]
    split
    next equal =>
      subst equal
      simp [openResult_of_none flat, openedPosition]
    · rfl
  next existing held =>
    have old := ok _ existing held
    have same : existing.contract = contract := old.contract_eq.symm.trans listed
    have total : (0 : ℚ) < existing.quantity + quantity := by
      exact_mod_cast add_pos old.quantity_pos positive
    dsimp only
    rw [markPosition_openResult, openResult_set]
    split
    next equal =>
      subst equal
      rw [openResult_of_some held]
      simp only [averagedPosition, Decimal.Context.exact_add, Decimal.Context.exact_mul,
        Decimal.Context.exact_div, same, Int.cast_add]
      rw [div_mul_cancel₀ _ (ne_of_gt total)]
      ring
    · rfl

/-- An exit that leaves something books its result with the position; one that leaves
nothing moves the whole result of the position to the closed ones. -/
theorem applyExitPosition_results {contract : OptionContract} {quantity : ℤ} (price : ℚ)
    {p : Position} (ok : PositionsOk catalog s)
    (listed : catalog contract.instrumentId = contract)
    (held : s.positions.get? contract.instrumentId = some p) (covered : quantity ≤ p.quantity) :
    let s' := (applyExitPosition .exact contract quantity price s).2
    let received := price * quantity * contract.multiplier
    (∀ j, contract.instrumentId ≠ j →
      s'.openResult j = s.openResult j ∧ s'.closedResult j = s.closedResult j) ∧
    (p.quantity = quantity → s'.openResult contract.instrumentId = 0 ∧
      s'.closedResult contract.instrumentId =
        s.closedResult contract.instrumentId + (s.openResult contract.instrumentId + received)) ∧
    (p.quantity ≠ quantity →
      s'.openResult contract.instrumentId = s.openResult contract.instrumentId + received ∧
      s'.closedResult contract.instrumentId = s.closedResult contract.instrumentId) := by
  have same : p.contract = contract := (ok _ p held).contract_eq.symm.trans listed
  dsimp only
  unfold applyExitPosition
  simp only [held, gt_iff_lt, not_lt.mpr covered, if_false]
  by_cases all : p.quantity - quantity = 0
  · have whole : p.quantity = quantity := by omega
    simp only [all, if_true]
    refine ⟨?_, ?_, fun other => absurd whole other⟩
    · intro j other
      simp [openResult, closedResult, Dict.get?_erase, Dict.get?_set, other]
    · intro _
      rw [openResult_of_some held]
      simp only [openResult, closedResult, Dict.get?_erase_self, Dict.get?_set_self,
        Option.elim_none, Option.getD_some, Decimal.Context.exact_add, Decimal.Context.exact_mul,
        Decimal.Context.exact_sub, whole, same, true_and]
      ring
  · simp only [all, if_false]
    refine ⟨?_, fun whole => absurd (by omega) all, ?_⟩
    · intro j other
      simp [openResult, closedResult, Dict.get?_set, other]
    · intro _
      rw [openResult_of_some held]
      simp only [openResult, closedResult, Dict.get?_set_self, Option.elim_some,
        Decimal.Context.exact_add, Decimal.Context.exact_mul, Decimal.Context.exact_sub, same,
        Int.cast_sub, and_true]
      ring

end Results

/-! ### Trades -/

/-- Everything a fill did to the orders, the fills and the results. -/
structure Traded (key : UUID) (item : LedgerOrder) (fill : Fill) (s s' : ShadowLedger) : Prop where
  found : s.orders.get? key = some item
  orders : s'.orders = s.orders.set key (after item fill.quantity fill.price)
  keys : s'.orderByIdempotency = s.orderByIdempotency
  fills : s'.fills = s.fills ++ [fill]
  own : fill.orderId = key
  quantity_pos : 0 < fill.quantity
  price_pos : 0 < fill.price
  causal : ∀ submitted ∈ item.published.submittedAt, submitted ≤ fill.createdAt
  owned : ∀ j, s'.owned j = s.owned j +
    if item.published.contract.instrumentId = j then inflow item.published fill.quantity else 0
  covered : ∀ j, 0 ≤ s'.owned j
  others : ∀ j, item.published.contract.instrumentId ≠ j →
    s'.openResult j = s.openResult j ∧ s'.closedResult j = s.closedResult j
  /-- The trade that leaves nothing closes the position with its whole result. -/
  closing : s'.owned item.published.contract.instrumentId = 0 →
    s'.openResult item.published.contract.instrumentId = 0 ∧
    s'.closedResult item.published.contract.instrumentId =
      s.closedResult item.published.contract.instrumentId +
        (s.openResult item.published.contract.instrumentId +
          cashflow item.published fill.quantity fill.price)
  running : s'.owned item.published.contract.instrumentId ≠ 0 →
    s'.openResult item.published.contract.instrumentId =
      s.openResult item.published.contract.instrumentId +
        cashflow item.published fill.quantity fill.price ∧
    s'.closedResult item.published.contract.instrumentId =
      s.closedResult item.published.contract.instrumentId

section Trade

variable {cfg : LedgerConfig} {catalog : String → OptionContract} {now : Time} {ids : FreshIds}
  {quote : OptionQuote} {key : UUID} {item : LedgerOrder} {quantity : ℤ} {price : ℚ}
  {s s' : ShadowLedger}

/-- The money and the contracts of a fill, in the terms of `Traded`. -/
structure MovedBy (item : LedgerOrder) (quantity : ℤ) (price : ℚ) (s moved : ShadowLedger) :
    Prop where
  owned : ∀ j, moved.owned j = s.owned j +
    if item.published.contract.instrumentId = j then inflow item.published quantity else 0
  orders : moved.orders = s.orders
  keys : moved.orderByIdempotency = s.orderByIdempotency
  fills : moved.fills = s.fills
  others : ∀ j, item.published.contract.instrumentId ≠ j →
    moved.openResult j = s.openResult j ∧ moved.closedResult j = s.closedResult j
  closing : moved.owned item.published.contract.instrumentId = 0 →
    moved.openResult item.published.contract.instrumentId = 0 ∧
    moved.closedResult item.published.contract.instrumentId =
      s.closedResult item.published.contract.instrumentId +
        (s.openResult item.published.contract.instrumentId +
          cashflow item.published quantity price)
  running : moved.owned item.published.contract.instrumentId ≠ 0 →
    moved.openResult item.published.contract.instrumentId =
      s.openResult item.published.contract.instrumentId + cashflow item.published quantity price ∧
    moved.closedResult item.published.contract.instrumentId =
      s.closedResult item.published.contract.instrumentId

theorem moveFill_buy_results (solvent : Solvent cfg catalog s)
    (found : s.orders.get? key = some item) (buy : item.published.side = .buyToOpen)
    (positive : 0 < quantity) {moved : ShadowLedger}
    (result : moveFill .exact cfg now ids item quote quantity price s = (.ok (), moved)) :
    MovedBy item quantity price s moved := by
  have listed := (solvent.orders_ok key item found).contract_eq
  simp only [moveFill, buy] at result
  split at result
  · cases result
  · cases result
    let paid := { s with cash := Decimal.Context.exact.sub s.cash (Decimal.Context.exact.mul
      (Decimal.Context.exact.mul price quantity) item.published.contract.multiplier) }
    let held := applyEntryPosition .exact now (ids.position item.published.orderId) item.command
      item.published.contract quote quantity price paid
    have frame : held = { paid with positions := held.positions } :=
      applyEntryPosition_frame now _ item.command quote paid .exact
    have owned : ∀ j, held.owned j =
        if item.published.contract.instrumentId = j then s.owned j + quantity else s.owned j :=
      applyEntryPosition_owned now _ item.command quote paid .exact
    have opened : ∀ j, held.openResult j = if item.published.contract.instrumentId = j then
        s.openResult j - price * quantity * item.published.contract.multiplier
        else s.openResult j :=
      applyEntryPosition_openResult now _ item.command quote price (s := paid)
        solvent.positions_ok listed positive
    have closed : ∀ j, held.closedResult j = s.closedResult j := by
      intro j
      rw [frame]
      rfl
    have more : 0 < held.owned item.published.contract.instrumentId := by
      have before := owned_nonneg solvent.positions_ok item.published.contract.instrumentId
      rw [owned, if_pos rfl]
      omega
    refine ⟨?_, ?_, ?_, ?_, ?_, ?_, ?_⟩
    · intro j
      change held.owned j = _
      rw [owned]
      split <;> simp [inflow, buy]
    · change held.orders = _
      rw [frame]
    · change held.orderByIdempotency = _
      rw [frame]
    · change held.fills = _
      rw [frame]
    · intro j other
      refine ⟨?_, closed j⟩
      change held.openResult j = _
      rw [opened, if_neg other]
    · intro none_
      exact absurd none_ (ne_of_gt more)
    · intro _
      refine ⟨?_, closed _⟩
      change held.openResult _ = _
      rw [opened, if_pos rfl]
      simp only [cashflow, buy]
      ring

theorem moveFill_sell_results (solvent : Solvent cfg catalog s)
    (found : s.orders.get? key = some item) (sell : item.published.side = .sellToClose)
    {moved : ShadowLedger}
    (result : moveFill .exact cfg now ids item quote quantity price s = (.ok (), moved)) :
    MovedBy item quantity price s moved := by
  have listed := (solvent.orders_ok key item found).contract_eq
  simp only [moveFill, sell] at result
  cases held : s.positions.get? item.published.contract.instrumentId with
  | none =>
    simp only [applyExitPosition, held] at result
    cases result
  | some p =>
    have covered : quantity ≤ p.quantity := by
      by_contra excess
      simp only [applyExitPosition, held, gt_iff_lt, not_le.mp excess, if_true] at result
      cases result
    obtain ⟨exit_, exits, exited, -⟩ :=
      applyExitPosition_spec price solvent.positions_ok listed held covered
    obtain ⟨others, closing, running⟩ :=
      applyExitPosition_results price solvent.positions_ok listed held covered
    simp only [exits] at result others closing running
    cases result
    have whole : exit_.owned item.published.contract.instrumentId = 0 ↔ p.quantity = quantity := by
      rw [exited.owned, if_pos rfl, owned_of_some held, sub_eq_zero]
    refine ⟨?_, ?_, ?_, ?_, others, ?_, ?_⟩
    · intro j
      change exit_.owned j = _
      rw [exited.owned]
      split <;> simp [inflow, sell, sub_eq_add_neg]
    · rw [exited.frame]
    · rw [exited.frame]
    · rw [exited.frame]
    · intro none_
      have closed := closing (whole.mp none_)
      simp only [cashflow, sell]
      exact closed
    · intro some_
      have reduced := running (fun equal => some_ (whole.mpr equal))
      simp only [cashflow, sell]
      exact reduced

/-- A fill that went through is a trade. -/
theorem applyFill_traded {fill : Fill} {seed : Nat} {reason : String}
    (solvent : Solvent cfg catalog s) (solvent' : Solvent cfg catalog s')
    (found : s.orders.get? key = some item)
    (causal : ∀ submitted ∈ item.published.submittedAt, submitted ≤ now)
    (result : applyFill .exact cfg now ids key item quote quantity price seed reason s =
      (.ok fill, s')) : Traded key item fill s s' := by
  simp only [applyFill] at result
  split at result
  · cases result
  next amount =>
    split at result
    · cases result
    next paid =>
      split at result
      · cases result
      · split at result
        · cases result
        · split at result
          · cases result
          next moved moves =>
            cases result
            have positive : 0 < quantity := by omega
            have did : MovedBy item quantity price s moved := by
              cases side : item.published.side with
              | buyToOpen => exact moveFill_buy_results solvent found side positive moves
              | sellToClose => exact moveFill_sell_results solvent found side moves
            exact {
              found := found
              orders := by
                simp only [bookFill]
                rw [did.orders]
              keys := did.keys
              fills := by
                simp only [bookFill]
                rw [did.fills]
              own := (solvent.orders_ok key item found).key_eq
              quantity_pos := positive
              price_pos := not_le.mp paid
              causal := causal
              owned := did.owned
              covered := owned_nonneg solvent'.positions_ok
              others := did.others
              closing := did.closing
              running := did.running }

/-! ### Quotes as sequences of trades -/

/-- What changes nothing about orders, fills and results. -/
structure Quiet (s s' : ShadowLedger) : Prop where
  orders : s'.orders = s.orders
  keys : s'.orderByIdempotency = s.orderByIdempotency
  fills : s'.fills = s.fills
  owned : ∀ j, s'.owned j = s.owned j
  openResult : ∀ j, s'.openResult j = s.openResult j
  closedResult : ∀ j, s'.closedResult j = s.closedResult j

variable (ids) in
theorem considerOrder_traded (solvent : Solvent cfg catalog s)
    (found : s.orders.get? key = some item) (effective : quote.metadata.effectiveAt ≤ now) :
    (considerOrder .exact cfg now ids quote key item s).2 = s ∨
    ∃ fill, fill.createdAt = now ∧ Traded key item fill s (considerOrder .exact cfg now ids quote key item s).2 := by
  obtain ⟨evaluation, s', result, solvent', -⟩ :=
    considerOrder_solvent now ids quote solvent found
  rw [result]
  unfold considerOrder at result
  dsimp only at result
  split at result
  · cases result
    exact Or.inl rfl
  next eligible =>
    split at result
    · cases result
      exact Or.inl rfl
    · split at result
      · cases result
      · split at result
        · cases result
        next fill after_ filled =>
          cases result
          right
          have causal : ∀ submitted ∈ item.published.submittedAt, submitted ≤ now := by
            intro submitted there
            simp only [Bool.not_eq_true', Bool.not_eq_false, BrokerOrder.eligibleFor,
              Bool.and_eq_true, Option.mem_def.mp there, Option.any_some,
              decide_eq_true_eq] at eligible
            exact le_trans (le_of_lt eligible.2) effective
          refine ⟨fill, ?_, applyFill_traded solvent solvent' found causal filled⟩
          simp only [applyFill] at filled
          repeat' split at filled
          all_goals cases filled
          rfl

variable {J : ShadowLedger → Prop}

/-- What every trade keeps, the loop of `observe_quote` keeps. -/
theorem considerOrders_trades (effective : quote.metadata.effectiveAt ≤ now)
    (trade : ∀ {s s' key item fill}, Solvent cfg catalog s → J s → fill.createdAt = now →
      Traded key item fill s s' → J s')
    (keys : List UUID) (s : ShadowLedger) (solvent : Solvent cfg catalog s) (holds : J s) :
    J (considerOrders .exact cfg now ids quote keys s).2 := by
  induction keys generalizing s with
  | nil => exact holds
  | cons key rest ih =>
    cases found : s.orders.get? key with
    | none =>
      simp only [considerOrders, found]
      exact ih s solvent holds
    | some item =>
      obtain ⟨evaluation, s₁, result, solvent₁, -⟩ :=
        considerOrder_solvent now ids quote solvent found
      have holds₁ : J s₁ := by
        have traded := considerOrder_traded ids solvent found effective
        rw [result] at traded
        rcases traded with same | ⟨fill, stamped, traded⟩
        · have unchanged : s₁ = s := same
          rw [unchanged]
          exact holds
        · exact trade solvent holds stamped traded
      have rest_ := ih s₁ solvent₁ holds₁
      simp only [considerOrders, found, result]
      split
      next e s₂ failed => rwa [failed] at rest_
      next evaluations s₂ went => rwa [went] at rest_

/-- What every trade keeps and marking keeps, a quote keeps. -/
theorem observeQuote_trades
    (quiet : ∀ {s s'}, J s → Quiet s s' → J s')
    (trade : ∀ {s s' key item fill}, Solvent cfg catalog s → J s → fill.createdAt = now →
      Traded key item fill s s' → J s')
    (solvent : Solvent cfg catalog s) (holds : J s) :
    J (observeQuote .exact cfg now ids quote s).2 := by
  unfold observeQuote observeQuoteLog
  cases admitted : admitQuote now quote s with
  | error e => exact holds
  | ok new =>
    cases new with
    | false => exact holds
    | true =>
      have effective : quote.metadata.effectiveAt ≤ now := by
        unfold admitQuote at admitted
        split at admitted
        · cases admitted
        next past => exact not_lt.mp (fun future => past (Or.inl future))
      obtain ⟨solvent₁, -⟩ := recordQuote_kept quote solvent
      have marked : J (markPosition .exact quote
          { s with quotes := s.quotes.set quote.contract.instrumentId quote }) := by
        refine quiet holds ⟨markPosition_orders .., ?_, ?_,
          fun j => markPosition_owned _ quote _ j, fun j => markPosition_openResult _ quote j, ?_⟩
        · rw [markPosition_frame]
        · rw [markPosition_frame]
        · intro j
          rw [markPosition_frame]
          rfl
      dsimp only
      split
      · exact marked
      · exact considerOrders_trades effective trade _ _ solvent₁ marked

end Trade

/-! ### Runs of trades -/

/-- Neither a cancellation nor an expiration. -/
def Op.isPlain : Op → Bool
  | .cancel .. | .expire .. => false
  | _ => true

def Op.command? : Op → Option BrokerCommandIntent
  | .submit command _ => some command
  | _ => none

/-- The place commands of a run. -/
def placed (ops : List (Time × Op)) : List BrokerCommandIntent :=
  ops.filterMap fun step => step.2.command?

/-- A run without expirations and cancellations whose place commands have distinct intents,
told apart by the identifiers of their orders, and one contract for each instrument. -/
structure TradingRun (cfg : LedgerConfig) (catalog : String → OptionContract)
    (ops : List (Time × Op)) : Prop where
  plain : ∀ step ∈ ops, step.2.isPlain = true
  distinct : (placed ops).Pairwise fun a b => a.orderIntentId ≠ b.orderIntentId
  apart : ∀ a ∈ placed ops, ∀ b ∈ placed ops,
    orderIdFor cfg a = orderIdFor cfg b → a.orderIntentId = b.orderIntentId
  one : OneContract catalog ops

section Runs

variable {cfg : LedgerConfig} {catalog : String → OptionContract}

theorem placed_append (xs ys : List (Time × Op)) : placed (xs ++ ys) = placed xs ++ placed ys :=
  List.filterMap_append

theorem TradingRun.of_append {xs ys : List (Time × Op)} (trading : TradingRun cfg catalog (xs ++ ys)) :
    TradingRun cfg catalog xs where
  plain := fun step member => trading.plain step (List.mem_append_left _ member)
  distinct := by
    have distinct := trading.distinct
    rw [placed_append] at distinct
    exact (List.pairwise_append.mp distinct).1
  apart := by
    intro a inA b inB
    apply trading.apart a _ b _
    · rw [placed_append]
      exact List.mem_append_left _ inA
    · rw [placed_append]
      exact List.mem_append_left _ inB
  one := fun step member => trading.one step (List.mem_append_left _ member)

theorem run_append {D : Decimal.Context} (xs ys : List (Time × Op)) (s : ShadowLedger) :
    run D cfg (xs ++ ys) s = run D cfg ys (run D cfg xs s) :=
  List.foldl_append ..

/-- Every order of a ledger was placed by a command of its run. -/
theorem run_orders_placed (ops : List (Time × Op)) (one : OneContract catalog ops) {key : UUID}
    (member : key ∈ (run .exact cfg ops (fresh cfg)).orders.keys) :
    ∃ command ∈ placed ops, key = orderIdFor cfg command := by
  induction ops using List.reverseRecOn with
  | nil => cases member
  | append_singleton ops step ih =>
    have one' : OneContract catalog ops :=
      fun earlier inside => one earlier (List.mem_append_left _ inside)
    have solvent : Solvent cfg catalog (run .exact cfg ops (fresh cfg)) :=
      run_fresh_solvent ops one'
    have old : key ∈ (run .exact cfg ops (fresh cfg)).orders.keys →
        ∃ command ∈ placed (ops ++ [step]), key = orderIdFor cfg command := by
      intro before
      obtain ⟨command, inside, named⟩ := ih one' before
      refine ⟨command, ?_, named⟩
      rw [placed_append]
      exact List.mem_append_left _ inside
    rw [run_append] at member
    change key ∈ (perform .exact cfg step.1 step.2 (run .exact cfg ops (fresh cfg))).2.orders.keys
      at member
    by_cases submission : ∃ command contract, step.2 = .submit command contract
    · obtain ⟨command, contract, isSubmit⟩ := submission
      rw [isSubmit] at member
      change key ∈ (submit .exact cfg step.1 command contract _).2.orders.keys at member
      rcases submit_cases .exact step.1 command contract with same | ⟨-, -, recorded⟩
      · rw [same] at member
        exact old member
      · rw [recorded, recordSubmission_orders, Dict.mem_keys_set] at member
        rcases member with new | before
        · refine ⟨command, ?_, new.symm⟩
          rw [placed_append]
          apply List.mem_append_right
          simp [placed, isSubmit, Op.command?]
        · exact old before
    · obtain ⟨-, kept⟩ := perform_kept step.1
        (fun command contract isSubmit => submission ⟨command, contract, isSubmit⟩) solvent
      rw [kept.keys] at member
      exact old member

/-- A new order in a book that is otherwise as it was. -/
structure Recorded (cfg : LedgerConfig) (command : BrokerCommandIntent) (item : LedgerOrder)
    (s s' : ShadowLedger) : Prop where
  unused : s.orders.get? (orderIdFor cfg command) = none
  orders : s'.orders = s.orders.set (orderIdFor cfg command) item
  keys : s'.orderByIdempotency =
    s.orderByIdempotency.set command.idempotencyKey (orderIdFor cfg command)
  fills : s'.fills = s.fills
  owned : ∀ j, s'.owned j = s.owned j
  openResult : ∀ j, s'.openResult j = s.openResult j
  closedResult : ∀ j, s'.closedResult j = s.closedResult j
  new : ∃ now contract reasons, item = recordedOrder cfg now command contract reasons

theorem recordSubmission_recorded {s : ShadowLedger} (now : Time) (command : BrokerCommandIntent)
    (contract : OptionContract) (unused : s.orders.get? (orderIdFor cfg command) = none) :
    Recorded cfg command (recordedOrder cfg now command contract
      (rejectionReasonsFor .exact cfg now command contract s)) s
      (recordSubmission .exact cfg now command contract s).2 := by
  have orders := recordSubmission_orders cfg s now command contract .exact
  refine ⟨unused, orders, ?_, ?_, ?_, ?_, ?_, now, contract, _, rfl⟩
  all_goals
    simp only [recordSubmission]
    split
    · try intro j
      rfl
    · split <;> first | rfl | exact fun _ => rfl

variable (cfg catalog) in
/-- The invariant rule of trading runs: what quiet changes, new orders and trades keep from a
state of the run on, holds at its end. -/
theorem run_trades {J : ShadowLedger → Prop}
    (quiet : ∀ {s s'}, J s → Quiet s s' → J s')
    (record : ∀ {s s' command item}, Solvent cfg catalog s → J s →
      Recorded cfg command item s s' → J s')
    (trade : ∀ {s s' key item fill}, Solvent cfg catalog s → J s →
      Traded key item fill s s' → J s')
    (before ops : List (Time × Op)) (trading : TradingRun cfg catalog (before ++ ops))
    (start : J (run .exact cfg before (fresh cfg))) :
    J (run .exact cfg (before ++ ops) (fresh cfg)) := by
  induction ops using List.reverseRecOn with
  | nil =>
    rw [List.append_nil]
    exact start
  | append_singleton ops step ih =>
    rw [← List.append_assoc] at trading ⊢
    have holds := ih trading.of_append
    have solvent : Solvent cfg catalog (run .exact cfg (before ++ ops) (fresh cfg)) :=
      run_fresh_solvent (before ++ ops) trading.of_append.one
    have plain := trading.plain step (List.mem_append_right _ List.mem_cons_self)
    rw [run_append]
    change J (perform .exact cfg step.1 step.2 _).2
    cases op : step.2 with
    | deposit amount reference =>
      refine quiet holds ?_
      simp only [perform, deposit]
      split <;> exact ⟨rfl, rfl, rfl, fun _ => rfl, fun _ => rfl, fun _ => rfl⟩
    | review ids proposal =>
      exact quiet holds ⟨rfl, rfl, rfl, fun _ => rfl, fun _ => rfl, fun _ => rfl⟩
    | submit command contract =>
      change J (submit .exact cfg step.1 command contract _).2
      rcases submit_cases .exact step.1 command contract with same | ⟨-, -, recorded⟩
      · rw [same]
        exact holds
      · rw [recorded]
        refine record solvent holds (recordSubmission_recorded step.1 command contract ?_)
        -- an order under the same identifier would have been placed for the same intent
        cases taken : (run .exact cfg (before ++ ops) (fresh cfg)).orders.get?
            (orderIdFor cfg command) with
        | none => rfl
        | some item =>
          obtain ⟨earlier, inside, named⟩ := run_orders_placed (before ++ ops)
            trading.of_append.one (Dict.mem_keys.mpr ⟨item, taken⟩)
          have split : placed (before ++ ops ++ [step]) = placed (before ++ ops) ++ [command] := by
            rw [placed_append]
            simp [placed, op, Op.command?]
          have distinct := trading.distinct
          rw [split, List.pairwise_append] at distinct
          have differ := distinct.2.2 earlier inside command List.mem_cons_self
          refine absurd (trading.apart earlier ?_ command ?_ named.symm) differ
          · rw [split]
            exact List.mem_append_left _ inside
          · rw [split]
            exact List.mem_append_right _ List.mem_cons_self
    | cancel command ref =>
      rw [op] at plain
      cases plain
    | observeQuote ids quote =>
      exact observeQuote_trades quiet (fun solvent holds _ traded => trade solvent holds traded)
        solvent holds
    | expire onDate policy settlements =>
      rw [op] at plain
      cases plain

end Runs

end ShadowLedger

end Sentry
