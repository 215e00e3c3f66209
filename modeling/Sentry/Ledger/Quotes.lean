import Sentry.Ledger.Fills

/-!
# Quotes against a solvent ledger

`Kept` is what every operation other than an admission does to the ledger, in
the terms of its whole-run properties: no money appears, no risk appears, no
instrument becomes held, orders only progress. It composes, so the fill loop of
`observe_quote` and the position loop of `expire` are each one induction.
Its parameter is the money an operation pays in, which only a deposit does.
-/
namespace Sentry

open Support

namespace ShadowLedger

/-! ### Keeping the ledger's measures -/

/-- Cash and cost basis, less what was realized. -/
def worth (s : ShadowLedger) : ℚ := s.cash + s.costBasis - s.realizedPnl

/-- An instrument is held while a position or an open entry is in it. -/
def Holds (s : ShadowLedger) (i : String) : Prop :=
  0 < s.owned i ∨ ∃ key item, s.orders.get? key = some item ∧
    item.published.isOpenBuy = true ∧ item.published.contract.instrumentId = i

/-- What may happen to a recorded order: its state and fill figures change, a
closed order stays closed and a rejection is final. -/
structure Progressed (item item' : LedgerOrder) : Prop where
  frame : item' = ⟨{ item.published with
    state := item'.published.state
    filledQuantity := item'.published.filledQuantity
    averageFillPrice := item'.published.averageFillPrice }, item.command⟩
  open_of_open : item'.published.state.isOpen = true → item.published.state.isOpen = true
  rejected_iff : item'.published.state = .rejected ↔ item.published.state = .rejected

theorem Progressed.refl (item : LedgerOrder) : Progressed item item := ⟨rfl, id, Iff.rfl⟩

theorem Progressed.trans {a b c : LedgerOrder} (first : Progressed a b) (second : Progressed b c) :
    Progressed a c := by
  refine ⟨?_, first.open_of_open ∘ second.open_of_open,
    second.rejected_iff.trans first.rejected_iff⟩
  rw [second.frame, first.frame]

theorem Progressed.isOpenBuy {item item' : LedgerOrder} (moved : Progressed item item')
    (isBuy : item'.published.isOpenBuy = true) : item.published.isOpenBuy = true := by
  simp only [BrokerOrder.isOpenBuy, Bool.and_eq_true] at isBuy ⊢
  refine ⟨moved.open_of_open isBuy.1, ?_⟩
  rw [moved.frame] at isBuy
  exact isBuy.2

theorem Progressed.contract {item item' : LedgerOrder} (moved : Progressed item item') :
    item'.published.contract = item.published.contract := by
  rw [moved.frame]

structure Kept (paid : ℚ) (s s' : ShadowLedger) : Prop where
  worth_eq : s'.worth = s.worth + paid
  risk_le : s'.openOptionRisk .exact ≤ s.openOptionRisk .exact
  holds : ∀ i, s'.Holds i → s.Holds i
  keys : s'.orders.keys = s.orders.keys
  orders : ∀ key item', s'.orders.get? key = some item' →
    ∃ item, s.orders.get? key = some item ∧ Progressed item item'
  admitted : ∀ date, s.admittedOn date ⊆ s'.admittedOn date
  fills : ∀ fill ∈ s'.fills, fill ∈ s.fills ∨ fill.orderId ∈ s.orders.keys

theorem Kept.refl (s : ShadowLedger) : Kept 0 s s :=
  ⟨(add_zero _).symm, le_refl _, fun _ held => held, rfl,
    fun _ item found => ⟨item, found, Progressed.refl item⟩, fun _ => Finset.Subset.refl _,
    fun _ old => Or.inl old⟩

theorem Kept.trans {a b c : ShadowLedger} (first : Kept 0 a b) (second : Kept 0 b c) :
    Kept 0 a c where
  worth_eq := by rw [second.worth_eq, first.worth_eq, add_zero]
  risk_le := le_trans second.risk_le first.risk_le
  holds := fun i held => first.holds i (second.holds i held)
  keys := second.keys.trans first.keys
  orders := by
    intro key item' found
    obtain ⟨middle, foundMiddle, later⟩ := second.orders key item' found
    obtain ⟨item, foundItem, earlier⟩ := first.orders key middle foundMiddle
    exact ⟨item, foundItem, earlier.trans later⟩
  admitted := fun date => (first.admitted date).trans (second.admitted date)
  fills := by
    intro fill new
    rcases second.fills fill new with old | own
    · exact first.fills fill old
    · exact Or.inr (first.keys ▸ own)

theorem Kept.progress {paid : ℚ} {s s' : ShadowLedger} (kept : Kept paid s s') {key : UUID}
    {item : LedgerOrder} (found : s.orders.get? key = some item) :
    ∃ item', s'.orders.get? key = some item' ∧ Progressed item item' := by
  have member : key ∈ s'.orders.keys := kept.keys ▸ Dict.mem_keys.mpr ⟨item, found⟩
  obtain ⟨item', found'⟩ := Dict.mem_keys.mp member
  obtain ⟨old, before, moved⟩ := kept.orders key item' found'
  cases found.symm.trans before
  exact ⟨item', found', moved⟩

/-- Overwriting a recorded order with its progress, and leaving the rest of the
book alone, progresses the whole book. -/
theorem progressed_set {s s' : ShadowLedger} {key : UUID} {item item' : LedgerOrder}
    (found : s.orders.get? key = some item) (moved : Progressed item item')
    (written : s'.orders = s.orders.set key item') :
    s'.orders.keys = s.orders.keys ∧ ∀ k new, s'.orders.get? k = some new →
      ∃ old, s.orders.get? k = some old ∧ Progressed old new := by
  constructor
  · rw [written]
    exact Dict.keys_set_of_mem (Dict.mem_keys.mpr ⟨item, found⟩)
  · intro k new there
    rw [written, Dict.get?_set] at there
    split at there
    next same =>
      subst same
      cases there
      exact ⟨item, found, moved⟩
    · exact ⟨new, there, Progressed.refl new⟩

theorem progressed_filled (D : Decimal.Context) {item : LedgerOrder} (quantity : ℤ) (price : ℚ)
    (isOpen : item.published.state.isOpen = true) :
    Progressed item ⟨filledOrder D item.published quantity price, item.command⟩ := by
  refine ⟨rfl, fun _ => isOpen, ?_⟩
  constructor
  · intro rejected
    simp only [filledOrder] at rejected
    split at rejected <;> cases rejected
  · intro rejected
    rw [rejected] at isOpen
    cases isOpen

/-- A fill keeps the ledger's measures. -/
theorem Filled.kept {key : UUID} {item : LedgerOrder} {quantity : ℤ} {price : ℚ}
    {s s' : ShadowLedger} (filled : Filled key item quantity price s s')
    (found : s.orders.get? key = some item) (own : item.published.orderId = key)
    (isOpen : item.published.state.isOpen = true) : Kept 0 s s' := by
  obtain ⟨keys, orders⟩ := progressed_set found (progressed_filled .exact quantity price isOpen)
    filled.orders
  refine ⟨?_, filled.risk_le, ?_, keys, orders, filled.admitted, ?_⟩
  · rw [add_zero]
    exact filled.conserved
  · rintro i (held | ⟨k, new, there, isBuy, instrument⟩)
    · rcases filled.owned_pos i held with before | ⟨buy, same⟩
      · exact Or.inl before
      · -- the entry itself held the instrument before it was filled
        refine Or.inr ⟨key, item, found, ?_, same⟩
        simp [BrokerOrder.isOpenBuy, isOpen, buy]
    · obtain ⟨old, before, moved⟩ := orders k new there
      exact Or.inr ⟨k, old, before, moved.isOpenBuy isBuy, moved.contract ▸ instrument⟩
  · obtain ⟨fill, ofOrder, appended⟩ := filled.fills
    intro f new
    rw [appended, List.mem_append, List.mem_singleton] at new
    rcases new with old | rfl
    · exact Or.inl old
    · exact Or.inr (Dict.mem_keys.mpr ⟨item, by rw [ofOrder, own]; exact found⟩)

/-- The same book with at least the cash and the contracts stays solvent. -/
theorem Solvent.of_orders_eq {cfg : LedgerConfig} {catalog : String → OptionContract}
    {s s' : ShadowLedger} (solvent : Solvent cfg catalog s) (orders : s'.orders = s.orders)
    (cash : s.cash ≤ s'.cash) (owned : ∀ i, s.owned i ≤ s'.owned i)
    (positions : PositionsOk catalog s') : Solvent cfg catalog s' where
  cash_nonneg := le_trans solvent.cash_nonneg cash
  reserved_le := by
    rw [reservedBuyingPower_congr orders]
    exact le_trans solvent.reserved_le cash
  covered := by
    intro i
    rw [reservedQuantity_congr orders]
    exact le_trans (solvent.covered i) (owned i)
  orders_ok := by
    intro key item found
    rw [orders] at found
    exact solvent.orders_ok key item found
  positions_ok := positions

theorem Kept.of_orders_eq {paid : ℚ} {s s' : ShadowLedger} (orders : s'.orders = s.orders)
    (worth : s'.worth = s.worth + paid) (basis : s'.costBasis ≤ s.costBasis)
    (owned : ∀ i, 0 < s'.owned i → 0 < s.owned i)
    (admitted : s'.entryOrdersByDate = s.entryOrdersByDate) (fills : s'.fills = s.fills) :
    Kept paid s s' where
  worth_eq := worth
  risk_le := by
    rw [openOptionRisk_eq, openOptionRisk_eq, reservedBuyingPower_congr orders]
    linarith
  holds := by
    rintro i (held | ordered)
    · exact Or.inl (owned i held)
    · exact Or.inr (orders ▸ ordered)
  keys := by rw [orders]
  orders := by
    intro key item found
    rw [orders] at found
    exact ⟨item, found, Progressed.refl item⟩
  admitted := by
    intro date
    simp only [admittedOn, admitted]
    exact Finset.Subset.refl _
  fills := fun fill new => Or.inl (fills ▸ new)

/-! ### The fill loop -/

section Loop

variable {cfg : LedgerConfig} {catalog : String → OptionContract} (now : Time) (ids : FreshIds)
  (quote : OptionQuote)

/-- What a decision on an order leads to: a fill of the order in the decision's quantity and at
its price, or none. -/
inductive CarriedOut (order : BrokerOrder) (decision : FillDecision) : Option Fill → Prop
  | declined (declines : decision.shouldFill = false) : CarriedOut order decision none
  | filled {fill : Fill} (fills : decision.shouldFill = true) (own : fill.orderId = order.orderId)
      (quantity : fill.quantity = decision.quantity) (price : some fill.price = decision.price) :
      CarriedOut order decision (some fill)

/-- An evaluation of an order: the model's decision on it, carried out. -/
structure EvaluationOf (cfg : LedgerConfig) (quote : OptionQuote) (order : BrokerOrder)
    (e : Evaluation) : Prop where
  orderId : e.orderId = order.orderId
  decision : e.decision = decisionOn .exact cfg quote order
  carried : CarriedOut order e.decision e.fill

/-- One iteration on a solvent ledger: an ineligible order is passed over, an
eligible one is put to the model and its decision carried out. -/
theorem considerOrder_solvent {key : UUID} {item : LedgerOrder} {s : ShadowLedger}
    (solvent : Solvent cfg catalog s) (found : s.orders.get? key = some item) :
    ∃ evaluation s', considerOrder .exact cfg now ids quote key item s = (.ok evaluation, s') ∧
      Solvent cfg catalog s' ∧ Kept 0 s s' ∧ (∀ k, k ≠ key → s'.orders.get? k = s.orders.get? k) ∧
      (if BrokerOrder.eligibleFor item.published quote then
        ∃ e, evaluation = some e ∧ EvaluationOf cfg quote item.published e
      else evaluation = none) := by
  unfold considerOrder
  by_cases eligible : BrokerOrder.eligibleFor item.published quote = true
  · have isOpen : item.published.state.isOpen = true := by
      simp only [BrokerOrder.eligibleFor, Bool.and_eq_true] at eligible
      exact eligible.1.2
    have sound : FillModel.Sound item.published item.published.remaining
        (decisionOn .exact cfg quote item.published) :=
      FillModel.evaluate_sound .exact cfg.hashing cfg.fillModel item.published quote _
    simp only [eligible, Bool.not_true, Bool.false_eq_true, if_false, if_true]
    generalize decided : decisionOn .exact cfg quote item.published = decision at sound ⊢
    rcases sound with none_ | ⟨positive, within, price, priced, limit⟩
    · -- the model declines
      have declined : decision.shouldFill = false := by simp [FillDecision.shouldFill, none_]
      simp only [declined, Bool.not_false, if_true]
      exact ⟨_, s, rfl, solvent, Kept.refl s, fun _ _ => rfl, _, rfl, rfl, decided.symm,
        .declined declined⟩
    · have fills : decision.shouldFill = true := by
        simp [FillDecision.shouldFill, positive, priced]
      obtain ⟨s', result, solvent', filled⟩ := applyFill_solvent cfg now ids quote solvent
        found isOpen positive within limit decision.deterministicSeed decision.reason
      simp only [fills, Bool.not_true, Bool.false_eq_true, if_false, priced, result]
      refine ⟨_, s', rfl, solvent',
        filled.kept found (solvent.orders_ok key item found).key_eq isOpen, ?_, _, rfl, rfl, decided.symm,
        .filled fills rfl rfl priced.symm⟩
      intro k other
      rw [filled.orders, Dict.get?_set_of_ne _ _ (Ne.symm other)]
  · simp only [Bool.not_eq_true] at eligible
    simp only [eligible, Bool.not_false, if_true, Bool.false_eq_true, if_false]
    exact ⟨none, s, rfl, solvent, Kept.refl s, fun _ _ => rfl, rfl⟩

/-- The orders among some keys that the loop puts to the fill model. -/
def eligibleAmong (quote : OptionQuote) (keys : List UUID) (s : ShadowLedger) : List BrokerOrder :=
  (keys.filterMap fun key => (s.orders.get? key).map LedgerOrder.published).filter
    (BrokerOrder.eligibleFor · quote)

/-- The loop on a solvent ledger never raises, and it evaluates exactly the
eligible orders, each as it stood when the loop began. -/
theorem considerOrders_solvent (keys : List UUID) (distinct : keys.Nodup) (s : ShadowLedger)
    (solvent : Solvent cfg catalog s) :
    ∃ evaluations s', considerOrders .exact cfg now ids quote keys s = (.ok evaluations, s') ∧
      Solvent cfg catalog s' ∧ Kept 0 s s' ∧
      List.Forall₂ (EvaluationOf cfg quote) (eligibleAmong quote keys s) evaluations := by
  induction keys generalizing s with
  | nil => exact ⟨[], s, rfl, solvent, Kept.refl s, List.Forall₂.nil⟩
  | cons key rest ih =>
    obtain ⟨absent, distinct'⟩ := List.nodup_cons.mp distinct
    cases found : s.orders.get? key with
    | none =>
      obtain ⟨evaluations, s', result, solvent', kept, evaluated⟩ := ih distinct' s solvent
      refine ⟨evaluations, s', ?_, solvent', kept, ?_⟩
      · simp only [considerOrders, found, result]
      · simpa only [eligibleAmong, List.filterMap_cons, found, Option.map_none] using evaluated
    | some item =>
      obtain ⟨evaluation, s₁, result₁, solvent₁, kept₁, others, shape⟩ :=
        considerOrder_solvent now ids quote solvent found
      obtain ⟨evaluations, s₂, result₂, solvent₂, kept₂, evaluated⟩ := ih distinct' s₁ solvent₁
      refine ⟨evaluation.toList ++ evaluations, s₂, ?_, solvent₂, kept₁.trans kept₂, ?_⟩
      · simp only [considerOrders, found, result₁, result₂]
      · -- this iteration left the orders of the others as they were
        have same : eligibleAmong quote rest s₁ = eligibleAmong quote rest s := by
          simp only [eligibleAmong]
          congr 1
          apply List.filterMap_congr
          intro k member
          rw [others k (fun equal => absent (equal ▸ member))]
        rw [same] at evaluated
        have head : eligibleAmong quote (key :: rest) s =
            [item.published].filter (BrokerOrder.eligibleFor · quote) ++
              eligibleAmong quote rest s := by
          simp only [eligibleAmong, List.filterMap_cons, found, Option.map_some,
            ← List.filter_append, List.singleton_append]
        rw [head]
        by_cases eligible : BrokerOrder.eligibleFor item.published quote = true
        · simp only [eligible, if_true] at shape
          obtain ⟨e, rfl, isEvaluation⟩ := shape
          simp only [List.filter_cons, eligible, if_true, List.filter_nil, Option.toList_some,
            List.singleton_append]
          exact List.Forall₂.cons isEvaluation evaluated
        · simp only [eligible, Bool.false_eq_true, if_false] at shape
          subst shape
          simpa only [List.filter_cons, eligible, Bool.false_eq_true, if_false, List.filter_nil,
            List.nil_append, Option.toList_none] using evaluated

/-! ### Whole quotes -/

theorem eligibleAmong_keys (s : ShadowLedger) : eligibleAmong quote s.orders.keys s =
    (s.orders.values.map LedgerOrder.published).filter (BrokerOrder.eligibleFor · quote) := by
  have lookups : ∀ e ∈ s.orders.entries, s.orders.get? e.1 = some e.2 :=
    fun e member => Dict.mem_entries.mp member
  simp only [eligibleAmong, Dict.keys, Dict.values, List.filterMap_map, List.map_map]
  congr 1
  rw [← List.filterMap_eq_map]
  apply List.filterMap_congr
  intro e member
  simp [lookups e member]

/-- The orders an accepted quote is put to: none when it repeats the latest
snapshot of its instrument or is stale, else every eligible one. -/
def evaluatedBy (cfg : LedgerConfig) (now : Time) (quote : OptionQuote) (s : ShadowLedger) :
    List BrokerOrder :=
  if s.quotes.get? quote.contract.instrumentId = some quote ∨
      now - quote.metadata.observedAt > cfg.maxQuoteAge then []
  else (s.orders.values.map LedgerOrder.published).filter (BrokerOrder.eligibleFor · quote)

theorem admitQuote_cases (s : ShadowLedger) :
    (∃ text, admitQuote now quote s = .error (.dataInvalid text)) ∨
    (admitQuote now quote s = .ok false ∧
      s.quotes.get? quote.contract.instrumentId = some quote) ∨
    (admitQuote now quote s = .ok true ∧
      s.quotes.get? quote.contract.instrumentId ≠ some quote ∧
      quote.metadata.effectiveAt ≤ now ∧ quote.metadata.observedAt ≤ now) := by
  unfold admitQuote
  split
  · exact Or.inl ⟨_, rfl⟩
  next timely =>
    have causal : quote.metadata.effectiveAt ≤ now ∧ quote.metadata.observedAt ≤ now := by
      simpa only [gt_iff_lt, not_or, not_lt] using timely
    split
    next unseen => exact Or.inr (Or.inr ⟨rfl, by simp [unseen], causal⟩)
    next prior seen =>
      split
      next sameId =>
        split
        · exact Or.inl ⟨_, rfl⟩
        next same => exact Or.inr (Or.inl ⟨rfl, by rw [seen, not_not.mp same]⟩)
      next otherId =>
        split
        · exact Or.inl ⟨_, rfl⟩
        · split
          · exact Or.inl ⟨_, rfl⟩
          · refine Or.inr (Or.inr ⟨rfl, ?_, causal⟩)
            rw [seen]
            intro equal
            cases equal
            exact otherId rfl

/-- Recording a quote and marking its position moves no money. -/
theorem recordQuote_kept {s : ShadowLedger} (solvent : Solvent cfg catalog s) :
    let marked := markPosition .exact quote
      { s with quotes := s.quotes.set quote.contract.instrumentId quote }
    Solvent cfg catalog marked ∧ Kept 0 s marked := by
  intro marked
  have orders : marked.orders = s.orders := markPosition_orders _ _ _
  have owned : ∀ i, marked.owned i = s.owned i := markPosition_owned _ _ _
  have basis : marked.costBasis = s.costBasis := markPosition_costBasis _ _ _
  have cash : marked.cash = s.cash := markPosition_cash _ _ _
  have admitted : marked.entryOrdersByDate = s.entryOrdersByDate := by
    simp only [marked]
    rw [markPosition_frame]
  have fills : marked.fills = s.fills := by
    simp only [marked]
    rw [markPosition_frame]
  constructor
  · refine solvent.of_orders_eq orders (le_of_eq cash.symm) (fun i => le_of_eq (owned i).symm) ?_
    exact markPosition_positionsOk _ _ _ solvent.positions_ok
  · refine Kept.of_orders_eq orders ?_ (le_of_eq basis) (fun i held => owned i ▸ held) admitted
      fills
    simp only [worth, cash, basis, marked, markPosition_realizedPnl, add_zero]

/-- A quote is refused and nothing changes, or it is applied to the end. -/
theorem observeQuoteLog_solvent {s : ShadowLedger} (solvent : Solvent cfg catalog s) :
    (∃ text, observeQuoteLog .exact cfg now ids quote s = (.error (.dataInvalid text), s)) ∨
    ∃ evaluations s', observeQuoteLog .exact cfg now ids quote s = (.ok evaluations, s') ∧
      Solvent cfg catalog s' ∧ Kept 0 s s' ∧
      List.Forall₂ (EvaluationOf cfg quote) (evaluatedBy cfg now quote s) evaluations := by
  unfold observeQuoteLog evaluatedBy
  rcases admitQuote_cases now quote s with ⟨text, refused⟩ | ⟨repeated, seen⟩ | ⟨admitted, unseen, _⟩
  · exact Or.inl ⟨text, by rw [refused]⟩
  · refine Or.inr ⟨[], s, by rw [repeated], solvent, Kept.refl s, ?_⟩
    simp only [seen, true_or, if_true, List.Forall₂.nil]
  · right
    obtain ⟨solvent₁, kept₁⟩ := recordQuote_kept quote solvent
    rw [admitted]
    simp only [unseen, false_or]
    by_cases stale : now - quote.metadata.observedAt > cfg.maxQuoteAge
    · simp only [stale, if_true]
      exact ⟨[], _, rfl, solvent₁, kept₁, List.Forall₂.nil⟩
    · simp only [stale, if_false]
      obtain ⟨evaluations, s', result, solvent', kept, evaluated⟩ :=
        considerOrders_solvent now ids quote _ (Dict.distinct _) _ solvent₁
      refine ⟨evaluations, s', result, solvent', kept₁.trans kept, ?_⟩
      rw [← eligibleAmong_keys]
      simpa only [eligibleAmong, markPosition_orders, Dict.keys] using evaluated

theorem observeQuote_kept {s : ShadowLedger} (solvent : Solvent cfg catalog s) :
    Solvent cfg catalog (observeQuote .exact cfg now ids quote s).2 ∧
      Kept 0 s (observeQuote .exact cfg now ids quote s).2 := by
  unfold observeQuote
  rcases observeQuoteLog_solvent now ids quote solvent with
    ⟨text, refused⟩ | ⟨evaluations, s', result, solvent', kept, _⟩
  · rw [refused]
    exact ⟨solvent, Kept.refl s⟩
  · rw [result]
    exact ⟨solvent', kept⟩

end Loop

end ShadowLedger

end Sentry
