import Sentry.Learning.Outcomes
import Sentry.Ledger.Trades

/-!
# Reviews agree with the ledger

The ledger computes results fill by fill at average cost; a review replays the recorded fills
into flat-to-flat cycles and adds up what they paid and received. `Sim` relates the two after
every trade: the cycle of an instrument has the balance and the result of its position, the
outcomes add up to its closed result, and together they hold exactly its fills. From it,
`derive_agrees`: every journal of a trading run is accepted and reproduces the ledger.
-/
namespace Sentry

open Support ShadowLedger

namespace ReviewWorker

variable {w : ReviewWorker} {now : Time} {catalog : String → OptionContract}
  {orders : Dict UUID BrokerOrder} {s s' : ShadowLedger}

/-! ### One cycle -/

def bought (cycle : Cycle) : ℤ := (cycle.entries.map Fill.quantity).sum

def sold (cycle : Cycle) : ℤ := (cycle.exits.map Fill.quantity).sum

def cost (cycle : Cycle) : ℚ :=
  (cycle.entries.map (notional .exact cycle.contract.multiplier)).sum

def proceeds (cycle : Cycle) : ℚ :=
  (cycle.exits.map (notional .exact cycle.contract.multiplier)).sum

/-- A cycle that holds the fills of a position, as the ledger keeps it. -/
structure Tracks (catalog : String → OptionContract) (s : ShadowLedger) (i : String)
    (cycle : Cycle) : Prop where
  contract : cycle.contract = catalog i
  balance : cycle.balance = s.owned i
  count : cycle.balance = bought cycle - sold cycle
  result : proceeds cycle - cost cycle = s.openResult i
  known : ∀ fill ∈ cycle.fills, fill ∈ s.fills
  split : (cycle.entries ++ cycle.exits).Perm cycle.fills

/-- The sums a fill enters are the sums of the cycle and what the fill moves. -/
theorem take_spec {cycle : Cycle} {order : BrokerOrder} {fill : Fill}
    (same : cycle.contract = order.contract)
    (covered : 0 ≤ cycle.balance + inflow order fill.quantity) :
    ∃ cycle', Cycle.take cycle order.side fill = .ok cycle' ∧
      cycle'.contract = cycle.contract ∧
      cycle'.fills = cycle.fills ++ [fill] ∧
      cycle'.balance = cycle.balance + inflow order fill.quantity ∧
      bought cycle' - sold cycle' = bought cycle - sold cycle + inflow order fill.quantity ∧
      proceeds cycle' - cost cycle' =
        proceeds cycle - cost cycle + cashflow order fill.quantity fill.price ∧
      (cycle'.entries ++ cycle'.exits).Perm (cycle.entries ++ cycle.exits ++ [fill]) ∧
      (order.side = .sellToClose →
        cycle'.entries = cycle.entries ∧ cycle'.exits = cycle.exits ++ [fill]) := by
  cases side : order.side with
  | buyToOpen =>
    refine ⟨_, rfl, rfl, rfl, ?_, ?_, ?_, ?_, fun sell => nomatch sell⟩
    · simp [inflow, side]
    · simp only [bought, sold, inflow, side, List.map_append, List.sum_append, List.map_singleton,
        List.sum_singleton]
      ring
    · simp only [proceeds, cost, cashflow, side, notional, same, List.map_append, List.sum_append,
        List.map_singleton, List.sum_singleton, Decimal.Context.exact_mul]
      ring
    · simp only [List.append_assoc]
      exact List.Perm.append_left _ List.perm_append_comm
  | sellToClose =>
    have enough : ¬(fill.quantity > cycle.balance) := by
      simp only [inflow, side] at covered
      omega
    refine ⟨_, if_neg enough, rfl, rfl, ?_, ?_, ?_, ?_, fun _ => ⟨rfl, rfl⟩⟩
    · simp [inflow, side, sub_eq_add_neg]
    · simp only [bought, sold, inflow, side, List.map_append, List.sum_append, List.map_singleton,
        List.sum_singleton]
      ring
    · simp only [proceeds, cost, cashflow, side, notional, same, List.map_append, List.sum_append,
        List.map_singleton, List.sum_singleton, Decimal.Context.exact_mul]
      ring
    · simp only [List.append_assoc, List.Perm.refl]

theorem sum_pos_of_ne_nil {α M : Type} [AddCommMonoid M] [PartialOrder M]
    [IsOrderedCancelAddMonoid M] {f : α → M} {xs : List α} (some_ : xs ≠ [])
    (each : ∀ x ∈ xs, 0 < f x) : 0 < (xs.map f).sum := by
  apply List.sum_pos
  · intro y member
    obtain ⟨x, inside, rfl⟩ := List.mem_map.mp member
    exact each x inside
  · simpa using some_

theorem notional_pos (multiplier : ℤ) (positive : 0 < multiplier) {fill : Fill}
    (quantity : 0 < fill.quantity) (price : 0 < fill.price) :
    0 < notional .exact multiplier fill := by
  simp only [notional, Decimal.Context.exact_mul]
  have count : (0 : ℚ) < fill.quantity := by exact_mod_cast quantity
  have times : (0 : ℚ) < multiplier := by exact_mod_cast positive
  positivity

theorem elapsedSeconds_nonneg {elapsed : ℤ} (nonneg : 0 ≤ elapsed) :
    0 ≤ elapsedSeconds .exact elapsed := by
  simp only [elapsedSeconds, Decimal.Context.exact_add, Decimal.Context.exact_div]
  have whole : (0 : ℚ) ≤ (elapsed / 1000000 : ℤ) := by
    exact_mod_cast Int.ediv_nonneg nonneg (by norm_num)
  have rest : (0 : ℚ) ≤ (elapsed % 1000000 : ℤ) := by
    exact_mod_cast Int.emod_nonneg elapsed (by norm_num)
  positivity

theorem termsOf_ok {ids : List UUID} (known : ∀ id ∈ ids, ∃ order, orders.get? id = some order) :
    ∃ terms, termsOf orders ids = .ok terms := by
  induction ids with
  | nil => exact ⟨[], rfl⟩
  | cons id rest ih =>
    obtain ⟨order, found⟩ := known id List.mem_cons_self
    obtain ⟨terms, went⟩ := ih fun other member => known other (List.mem_cons_of_mem _ member)
    refine ⟨orderTerms order :: terms, ?_⟩
    unfold termsOf at went ⊢
    simp only [List.mapM_cons, found, went]
    rfl

variable (w now) in
/-- The outcome of a closed cycle of positive fills in time order. -/
theorem outcome_ok {cycle : Cycle} {first last : Fill} {others : List Fill}
    (entries : cycle.entries.head? = some first) (exits : cycle.exits = others ++ [last])
    (positive : ∀ fill ∈ cycle.entries ++ cycle.exits, 0 < fill.quantity ∧ 0 < fill.price)
    (ordered : first.createdAt ≤ last.createdAt)
    (known : ∀ fill ∈ cycle.fills, ∃ order, orders.get? fill.orderId = some order) :
    ∃ closed, w.outcome .exact now cycle orders = .ok closed ∧
      closed.contract = cycle.contract ∧
      closed.grossRealizedPnl = proceeds cycle - cost cycle ∧
      closed.entryFillIds = cycle.entries.map Fill.fillId ∧
      closed.exitFillIds = cycle.exits.map Fill.fillId := by
  have opened : cycle.entries ≠ [] := by
    intro none_
    rw [none_] at entries
    cases entries
  have ended : cycle.exits ≠ [] := by simp [exits]
  have lastExit : cycle.exits.getLast? = some last := by simp [exits]
  have multiplier := cycle.contract.multiplier_pos
  have entered := fun fill (member : fill ∈ cycle.entries) =>
    positive fill (List.mem_append_left _ member)
  have left := fun fill (member : fill ∈ cycle.exits) =>
    positive fill (List.mem_append_right _ member)
  have cost_pos : 0 < (cycle.entries.map (notional .exact cycle.contract.multiplier)).sum :=
    sum_pos_of_ne_nil opened fun fill member =>
      notional_pos _ multiplier (entered fill member).1 (entered fill member).2
  have proceeds_pos : 0 < (cycle.exits.map (notional .exact cycle.contract.multiplier)).sum :=
    sum_pos_of_ne_nil ended fun fill member =>
      notional_pos _ multiplier (left fill member).1 (left fill member).2
  have bought_pos : 0 < (cycle.entries.map Fill.quantity).sum :=
    sum_pos_of_ne_nil opened fun fill member => (entered fill member).1
  have sold_pos : 0 < (cycle.exits.map Fill.quantity).sum :=
    sum_pos_of_ne_nil ended fun fill member => (left fill member).1
  have hold : 0 ≤ elapsedSeconds .exact (last.createdAt - first.createdAt) :=
    elapsedSeconds_nonneg (sub_nonneg.mpr ordered)
  have known' : ∀ id ∈ (cycle.fills.map Fill.orderId).eraseDups,
      ∃ order, orders.get? id = some order := by
    intro id member
    rw [List.mem_eraseDups] at member
    obtain ⟨fill, inside, rfl⟩ := List.mem_map.mp member
    exact known fill inside
  obtain ⟨terms, collected⟩ := termsOf_ok known'
  have valid : 0 < (cycle.entries.map Fill.quantity).sum ∧ 0 < (cycle.exits.map Fill.quantity).sum ∧
      0 < (cycle.entries.map (notional .exact cycle.contract.multiplier)).sum ∧
      0 < (cycle.exits.map (notional .exact cycle.contract.multiplier)).sum ∧
      0 ≤ elapsedSeconds .exact (last.createdAt - first.createdAt) :=
    ⟨bought_pos, sold_pos, cost_pos, proceeds_pos, hold⟩
  unfold outcome
  simp only [entries, lastExit, collected, Decimal.Context.exact_sum, ne_of_gt cost_pos, if_false]
  refine ⟨_, dif_pos valid, rfl, rfl, rfl, rfl⟩

/-! ### The books of a trading run -/

/-- What the fills of an order add up to. -/
def filledBy (key : UUID) (fills : List Fill) : ℤ :=
  ((fills.filter fun fill => fill.orderId = key).map Fill.quantity).sum

theorem filledBy_append (key : UUID) (fills : List Fill) (fill : Fill) :
    filledBy key (fills ++ [fill]) =
      filledBy key fills + if fill.orderId = key then fill.quantity else 0 := by
  by_cases own : fill.orderId = key
  · simp [filledBy, own]
  · simp [filledBy, own]

/-- Orders and fills of a ledger as a trading run leaves them: the fills of an order add up to
its filled quantity, come after its submission, and the intent of an order names it. -/
structure Booked (cfg : LedgerConfig) (s : ShadowLedger) : Prop where
  totals : ∀ key item, s.orders.get? key = some item →
    filledBy key s.fills = item.published.filledQuantity
  stamped : ∀ key item, s.orders.get? key = some item →
    item.published.submittedAt = some item.published.createdAt
  named : ∀ key item, s.orders.get? key = some item →
    key = cfg.hashing.uuid5 NAMESPACE_URL ("options-sentinel:" ++ item.published.intentId.str)
  known : ∀ fill ∈ s.fills, ∃ item, s.orders.get? fill.orderId = some item ∧
    item.published.createdAt ≤ fill.createdAt
  positive : ∀ fill ∈ s.fills, 0 < fill.quantity ∧ 0 < fill.price

theorem Booked.quiet {cfg : LedgerConfig} (booked : Booked cfg s) (quiet : Quiet s s') :
    Booked cfg s' := by
  constructor
  · rw [quiet.orders, quiet.fills]
    exact booked.totals
  · rw [quiet.orders]
    exact booked.stamped
  · rw [quiet.orders]
    exact booked.named
  · rw [quiet.orders, quiet.fills]
    exact booked.known
  · rw [quiet.fills]
    exact booked.positive

theorem Booked.record {cfg : LedgerConfig} {command : BrokerCommandIntent} {item : LedgerOrder}
    (booked : Booked cfg s) (recorded : Recorded cfg command item s s') :
    Booked cfg s' := by
  obtain ⟨created, contract, reasons, rfl⟩ := recorded.new
  constructor
  · intro key item' found
    rw [recorded.orders, Dict.get?_set] at found
    rw [recorded.fills]
    split at found
    next same =>
      -- a fill of the new order would belong to an order the book already had
      subst same
      cases found
      have none_ : s.fills.filter (fun fill => fill.orderId = orderIdFor cfg command) = [] := by
        rw [List.filter_eq_nil_iff]
        intro fill member own
        obtain ⟨old, there, -⟩ := booked.known fill member
        rw [of_decide_eq_true own, recorded.unused] at there
        cases there
      simp [filledBy, none_, newOrder]
    · exact booked.totals key item' found
  · intro key item' found
    rw [recorded.orders, Dict.get?_set] at found
    split at found
    · cases found
      rfl
    · exact booked.stamped key item' found
  · intro key item' found
    rw [recorded.orders, Dict.get?_set] at found
    split at found
    next same =>
      cases found
      exact same.symm
    · exact booked.named key item' found
  · intro fill member
    rw [recorded.fills] at member
    obtain ⟨old, there, before⟩ := booked.known fill member
    refine ⟨old, ?_, before⟩
    rw [recorded.orders, Dict.get?_set_of_ne, there]
    intro same
    rw [← same, recorded.unused] at there
    cases there
  · rw [recorded.fills]
    exact booked.positive

theorem Booked.trade {cfg : LedgerConfig} {key : UUID} {item : LedgerOrder} {fill : Fill}
    (booked : Booked cfg s) (traded : Traded key item fill s s') : Booked cfg s' := by
  constructor
  · intro k item' found
    rw [traded.orders, Dict.get?_set] at found
    rw [traded.fills, filledBy_append, traded.own]
    split at found
    next same =>
      subst same
      cases found
      rw [if_pos rfl, booked.totals key item traded.found]
      rfl
    next other =>
      rw [if_neg other, add_zero]
      exact booked.totals k item' found
  · intro k item' found
    rw [traded.orders, Dict.get?_set] at found
    split at found
    · cases found
      exact booked.stamped key item traded.found
    · exact booked.stamped k item' found
  · intro k item' found
    rw [traded.orders, Dict.get?_set] at found
    split at found
    next same =>
      subst same
      cases found
      exact booked.named key item traded.found
    · exact booked.named k item' found
  · intro f member
    rw [traded.fills, List.mem_append, List.mem_singleton] at member
    rw [traded.orders]
    rcases member with old | rfl
    · obtain ⟨earlier, there, before⟩ := booked.known f old
      rw [Dict.get?_set]
      split
      next same =>
        rw [← same, traded.found] at there
        cases there
        exact ⟨_, rfl, before⟩
      · exact ⟨earlier, there, before⟩
    · refine ⟨_, by rw [traded.own, Dict.get?_set_self], ?_⟩
      exact traded.causal _ (booked.stamped key item traded.found)
  · intro f member
    rw [traded.fills, List.mem_append, List.mem_singleton] at member
    rcases member with old | rfl
    · exact booked.positive f old
    · exact ⟨traded.quantity_pos, traded.price_pos⟩

/-! ### The replay follows the ledger -/

/-- Orders with the terms of those of a ledger. -/
def Covers (orders : Dict UUID BrokerOrder) (s : ShadowLedger) : Prop :=
  ∀ key item, s.orders.get? key = some item →
    ∃ order, orders.get? key = some order ∧ orderTerms order = orderTerms item.published

/-- The fills of the orders in an instrument. -/
def fillsIn (orders : Dict UUID BrokerOrder) (i : String) (fills : List Fill) : List Fill :=
  fills.filter fun fill =>
    (orders.get? fill.orderId).any fun order => order.contract.instrumentId = i

def outcomesIn (i : String) (completed : List ClosedTradeOutcome) : List ClosedTradeOutcome :=
  completed.filter fun closed => closed.contract.instrumentId = i

/-- The fills an outcome names. -/
def outcomeFillIds (closed : ClosedTradeOutcome) : List UUID :=
  closed.entryFillIds ++ closed.exitFillIds

def openFillIds (review : Review) (i : String) : List UUID :=
  (review.cycles.get? i).elim [] fun cycle => cycle.fills.map Fill.fillId

structure Sim (catalog : String → OptionContract) (orders : Dict UUID BrokerOrder)
    (s : ShadowLedger) (review : Review) : Prop where
  flat : ∀ i, review.cycles.get? i = none → s.owned i = 0 ∧ s.openResult i = 0
  running : ∀ i cycle, review.cycles.get? i = some cycle →
    Tracks catalog s i cycle ∧ 0 < cycle.balance
  closed : ∀ i, ((outcomesIn i review.completed).map ClosedTradeOutcome.grossRealizedPnl).sum =
    s.closedResult i
  parts : ∀ i, ((outcomesIn i review.completed).flatMap outcomeFillIds ++
    openFillIds review i).Perm ((fillsIn orders i s.fills).map Fill.fillId)

/-- The cycle a fill in an instrument goes to, new or under way, tracks the position. -/
theorem Sim.begun {review : Review} (sim : Sim catalog orders s review) (contract : OptionContract)
    (listed : catalog contract.instrumentId = contract) :
    Tracks catalog s contract.instrumentId
      ((review.cycles.get? contract.instrumentId).getD { contract := contract }) := by
  cases found : review.cycles.get? contract.instrumentId with
  | none =>
    obtain ⟨owned, result⟩ := sim.flat _ found
    constructor
    · exact listed.symm
    · exact owned.symm
    · rfl
    · rw [result]
      simp [proceeds, cost]
    · intro fill member
      cases member
    · exact List.Perm.refl _
  | some cycle => exact (sim.running _ cycle found).1

theorem outcomesIn_append (i : String) (completed : List ClosedTradeOutcome)
    (closed : ClosedTradeOutcome) :
    outcomesIn i (completed ++ [closed]) = outcomesIn i completed ++
      if closed.contract.instrumentId = i then [closed] else [] := by
  by_cases same : closed.contract.instrumentId = i
  · simp [outcomesIn, same]
  · simp [outcomesIn, same]

theorem fillsIn_append {fill : Fill} {order : BrokerOrder}
    (found : orders.get? fill.orderId = some order) (i : String) (fills : List Fill) :
    fillsIn orders i (fills ++ [fill]) = fillsIn orders i fills ++
      if order.contract.instrumentId = i then [fill] else [] := by
  by_cases same : order.contract.instrumentId = i
  · simp [fillsIn, found, same]
  · simp [fillsIn, found, same]

section Step

variable {cfg : LedgerConfig} {key : UUID} {item : LedgerOrder} {fill : Fill}
  {order : BrokerOrder} {review : Review}

/-- The cycle of another instrument is not touched by a trade. -/
theorem Tracks.other {j : String} {cycle : Cycle} (tracks : Tracks catalog s j cycle)
    (traded : Traded key item fill s s') (other : item.published.contract.instrumentId ≠ j) :
    Tracks catalog s' j cycle := by
  constructor
  · exact tracks.contract
  · rw [traded.owned, if_neg other, add_zero]
    exact tracks.balance
  · exact tracks.count
  · rw [(traded.others j other).1]
    exact tracks.result
  · intro f member
    rw [traded.fills]
    exact List.mem_append_left _ (tracks.known f member)
  · exact tracks.split

theorem Tracks.positive {i : String} {cycle : Cycle} (tracks : Tracks catalog s i cycle)
    (booked : Booked cfg s) : ∀ f ∈ cycle.entries ++ cycle.exits, 0 < f.quantity ∧ 0 < f.price :=
  fun f member => booked.positive f (tracks.known f (tracks.split.mem_iff.mp member))

/-- A position is only sold from what was bought before. -/
theorem Tracks.entries_ne_nil {i : String} {cycle : Cycle} (tracks : Tracks catalog s i cycle)
    (booked : Booked cfg s) (held : 0 < cycle.balance) : cycle.entries ≠ [] := by
  intro none_
  have sold_nonneg : 0 ≤ sold cycle := by
    apply List.sum_nonneg
    intro amount member
    obtain ⟨f, inside, rfl⟩ := List.mem_map.mp member
    exact le_of_lt (tracks.positive booked f (List.mem_append_right _ inside)).1
  have count := tracks.count
  simp only [bought, none_, List.map_nil, List.sum_nil] at count
  omega

/-- The cycle after the fill, measured on the ledger after the trade. -/
structure Grew (cycle cycle' : Cycle) (order : BrokerOrder) (fill : Fill) (s s' : ShadowLedger) :
    Prop where
  contract : cycle'.contract = cycle.contract
  fills : cycle'.fills = cycle.fills ++ [fill]
  balance : cycle'.balance = s'.owned order.contract.instrumentId
  count : cycle'.balance = bought cycle' - sold cycle'
  result : proceeds cycle' - cost cycle' = s.openResult order.contract.instrumentId +
    cashflow order fill.quantity fill.price
  known : ∀ f ∈ cycle'.fills, f ∈ s'.fills
  split : (cycle'.entries ++ cycle'.exits).Perm cycle'.fills
  sale : order.side = .sellToClose →
    cycle'.entries = cycle.entries ∧ cycle'.exits = cycle.exits ++ [fill]

theorem Tracks.take {cycle : Cycle}
    (tracks : Tracks catalog s order.contract.instrumentId cycle)
    (listed : catalog order.contract.instrumentId = order.contract)
    (sameContract : order.contract = item.published.contract)
    (sameSide : order.side = item.published.side) (traded : Traded key item fill s s') :
    ∃ cycle', Cycle.take cycle order.side fill = .ok cycle' ∧ Grew cycle cycle' order fill s s' := by
  have flow : inflow item.published fill.quantity = inflow order fill.quantity := by
    simp only [inflow, sameSide]
  have owned : s'.owned order.contract.instrumentId =
      s.owned order.contract.instrumentId + inflow order fill.quantity := by
    rw [traded.owned, if_pos (by rw [sameContract]), flow]
  have covered : 0 ≤ cycle.balance + inflow order fill.quantity := by
    have nonneg := traded.covered order.contract.instrumentId
    rw [tracks.balance]
    omega
  obtain ⟨cycle', took, contract, fills, balance, count, result, split, sale⟩ :=
    take_spec (tracks.contract.trans listed) covered
  refine ⟨cycle', took, contract, fills, ?_, ?_, ?_, ?_, ?_, sale⟩
  · rw [balance, tracks.balance, owned]
  · rw [balance, count, tracks.count]
  · rw [result, tracks.result]
  · intro f member
    rw [fills] at member
    rw [traded.fills]
    rcases List.mem_append.mp member with old | new
    · exact List.mem_append_left _ (tracks.known f old)
    · exact List.mem_append_right _ new
  · rw [fills]
    exact split.trans (List.Perm.append_right _ tracks.split)

/-- The trade goes on: the cycle stays under way. -/
theorem Sim.goes_on {cycle cycle' : Cycle} (sim : Sim catalog orders s review)
    (begun : (review.cycles.get? order.contract.instrumentId).getD { contract := order.contract } =
      cycle) (tracks : Tracks catalog s order.contract.instrumentId cycle)
    (found : orders.get? fill.orderId = some order)
    (sameContract : order.contract = item.published.contract)
    (sameSide : order.side = item.published.side) (traded : Traded key item fill s s')
    (grew : Grew cycle cycle' order fill s s') (running : cycle'.balance ≠ 0) :
    Sim catalog orders s'
      { review with cycles := review.cycles.set order.contract.instrumentId cycle' } := by
  have held : s'.owned item.published.contract.instrumentId ≠ 0 := by
    rw [← sameContract, ← grew.balance]
    exact running
  obtain ⟨opened, closed⟩ := traded.running held
  rw [← sameContract] at opened closed
  have flow : cashflow item.published fill.quantity fill.price =
      cashflow order fill.quantity fill.price := by
    simp only [cashflow, sameSide, sameContract]
  constructor
  · intro j none_
    simp only [Dict.get?_set] at none_
    split at none_
    · cases none_
    next other =>
      rw [sameContract] at other
      obtain ⟨owned, result⟩ := sim.flat j none_
      rw [traded.owned, if_neg other, (traded.others j other).1]
      exact ⟨by omega, result⟩
  · intro j cycle₁ there
    simp only [Dict.get?_set] at there
    split at there
    next same =>
      subst same
      cases there
      have nonneg := traded.covered order.contract.instrumentId
      rw [← grew.balance] at nonneg
      refine ⟨⟨?_, grew.balance, grew.count, ?_, grew.known, grew.split⟩, by omega⟩
      · rw [grew.contract, tracks.contract]
      · rw [grew.result, opened, flow]
    next other =>
      rw [sameContract] at other
      obtain ⟨tracks₁, positive⟩ := sim.running j cycle₁ there
      exact ⟨tracks₁.other traded other, positive⟩
  · intro j
    rw [sim.closed j]
    by_cases same : order.contract.instrumentId = j
    · subst same
      exact closed.symm
    · rw [sameContract] at same
      exact (traded.others j same).2.symm
  · intro j
    rw [traded.fills, fillsIn_append found]
    by_cases same : order.contract.instrumentId = j
    · -- the fill joins the cycle of its instrument
      subst same
      have before : openFillIds review order.contract.instrumentId = cycle.fills.map Fill.fillId := by
        subst begun
        cases there : review.cycles.get? order.contract.instrumentId <;> simp [openFillIds, there]
      have parts := sim.parts order.contract.instrumentId
      rw [before] at parts
      simp only [openFillIds, Dict.get?_set_self, Option.elim_some, grew.fills, if_true,
        List.map_append, ← List.append_assoc]
      exact List.Perm.append_right _ parts
    · have parts := sim.parts j
      simp only [openFillIds, Dict.get?_set_of_ne _ _ same, same, if_false, List.append_nil]
      exact parts

/-- The trade leaves nothing: the cycle becomes an outcome. -/
theorem Sim.closes {cycle cycle' : Cycle} {closed : ClosedTradeOutcome}
    (sim : Sim catalog orders s review)
    (begun : (review.cycles.get? order.contract.instrumentId).getD { contract := order.contract } =
      cycle) (tracks : Tracks catalog s order.contract.instrumentId cycle)
    (listed : catalog order.contract.instrumentId = order.contract)
    (found : orders.get? fill.orderId = some order)
    (sameContract : order.contract = item.published.contract)
    (sameSide : order.side = item.published.side) (traded : Traded key item fill s s')
    (grew : Grew cycle cycle' order fill s s') (ended : cycle'.balance = 0)
    (contract : closed.contract = cycle'.contract)
    (pnl : closed.grossRealizedPnl = proceeds cycle' - cost cycle')
    (entries : closed.entryFillIds = cycle'.entries.map Fill.fillId)
    (exits : closed.exitFillIds = cycle'.exits.map Fill.fillId) :
    Sim catalog orders s' {
      cycles := review.cycles.erase order.contract.instrumentId
      completed := review.completed ++ [closed] } := by
  have flat : s'.owned item.published.contract.instrumentId = 0 := by
    rw [← sameContract, ← grew.balance]
    exact ended
  obtain ⟨opened, booked⟩ := traded.closing flat
  rw [← sameContract] at flat opened booked
  have flow : cashflow item.published fill.quantity fill.price =
      cashflow order fill.quantity fill.price := by
    simp only [cashflow, sameSide, sameContract]
  have ofInstrument : closed.contract = order.contract := by
    rw [contract, grew.contract, tracks.contract, listed]
  constructor
  · intro j none_
    by_cases same : order.contract.instrumentId = j
    · subst same
      exact ⟨flat, opened⟩
    · simp only [Dict.get?_erase, same, if_false] at none_
      obtain ⟨owned, result⟩ := sim.flat j none_
      rw [sameContract] at same
      rw [traded.owned, if_neg same, (traded.others j same).1]
      exact ⟨by omega, result⟩
  · intro j cycle₁ there
    simp only [Dict.get?_erase] at there
    split at there
    · cases there
    next other =>
      rw [sameContract] at other
      obtain ⟨tracks₁, positive⟩ := sim.running j cycle₁ there
      exact ⟨tracks₁.other traded other, positive⟩
  · intro j
    rw [outcomesIn_append, ofInstrument, List.map_append, List.sum_append, sim.closed j]
    by_cases same : order.contract.instrumentId = j
    · subst same
      rw [if_pos rfl, booked, flow, ← grew.result, ← pnl]
      simp
    · rw [if_neg same]
      rw [sameContract] at same
      simp [(traded.others j same).2]
  · intro j
    rw [outcomesIn_append, ofInstrument, traded.fills, fillsIn_append found]
    by_cases same : order.contract.instrumentId = j
    · -- entries and exits of the outcome are the fills of the cycle
      subst same
      have before : openFillIds review order.contract.instrumentId = cycle.fills.map Fill.fillId := by
        subst begun
        cases there : review.cycles.get? order.contract.instrumentId <;> simp [openFillIds, there]
      have parts := sim.parts order.contract.instrumentId
      rw [before] at parts
      have own : (outcomeFillIds closed).Perm ((cycle.fills ++ [fill]).map Fill.fillId) := by
        rw [outcomeFillIds, entries, exits, ← List.map_append, ← grew.fills]
        exact grew.split.map _
      simp only [openFillIds, Dict.get?_erase_self, Option.elim_none, List.append_nil, if_true,
        List.flatMap_append, List.flatMap_singleton, List.map_append]
      rw [List.map_append] at own
      refine (List.Perm.append_left _ own).trans ?_
      rw [← List.append_assoc]
      exact List.Perm.append_right _ parts
    · have parts := sim.parts j
      simp only [openFillIds, Dict.get?_erase, same, if_false, List.append_nil]
      exact parts

variable (w now) in
/-- One fill of the replay follows the trade that made it. -/
theorem Sim.trade (sim : Sim catalog orders s review) (booked : Booked cfg s)
    (ok : OrdersOk cfg catalog s) (covers : Covers orders s') (traded : Traded key item fill s s')
    (ordered : ∀ f ∈ s.fills, f.createdAt ≤ fill.createdAt) :
    ∃ review', w.reviewFill .exact now orders review fill = .ok review' ∧
      Sim catalog orders s' review' := by
  obtain ⟨order, there, terms⟩ := covers key (after item fill.quantity fill.price)
    (by rw [traded.orders, Dict.get?_set_self])
  have found : orders.get? fill.orderId = some order := by rw [traded.own, there]
  have sameContract : order.contract = item.published.contract :=
    congrArg OrderTerms.contract terms
  have sameSide : order.side = item.published.side := congrArg OrderTerms.side terms
  have listed : catalog order.contract.instrumentId = order.contract := by
    rw [sameContract]
    exact (ok key item traded.found).contract_eq
  generalize begun : (review.cycles.get? order.contract.instrumentId).getD
    { contract := order.contract } = cycle
  have tracks : Tracks catalog s order.contract.instrumentId cycle := by
    rw [← begun]
    exact sim.begun order.contract listed
  obtain ⟨cycle', took, grew⟩ := tracks.take listed sameContract sameSide traded
  have step : w.reviewFill .exact now orders review fill =
      if cycle'.balance = 0 then do
        let closed ← w.outcome .exact now cycle' orders
        pure {
          cycles := review.cycles.erase order.contract.instrumentId
          completed := review.completed ++ [closed] }
      else pure
        { review with cycles := review.cycles.set order.contract.instrumentId cycle' } := by
    simp only [reviewFill, found, begun, took]
    rfl
  by_cases ended : cycle'.balance = 0
  · -- only a sale of all that was held brings the balance to zero
    have balance : cycle'.balance = cycle.balance + inflow order fill.quantity := by
      rw [grew.balance, tracks.balance, traded.owned, if_pos (by rw [sameContract])]
      simp only [inflow, sameSide]
    have nonneg : 0 ≤ cycle.balance := by
      cases open_ : review.cycles.get? order.contract.instrumentId with
      | none =>
        rw [tracks.balance, (sim.flat _ open_).1]
      | some under =>
        rw [open_, Option.getD_some] at begun
        subst begun
        exact le_of_lt (sim.running _ under open_).2
    have quantity := traded.quantity_pos
    have sell : order.side = .sellToClose := by
      cases side : order.side with
      | buyToOpen =>
        simp only [inflow, side] at balance
        omega
      | sellToClose => rfl
    have held : 0 < cycle.balance := by
      simp only [inflow, sell] at balance
      omega
    obtain ⟨sameEntries, exits⟩ := grew.sale sell
    obtain ⟨first, head⟩ := Option.isSome_iff_exists.mp
      (List.isSome_head?.mpr (tracks.entries_ne_nil booked held))
    have firstKnown : first ∈ s.fills := by
      apply tracks.known
      apply tracks.split.mem_iff.mp
      exact List.mem_append_left _ (List.mem_of_mem_head? head)
    have positive : ∀ f ∈ cycle'.entries ++ cycle'.exits, 0 < f.quantity ∧ 0 < f.price := by
      intro f member
      exact (booked.trade traded).positive f (grew.known f (grew.split.mem_iff.mp member))
    have known : ∀ f ∈ cycle'.fills, ∃ order, orders.get? f.orderId = some order := by
      intro f member
      obtain ⟨item₁, inBook, -⟩ := (booked.trade traded).known f (grew.known f member)
      obtain ⟨order₁, inOrders, -⟩ := covers _ item₁ inBook
      exact ⟨order₁, inOrders⟩
    obtain ⟨closed, made, contract, pnl, entryIds, exitIds⟩ := outcome_ok w now
      (sameEntries.symm ▸ head) exits positive (ordered first firstKnown) known
    refine ⟨_, ?_, sim.closes begun tracks listed found sameContract sameSide traded grew ended
      contract pnl entryIds exitIds⟩
    rw [step, if_pos ended, made]
    rfl
  · refine ⟨_, ?_, sim.goes_on begun tracks found sameContract sameSide traded grew ended⟩
    rw [step, if_neg ended]
    rfl

end Step

/-! ### Whole runs -/

/-- Whatever orders cover a ledger, its fills can be replayed with them and come out as the
ledger has it, as long as they are in time order. -/
def Follows (w : ReviewWorker) (now : Time) (catalog : String → OptionContract)
    (s : ShadowLedger) : Prop :=
  ∀ orders, Covers orders s → s.fills.Pairwise (fun a b => a.createdAt ≤ b.createdAt) →
    ∃ review, w.reviewFills .exact now orders s.fills = .ok review ∧ Sim catalog orders s review

/-- A later state of a ledger: every order is still there with its terms, filled at least as
much. -/
def Grown (s s' : ShadowLedger) : Prop :=
  ∀ key item, s.orders.get? key = some item → ∃ item', s'.orders.get? key = some item' ∧
    orderTerms item.published = orderTerms item'.published ∧
    item.published.createdAt = item'.published.createdAt ∧
    item.published.submittedAt = item'.published.submittedAt ∧
    item.published.filledQuantity ≤ item'.published.filledQuantity

theorem Grown.refl (s : ShadowLedger) : Grown s s :=
  fun _ item found => ⟨item, found, rfl, rfl, rfl, le_refl _⟩

theorem Grown.trans {a b c : ShadowLedger} (first : Grown a b) (second : Grown b c) :
    Grown a c := by
  intro key item found
  obtain ⟨item₁, found₁, terms₁, created₁, submitted₁, filled₁⟩ := first key item found
  obtain ⟨item₂, found₂, terms₂, created₂, submitted₂, filled₂⟩ := second key item₁ found₁
  exact ⟨item₂, found₂, terms₁.trans terms₂, created₁.trans created₂,
    submitted₁.trans submitted₂, le_trans filled₁ filled₂⟩

theorem Grown.quiet (quiet : Quiet s s') : Grown s s' := by
  intro key item found
  rw [← quiet.orders] at found
  exact ⟨item, found, rfl, rfl, rfl, le_refl _⟩

theorem Grown.record {cfg : LedgerConfig} {command : BrokerCommandIntent} {item : LedgerOrder}
    (recorded : Recorded cfg command item s s') : Grown s s' := by
  intro key old found
  refine ⟨old, ?_, rfl, rfl, rfl, le_refl _⟩
  rw [recorded.orders, Dict.get?_set_of_ne, found]
  intro same
  rw [← same, recorded.unused] at found
  cases found

theorem Grown.trade {key : UUID} {item : LedgerOrder} {fill : Fill}
    (traded : Traded key item fill s s') : Grown s s' := by
  intro k old found
  rw [traded.orders, Dict.get?_set]
  split
  next same =>
    rw [← same, traded.found] at found
    cases found
    refine ⟨_, rfl, rfl, rfl, rfl, ?_⟩
    have positive := traded.quantity_pos
    simp only [filledOrder]
    omega
  · exact ⟨old, found, rfl, rfl, rfl, le_refl _⟩

theorem Covers.earlier (covers : Covers orders s') (grown : Grown s s') : Covers orders s := by
  intro key item found
  obtain ⟨item', found', terms, -⟩ := grown key item found
  obtain ⟨order, there, same⟩ := covers key item' found'
  exact ⟨order, there, same.trans terms.symm⟩

theorem Sim.congr {review : Review} (sim : Sim catalog orders s review)
    (fills : s'.fills = s.fills) (owned : ∀ j, s'.owned j = s.owned j)
    (opened : ∀ j, s'.openResult j = s.openResult j)
    (closed : ∀ j, s'.closedResult j = s.closedResult j) : Sim catalog orders s' review := by
  constructor
  · intro i none_
    rw [owned, opened]
    exact sim.flat i none_
  · intro i cycle there
    obtain ⟨tracks, positive⟩ := sim.running i cycle there
    refine ⟨⟨tracks.contract, ?_, tracks.count, ?_, ?_, tracks.split⟩, positive⟩
    · rw [owned]
      exact tracks.balance
    · rw [opened]
      exact tracks.result
    · rw [fills]
      exact tracks.known
  · intro i
    rw [closed]
    exact sim.closed i
  · rw [fills]
    exact sim.parts

theorem Follows.trade {cfg : LedgerConfig} {key : UUID} {item : LedgerOrder} {fill : Fill}
    (follows : Follows w now catalog s) (booked : Booked cfg s) (ok : OrdersOk cfg catalog s)
    (traded : Traded key item fill s s') : Follows w now catalog s' := by
  intro orders covers ordered
  rw [traded.fills, List.pairwise_append] at ordered
  obtain ⟨review, went, sim⟩ := follows orders (covers.earlier (.trade traded)) ordered.1
  obtain ⟨review', step, sim'⟩ := sim.trade w now booked ok covers traded
    fun f member => ordered.2.2 f member fill List.mem_cons_self
  refine ⟨review', ?_, sim'⟩
  unfold reviewFills at went ⊢
  rw [traded.fills, List.foldlM_append, went]
  simp only [List.foldlM_cons, List.foldlM_nil]
  change (w.reviewFill .exact now orders review fill >>= pure) = _
  rw [step]
  rfl

theorem Follows.quiet (follows : Follows w now catalog s) (quiet : Quiet s s') :
    Follows w now catalog s' := by
  intro orders covers ordered
  rw [quiet.fills] at ordered ⊢
  obtain ⟨review, went, sim⟩ := follows orders (covers.earlier (.quiet quiet)) ordered
  exact ⟨review, went, sim.congr quiet.fills quiet.owned quiet.openResult quiet.closedResult⟩

theorem Follows.record {cfg : LedgerConfig} {command : BrokerCommandIntent} {item : LedgerOrder}
    (follows : Follows w now catalog s) (recorded : Recorded cfg command item s s') :
    Follows w now catalog s' := by
  intro orders covers ordered
  rw [recorded.fills] at ordered ⊢
  obtain ⟨review, went, sim⟩ := follows orders (covers.earlier (.record recorded)) ordered
  exact ⟨review, went,
    sim.congr recorded.fills recorded.owned recorded.openResult recorded.closedResult⟩

theorem booked_fresh (cfg : LedgerConfig) : Booked cfg (fresh cfg) := by
  constructor
  · intro key item found
    cases found
  · intro key item found
    cases found
  · intro key item found
    cases found
  · intro fill member
    cases member
  · intro fill member
    cases member

theorem follows_fresh (cfg : LedgerConfig) : Follows w now catalog (fresh cfg) := by
  intro orders _ _
  refine ⟨{}, rfl, ?_⟩
  constructor
  · intro i _
    exact ⟨rfl, rfl⟩
  · intro i cycle there
    cases there
  · intro i
    rfl
  · intro i
    exact List.Perm.refl _

/-- Every trading run books its fills and can be replayed. -/
theorem run_follows (w : ReviewWorker) (now : Time) {cfg : LedgerConfig} (ops : List (Time × Op))
    (trading : TradingRun cfg catalog ops) :
    Booked cfg (run .exact cfg ops (fresh cfg)) ∧
      Follows w now catalog (run .exact cfg ops (fresh cfg)) := by
  refine run_trades cfg catalog (J := fun s => Booked cfg s ∧ Follows w now catalog s) ?_ ?_ ?_
    [] ops trading ⟨booked_fresh cfg, follows_fresh cfg⟩
  · rintro s s' ⟨booked, follows⟩ quiet
    exact ⟨booked.quiet quiet, follows.quiet quiet⟩
  · rintro s s' command item - ⟨booked, follows⟩ recorded
    exact ⟨booked.record recorded, follows.record recorded⟩
  · rintro s s' key item fill solvent ⟨booked, follows⟩ traded
    exact ⟨booked.trade traded, follows.trade booked solvent.orders_ok traded⟩

/-- The orders of a trading run only grow. -/
theorem run_grown {cfg : LedgerConfig} (ops : List (Time × Op))
    (trading : TradingRun cfg catalog ops) (k : ℕ) :
    Grown (run .exact cfg (ops.take k) (fresh cfg)) (run .exact cfg ops (fresh cfg)) := by
  have split := List.take_append_drop k ops
  have later := run_trades cfg catalog
    (J := fun s => Grown (run .exact cfg (ops.take k) (fresh cfg)) s)
    (fun grown quiet => grown.trans (.quiet quiet))
    (fun _ grown recorded => grown.trans (.record recorded))
    (fun _ grown traded => grown.trans (.trade traded))
    (ops.take k) (ops.drop k) (split.symm ▸ trading) (Grown.refl _)
  rwa [split] at later

/-! ### Journals the reviewer accepts -/

/-- A row as the worker's own repository returns it. -/
def OwnRow {α : Type} (w : ReviewWorker) (createdAt : α → Time) (row : EvidenceRow α) : Prop :=
  row.environment = w.environment ∧ row.namespace_ = w.namespace_ ∧
    row.createdAt = createdAt row.payload

/-- A recorded state of an order of the ledger. -/
structure Snapshot (order : BrokerOrder) (item : LedgerOrder) : Prop where
  terms : orderTerms order = orderTerms item.published
  createdAt : order.createdAt = item.published.createdAt
  submittedAt : order.submittedAt = item.published.submittedAt

/-- Each fill once, numbered in the order in which the fills were made. -/
def Numbered (fills : List Fill) (fillRows : List (EvidenceRow Fill)) : Prop :=
  ∃ chronological, fillRows.Perm chronological ∧
    chronological.map EvidenceRow.payload = fills ∧
    chronological.Pairwise fun a b => a.appendSequence < b.appendSequence

/-- What a review at a time needs of the journal of a ledger: rows of one identifier have the
same terms and say no more of an order than its recorded fills; every order of the ledger is
there as it stands, and so is every fill, in time order. -/
structure Evidence (w : ReviewWorker) (now : Time) (s : ShadowLedger)
    (orderRows : List (EvidenceRow BrokerOrder)) (fillRows : List (EvidenceRow Fill)) : Prop where
  ownOrders : ∀ row ∈ orderRows, OwnRow w BrokerOrder.createdAt row
  ownFills : ∀ row ∈ fillRows, OwnRow w Fill.createdAt row
  environment : ∀ row ∈ orderRows, row.payload.environment = w.environment
  consistent : ∀ row ∈ orderRows, ∀ other ∈ orderRows,
    row.payload.orderId = other.payload.orderId → orderTerms row.payload = orderTerms other.payload
  bounded : ∀ row ∈ orderRows,
    row.payload.filledQuantity ≤ filledBy row.payload.orderId s.fills
  snapshots : ∀ row ∈ orderRows, ∀ item, s.orders.get? row.payload.orderId = some item →
    Snapshot row.payload item
  latest : ∀ key item, s.orders.get? key = some item → item.published.createdAt ≤ now ∧
    ∃ row ∈ orderRows, row.payload = item.published
  numbered : Numbered s.fills fillRows
  pastFills : ∀ fill ∈ s.fills, fill.createdAt ≤ now
  identified : (s.fills.map Fill.fillId).Nodup
  ordered : s.fills.Pairwise fun a b => a.createdAt ≤ b.createdAt

section Scan

variable {cfg : LedgerConfig} {orderRows : List (EvidenceRow BrokerOrder)}
  {fillRows : List (EvidenceRow Fill)}

theorem payload_own {α : Type} {named : α → Option ExecutionEnvironment} {createdAt : α → Time}
    {row : EvidenceRow α} (own : OwnRow w createdAt row)
    (environment : (named row.payload).getD w.environment = w.environment) :
    w.payload named row = .ok row.payload := by
  simp [payload, own.1, own.2.1, environment]

/-- An order the ledger does not have has no fills. -/
theorem Booked.filledBy_of_none (booked : Booked cfg s) {key : UUID}
    (missing : s.orders.get? key = none) : filledBy key s.fills = 0 := by
  have none_ : s.fills.filter (fun fill => fill.orderId = key) = [] := by
    rw [List.filter_eq_nil_iff]
    intro fill member own
    obtain ⟨item, found, -⟩ := booked.known fill member
    rw [of_decide_eq_true own, missing] at found
    cases found
  rw [filledBy, none_]
  rfl

theorem Booked.filledBy_nonneg (booked : Booked cfg s) (key : UUID) :
    0 ≤ filledBy key s.fills := by
  apply List.sum_nonneg
  intro amount member
  obtain ⟨fill, inside, rfl⟩ := List.mem_map.mp member
  exact le_of_lt (booked.positive fill (List.mem_of_mem_filter inside)).1

/-- No row claims more than its order asked for. -/
theorem Evidence.possible (evidence : Evidence w now s orderRows fillRows) (booked : Booked cfg s)
    (ok : OrdersOk cfg catalog s) {row : EvidenceRow BrokerOrder} (member : row ∈ orderRows) :
    row.payload.filledQuantity ≤ row.payload.quantity := by
  have bounded := evidence.bounded row member
  cases found : s.orders.get? row.payload.orderId with
  | none =>
    have positive := row.payload.quantity_pos
    rw [booked.filledBy_of_none found] at bounded
    omega
  | some item =>
    have amount : row.payload.quantity = item.published.quantity :=
      congrArg OrderTerms.quantity (evidence.snapshots row member item found).terms
    have within := (ok _ item found).filled_le
    rw [booked.totals _ item found] at bounded
    omega

/-- What the order rows read so far have established. -/
structure OrdersSeen (now : Time) (s : ShadowLedger) (done : List (EvidenceRow BrokerOrder))
    (seen : SeenOrders) : Prop where
  orders : ∀ key order, seen.orders.get? key = some order →
    order.orderId = key ∧ ∃ row ∈ done, row.payload = order
  filled_nonneg : ∀ key, 0 ≤ seen.filled key
  filled_le : ∀ key, seen.filled key ≤ filledBy key s.fills
  read : ∀ row ∈ done, row.payload.createdAt ≤ now → row.payload.submittedAt =
    some row.payload.createdAt → (∃ order, seen.orders.get? row.payload.orderId = some order) ∧
      row.payload.filledQuantity ≤ seen.filled row.payload.orderId

section Reading

variable {done : List (EvidenceRow BrokerOrder)} {row : EvidenceRow BrokerOrder} {seen : SeenOrders}

/-- A row of the future changes nothing and asks for nothing. -/
theorem OrdersSeen.skip (before : OrdersSeen now s done seen)
    (future : ¬(row.payload.createdAt ≤ now ∧
      row.payload.submittedAt = some row.payload.createdAt)) :
    OrdersSeen now s (done ++ [row]) seen := by
  constructor
  · intro key order there
    obtain ⟨named, earlier, inDone, same⟩ := before.orders key order there
    exact ⟨named, earlier, List.mem_append_left _ inDone, same⟩
  · exact before.filled_nonneg
  · exact before.filled_le
  · intro row₁ member₁ past sent
    rcases List.mem_append.mp member₁ with old | new
    · exact before.read row₁ old past sent
    · rw [List.mem_singleton.mp new] at past sent
      exact absurd ⟨past, sent⟩ future

/-- What is known once the order of a row was recorded. -/
def SeenOrders.record (seen : SeenOrders) (order : BrokerOrder) : SeenOrders where
  orders := seen.orders.set order.orderId order
  recordedFilled := seen.recordedFilled.set order.orderId
    (max (seen.filled order.orderId) order.filledQuantity)

theorem SeenOrders.filled_record (seen : SeenOrders) (order : BrokerOrder) (key : UUID) :
    (seen.record order).filled key =
      if order.orderId = key then max (seen.filled order.orderId) order.filledQuantity
      else seen.filled key := by
  simp only [SeenOrders.filled, record, Dict.get?_set]
  split <;> rfl

/-- A row that is read is known, and with its quantity at least. -/
theorem OrdersSeen.record (before : OrdersSeen now s done seen)
    (bounded : row.payload.filledQuantity ≤ filledBy row.payload.orderId s.fills) :
    OrdersSeen now s (done ++ [row]) (seen.record row.payload) := by
  constructor
  · intro key order there
    simp only [SeenOrders.record, Dict.get?_set] at there
    split at there
    next same =>
      cases there
      exact ⟨same, row, List.mem_append_right _ List.mem_cons_self, rfl⟩
    · obtain ⟨named, earlier, inDone, same⟩ := before.orders key order there
      exact ⟨named, earlier, List.mem_append_left _ inDone, same⟩
  · intro key
    rw [SeenOrders.filled_record]
    split
    · exact le_trans (before.filled_nonneg _) (le_max_left _ _)
    · exact before.filled_nonneg key
  · intro key
    rw [SeenOrders.filled_record]
    split
    next same => exact same ▸ max_le (before.filled_le _) bounded
    · exact before.filled_le key
  · intro row₁ member₁ past sent
    rw [SeenOrders.filled_record]
    simp only [SeenOrders.record, Dict.get?_set]
    rcases List.mem_append.mp member₁ with earlier | new
    · obtain ⟨⟨order, there⟩, recorded⟩ := before.read row₁ earlier past sent
      split
      next same =>
        rw [← same] at recorded
        exact ⟨⟨_, rfl⟩, le_trans recorded (le_max_left _ _)⟩
      · exact ⟨⟨order, there⟩, recorded⟩
    · rw [List.mem_singleton.mp new, if_pos rfl, if_pos rfl]
      exact ⟨⟨_, rfl⟩, le_max_right _ _⟩

/-- The orders that were read before have the terms of the row. -/
theorem OrdersSeen.sameTerms (before : OrdersSeen now s done seen)
    (evidence : Evidence w now s orderRows fillRows) (within : ∀ row ∈ done, row ∈ orderRows)
    (member : row ∈ orderRows) :
    (seen.orders.get? row.payload.orderId).any
      (fun previous => decide (orderTerms previous ≠ orderTerms row.payload)) = false := by
  cases there : seen.orders.get? row.payload.orderId with
  | none => rfl
  | some previous =>
    obtain ⟨named, earlier, inDone, rfl⟩ := before.orders _ previous there
    simp [evidence.consistent earlier (within earlier inDone) row member named]

end Reading

theorem scanOrders_ok (evidence : Evidence w now s orderRows fillRows) (booked : Booked cfg s)
    (ok : OrdersOk cfg catalog s) :
    ∃ seen, w.scanOrders now orderRows = .ok seen ∧ OrdersSeen now s orderRows seen := by
  apply foldlM_ok
  · constructor
    · intro key order there
      cases there
    · intro key
      exact le_refl 0
    · exact booked.filledBy_nonneg
    · intro row member
      cases member
  · intro done row rest seen split before
    have member : row ∈ orderRows := split ▸ List.mem_append_right _ List.mem_cons_self
    have own := evidence.ownOrders row member
    have read : w.payload (fun order => some order.environment) row = .ok row.payload :=
      payload_own own (evidence.environment row member)
    have possible : ¬(row.payload.filledQuantity > row.payload.quantity) :=
      not_lt.mpr (evidence.possible booked ok member)
    have sameTerms := before.sameTerms evidence
      (fun earlier inDone => split ▸ List.mem_append_left _ inDone) member
    by_cases late : row.createdAt > now ∨ row.payload.createdAt > now
    · refine ⟨seen, ?_, before.skip ?_⟩
      · simp only [scanOrder, read]
        exact if_pos late
      · rintro ⟨past, -⟩
        rw [own.2.2, or_self] at late
        exact absurd past (not_le.mpr late)
    · by_cases unsent : row.payload.submittedAt.any (fun sent => decide (sent > now)) = true
      · refine ⟨seen, ?_, before.skip ?_⟩
        · simp only [scanOrder, read]
          change (if _ then _ else _) = _
          rw [if_neg late, if_pos unsent]
          rfl
        · rintro ⟨past, sent⟩
          rw [sent] at unsent
          exact absurd past (not_le.mpr (by simpa using unsent))
      · refine ⟨seen.record row.payload, ?_, before.record (evidence.bounded row member)⟩
        simp only [scanOrder, read]
        change (if _ then _ else _) = _
        rw [if_neg late, if_neg unsent, if_neg possible, sameTerms, if_neg Bool.false_ne_true]
        rfl

/-- Every order of the ledger was read, with what it was filled in all. -/
theorem OrdersSeen.present {seen : SeenOrders} (read : OrdersSeen now s orderRows seen)
    (evidence : Evidence w now s orderRows fillRows) (booked : Booked cfg s)
    (ok : OrdersOk cfg catalog s) {key : UUID} {item : LedgerOrder}
    (found : s.orders.get? key = some item) :
    (∃ order, seen.orders.get? key = some order ∧ Snapshot order item) ∧
      item.published.filledQuantity ≤ seen.filled key := by
  obtain ⟨past, row, member, same⟩ := evidence.latest key item found
  have there := read.read row member
  rw [same, (ok key item found).key_eq] at there
  obtain ⟨⟨order, inSeen⟩, filled⟩ := there past (booked.stamped key item found)
  refine ⟨⟨order, inSeen, ?_⟩, filled⟩
  obtain ⟨named, source, inRows, rfl⟩ := read.orders key order inSeen
  exact evidence.snapshots source inRows item (named.symm ▸ found)

/-- A fill row as the replay uses it. -/
def evidence (row : EvidenceRow Fill) : Fill × ℕ := (row.payload, row.appendSequence)

theorem scanFills_ok (rows : List (EvidenceRow Fill))
    (own : ∀ row ∈ rows, OwnRow w Fill.createdAt row)
    (past : ∀ row ∈ rows, row.payload.createdAt ≤ now)
    (distinct : (rows.map fun row => row.payload.fillId).Nodup) :
    ∃ fills, w.scanFills now rows = .ok fills ∧ fills.values = rows.map evidence := by
  have scanned : ∃ fills, w.scanFills now rows = .ok fills ∧
      fills.entries = rows.map fun row => (row.payload.fillId, evidence row) := by
    apply foldlM_ok
    · rfl
    · intro done row rest fills split before
      have member : row ∈ rows := split ▸ List.mem_append_right _ List.mem_cons_self
      have inPast := past row member
      have notFuture : ¬(row.createdAt > now ∨ row.payload.createdAt > now) := by
        rw [(own row member).2.2]
        rintro (future | future) <;> exact absurd inPast (not_le.mpr future)
      have new : row.payload.fillId ∉ fills.keys := by
        rw [Dict.keys, before, List.map_map]
        intro again
        rw [split, List.map_append, List.nodup_append] at distinct
        exact distinct.2.2 _ again _ List.mem_cons_self rfl
      have missing : fills.get? row.payload.fillId = none := by
        cases there : fills.get? row.payload.fillId with
        | none => rfl
        | some known => exact absurd (Dict.mem_keys.mpr ⟨known, there⟩) new
      refine ⟨fills.set row.payload.fillId (evidence row), ?_, ?_⟩
      · have read : w.payload (fun _ => none) row = .ok row.payload :=
          payload_own (own row member) rfl
        simp only [scanFill, read]
        change (if _ then _ else _) = _
        rw [if_neg notFuture, missing]
        rfl
      · rw [Dict.entries_set_of_not_mem new, before]
        simp
  obtain ⟨fills, went, entries⟩ := scanned
  refine ⟨fills, went, ?_⟩
  rw [Dict.values, entries, List.map_map]
  rfl

/-- What the fills matched so far have established. -/
structure FillsMatched (cfg : LedgerConfig) (catalog : String → OptionContract)
    (done : List Fill) (m : Matched) : Prop where
  filled : ∀ key, m.filled key = filledBy key done
  intents : ∀ intent id, m.filledIntents.get? intent = some id →
    id = cfg.hashing.uuid5 NAMESPACE_URL ("options-sentinel:" ++ intent.str)
  contracts : ∀ i contract, m.contracts.get? i = some contract → contract = catalog i

theorem matchFills_ok (evidence : Evidence w now s orderRows fillRows) (booked : Booked cfg s)
    (ok : OrdersOk cfg catalog s) {seen : SeenOrders} (read : OrdersSeen now s orderRows seen)
    (fills : List Fill) (known : ∀ fill ∈ fills, fill ∈ s.fills) :
    ∃ m, matchFills seen.orders fills = .ok m ∧ FillsMatched cfg catalog fills m := by
  apply foldlM_ok
  · constructor
    · intro key
      rfl
    · intro intent id there
      cases there
    · intro i contract there
      cases there
  · intro done fill rest m split before
    have member : fill ∈ fills := split ▸ List.mem_append_right _ List.mem_cons_self
    obtain ⟨item, found, causal⟩ := booked.known fill (known fill member)
    obtain ⟨⟨order, there, snapshot⟩, -⟩ := read.present evidence booked ok found
    have named := (read.orders _ order there).1
    have terms := snapshot.terms
    have intentName : order.orderId = cfg.hashing.uuid5 NAMESPACE_URL
        ("options-sentinel:" ++ order.intentId.str) := by
      have ofIntent : order.intentId = item.published.intentId := congrArg OrderTerms.intentId terms
      rw [named, ofIntent]
      exact booked.named _ item found
    have listed : catalog order.contract.instrumentId = order.contract := by
      have same : order.contract = item.published.contract := congrArg OrderTerms.contract terms
      rw [same]
      exact (ok _ item found).contract_eq
    have inOrder : ¬(order.createdAt > fill.createdAt ∨
        order.submittedAt.any (fun sent => decide (sent > fill.createdAt)) = true) := by
      rw [snapshot.submittedAt, booked.stamped _ item found, snapshot.createdAt]
      simpa using causal
    have oneOrder : ¬((m.filledIntents.get? order.intentId).getD order.orderId ≠ order.orderId) := by
      cases taken : m.filledIntents.get? order.intentId with
      | none => simp
      | some id => simp [before.intents _ id taken, intentName]
    have oneContract : (m.contracts.get? order.contract.instrumentId).getD order.contract =
        order.contract := by
      cases taken : m.contracts.get? order.contract.instrumentId with
      | none => rfl
      | some contract =>
        rw [Option.getD_some, before.contracts _ contract taken, listed]
    refine ⟨{
      byOrder := m.byOrder.set order.orderId (m.filled order.orderId + fill.quantity)
      filledIntents := m.filledIntents.set order.intentId order.orderId
      contracts := m.contracts.set order.contract.instrumentId order.contract }, ?_, ?_⟩
    · simp only [matchFill, there]
      rw [if_neg inOrder, if_neg oneOrder, if_neg (not_not.mpr oneContract), oneContract]
    · constructor
      · intro key
        rw [filledBy_append, ← before.filled key]
        simp only [Matched.filled, Dict.get?_set, named]
        split
        next same => simp [same]
        · simp
      · intro intent id taken
        simp only [Dict.get?_set] at taken
        split at taken
        next same =>
          subst same
          cases taken
          exact intentName
        · exact before.intents intent id taken
      · intro i contract taken
        simp only [Dict.get?_set] at taken
        split at taken
        next same =>
          subst same
          cases taken
          exact listed.symm
        · exact before.contracts i contract taken

/-! ### The replay order -/

theorem fillOrder_iff {a b : Fill × ℕ} : fillOrder a b = true ↔
    a.1.createdAt < b.1.createdAt ∨ a.1.createdAt = b.1.createdAt ∧ a.2 ≤ b.2 :=
  decide_eq_true_iff

theorem fillOrder_trans (a b c : Fill × ℕ) (first : fillOrder a b = true)
    (second : fillOrder b c = true) : fillOrder a c = true := by
  rw [fillOrder_iff] at first second ⊢
  rcases first with before | ⟨same, earlier⟩
  · rcases second with after_ | ⟨same', -⟩
    · exact Or.inl (lt_trans before after_)
    · exact Or.inl (same' ▸ before)
  · rcases second with after_ | ⟨same', later⟩
    · exact Or.inl (same ▸ after_)
    · exact Or.inr ⟨same.trans same', le_trans earlier later⟩

theorem fillOrder_total (a b : Fill × ℕ) : (fillOrder a b || fillOrder b a) = true := by
  rw [Bool.or_eq_true, fillOrder_iff, fillOrder_iff]
  rcases lt_trichotomy a.1.createdAt b.1.createdAt with less | same | more
  · exact Or.inl (Or.inl less)
  · rcases le_total a.2 b.2 with earlier | later
    · exact Or.inl (Or.inr ⟨same, earlier⟩)
    · exact Or.inr (Or.inr ⟨same.symm, later⟩)
  · exact Or.inr (Or.inl more)

/-- Sorting by time and number puts the fills back in the order in which they were made. -/
theorem mergeSort_chronological {rows chronological : List (EvidenceRow Fill)}
    (perm : rows.Perm chronological)
    (numbered : chronological.Pairwise fun a b => a.appendSequence < b.appendSequence)
    (ordered : (chronological.map EvidenceRow.payload).Pairwise
      fun a b => a.createdAt ≤ b.createdAt) :
    ((rows.map evidence).mergeSort fillOrder).map Prod.fst =
      chronological.map EvidenceRow.payload := by
  rw [List.pairwise_map] at ordered
  have sorted : (chronological.map evidence).Pairwise fun a b => fillOrder a b = true := by
    rw [List.pairwise_map]
    refine (numbered.and ordered).imp ?_
    rintro a b ⟨less, notAfter⟩
    rw [fillOrder_iff]
    rcases lt_or_eq_of_le notAfter with before | same
    · exact Or.inl before
    · exact Or.inr ⟨same, le_of_lt less⟩
  have strict : ∀ a ∈ chronological, ∀ b ∈ chronological,
      a.appendSequence = b.appendSequence → a = b := by
    have injective := List.pairwise_iff_getElem.mp numbered
    intro a inA b inB same
    obtain ⟨i, boundI, rfl⟩ := List.getElem_of_mem inA
    obtain ⟨j, boundJ, rfl⟩ := List.getElem_of_mem inB
    rcases lt_trichotomy i j with less | equal | more
    · have := injective i j boundI boundJ less
      omega
    · subst equal
      rfl
    · have := injective j i boundJ boundI more
      omega
  have equal : (rows.map evidence).mergeSort fillOrder = chronological.map evidence := by
    refine List.Perm.eq_of_pairwise ?_ (List.pairwise_mergeSort fillOrder_trans fillOrder_total _)
      sorted ((List.mergeSort_perm _ _).trans (perm.map evidence))
    · intro a b inA inB first second
      have inA' : a ∈ chronological.map evidence :=
        (perm.map evidence).mem_iff.mp (List.mem_mergeSort.mp inA)
      obtain ⟨x, inX, rfl⟩ := List.mem_map.mp inA'
      obtain ⟨y, inY, rfl⟩ := List.mem_map.mp inB
      rw [fillOrder_iff] at first second
      have same : x.appendSequence = y.appendSequence := by
        rcases first with before | ⟨time, earlier⟩
        · rcases second with after_ | ⟨time', -⟩
          · exact absurd (lt_trans before after_) (lt_irrefl _)
          · exact absurd before (time' ▸ lt_irrefl _)
        · rcases second with after_ | ⟨-, later⟩
          · exact absurd after_ (time ▸ lt_irrefl _)
          · exact le_antisymm earlier later
      rw [strict x inX y inY same]
  rw [equal, List.map_map]
  rfl

/-- A review of such a journal derives its outcomes, and they are those of the ledger. -/
theorem derive_accepts (evidence : Evidence w now s orderRows fillRows) (booked : Booked cfg s)
    (follows : Follows w now catalog s) (ok : OrdersOk cfg catalog s) :
    ∃ outcomes orders review, w.derive .exact now orderRows fillRows = .ok outcomes ∧
      outcomes = review.completed ∧ Covers orders s ∧ Sim catalog orders s review := by
  obtain ⟨chronological, perm, recorded, numbered⟩ := evidence.numbered
  obtain ⟨seen, scannedOrders, read⟩ := scanOrders_ok evidence booked ok
  have covers : Covers seen.orders s := by
    intro key item found
    obtain ⟨⟨order, there, snapshot⟩, -⟩ := read.present evidence booked ok found
    exact ⟨order, there, snapshot.terms⟩
  have distinct : (fillRows.map fun row => row.payload.fillId).Nodup := by
    have ids : (chronological.map fun row => row.payload.fillId).Nodup := by
      have identified := evidence.identified
      rw [← recorded, List.map_map] at identified
      exact identified
    exact (perm.map _).nodup_iff.mpr ids
  have made : (fillRows.map EvidenceRow.payload).Perm s.fills := by
    rw [← recorded]
    exact perm.map EvidenceRow.payload
  have pastFills : ∀ row ∈ fillRows, row.payload.createdAt ≤ now := fun row member =>
    evidence.pastFills _ (made.mem_iff.mp (List.mem_map_of_mem member))
  obtain ⟨fills, scannedFills, values⟩ :=
    scanFills_ok fillRows evidence.ownFills pastFills distinct
  have payloads : fills.values.map Prod.fst = fillRows.map EvidenceRow.payload := by
    rw [values, List.map_map]
    rfl
  obtain ⟨m, matched, found⟩ := matchFills_ok evidence booked ok read
    (fills.values.map Prod.fst) (fun fill member => made.mem_iff.mp (payloads ▸ member))
  have reconciled : reconcile seen m = .ok () := by
    apply forM_ok
    rintro ⟨key, order⟩ member
    have there := Dict.mem_entries.mp member
    have total : m.filled key = filledBy key s.fills := by
      rw [found.filled key, payloads]
      exact ((made.filter _).map Fill.quantity).sum_eq
    obtain ⟨named, row, inRows, rfl⟩ := read.orders key order there
    have atMost := read.filled_le key
    apply if_neg
    simp only [not_or, not_not, not_lt, gt_iff_lt]
    cases inBook : s.orders.get? key with
    | none =>
      have none_ := booked.filledBy_of_none inBook
      have positive := row.payload.quantity_pos
      -- what was never filled was never recorded as filled
      have nonneg := read.filled_nonneg key
      constructor
      · omega
      · omega
    | some item =>
      have atLeast := (read.present evidence booked ok inBook).2
      have totals := booked.totals key item inBook
      have within := (ok key item inBook).filled_le
      have amount : row.payload.quantity = item.published.quantity :=
        congrArg OrderTerms.quantity (evidence.snapshots row inRows item (named ▸ inBook)).terms
      constructor
      · omega
      · omega
  -- the replay is in the order in which the ledger made the fills
  have order : (fills.values.mergeSort fillOrder).map Prod.fst = s.fills := by
    rw [values, mergeSort_chronological perm numbered (recorded ▸ evidence.ordered), recorded]
  obtain ⟨review, replayed, sim⟩ := follows seen.orders covers evidence.ordered
  refine ⟨review.completed, seen.orders, review, ?_, rfl, covers, sim⟩
  unfold derive
  simp only [scannedOrders, scannedFills, matched, reconciled, order, bind, Except.bind]
  rw [replayed]
  rfl

end Scan

/-! ### The journal of a run -/

/-- All orders and fills of a run, recorded: snapshots of orders taken at any point of the run,
among them the last one of every order, and each fill once, numbered in the order in which the
fills were made. The rows come in any order. -/
structure Journal (w : ReviewWorker) (cfg : LedgerConfig) (ops : List (Time × Op))
    (orderRows : List (EvidenceRow BrokerOrder)) (fillRows : List (EvidenceRow Fill)) : Prop where
  ownOrders : ∀ row ∈ orderRows, OwnRow w BrokerOrder.createdAt row
  ownFills : ∀ row ∈ fillRows, OwnRow w Fill.createdAt row
  snapshots : ∀ row ∈ orderRows, ∃ k key item,
    (run .exact cfg (ops.take k) (fresh cfg)).orders.get? key = some item ∧
      row.payload = item.published
  orders : ∀ key item, (run .exact cfg ops (fresh cfg)).orders.get? key = some item →
    ∃ row ∈ orderRows, row.payload = item.published
  fills : ∃ chronological, fillRows.Perm chronological ∧
    chronological.map EvidenceRow.payload = (run .exact cfg ops (fresh cfg)).fills ∧
    chronological.Pairwise fun a b => a.appendSequence < b.appendSequence

/-- A row of a journal, seen from the end of the run. -/
theorem Journal.grown {cfg : LedgerConfig} {ops : List (Time × Op)}
    {orderRows : List (EvidenceRow BrokerOrder)} {fillRows : List (EvidenceRow Fill)}
    (journal : Journal w cfg ops orderRows fillRows) (trading : TradingRun cfg catalog ops)
    {row : EvidenceRow BrokerOrder} (member : row ∈ orderRows) :
    ∃ item, (run .exact cfg ops (fresh cfg)).orders.get? row.payload.orderId = some item ∧
      Snapshot row.payload item ∧ row.payload.filledQuantity ≤ item.published.filledQuantity := by
  obtain ⟨k, key, item, found, same⟩ := journal.snapshots row member
  have one : OneContract catalog (ops.take k) :=
    fun step inside => trading.one step (List.mem_of_mem_take inside)
  have own := ((run_fresh_solvent (ops.take k) one).orders_ok key item found).key_eq
  obtain ⟨item', there, terms, created, submitted, filled⟩ := run_grown ops trading k key item found
  rw [same, own]
  exact ⟨item', there, ⟨terms, created, submitted⟩, filled⟩

/-- Reviews agree with the ledger. The journal of every trading run whose fills are in time order
is accepted, and for an instrument without an open position the outcomes add up to what the
ledger has realized on its closed positions and their cycles partition its fills. -/
theorem derive_agrees (w : ReviewWorker) (cfg : LedgerConfig) (catalog : String → OptionContract)
    (ops : List (Time × Op)) (now : Time) (orderRows : List (EvidenceRow BrokerOrder))
    (fillRows : List (EvidenceRow Fill)) (environment : w.environment = .demo)
    (trading : TradingRun cfg catalog ops) (journal : Journal w cfg ops orderRows fillRows)
    (pastOrders : ∀ row ∈ orderRows, row.payload.createdAt ≤ now)
    (pastFills : ∀ row ∈ fillRows, row.payload.createdAt ≤ now)
    (identified : ((run .exact cfg ops (fresh cfg)).fills.map Fill.fillId).Nodup)
    (ordered : (run .exact cfg ops (fresh cfg)).fills.Pairwise
      fun a b => a.createdAt ≤ b.createdAt) :
    let s := run .exact cfg ops (fresh cfg)
    ∃ outcomes, w.derive .exact now orderRows fillRows = .ok outcomes ∧
      ∀ i, s.positions.get? i = none →
        ((outcomesIn i outcomes).map ClosedTradeOutcome.grossRealizedPnl).sum =
          (s.closedRealizedPnl.get? i).getD 0 ∧
        ((outcomesIn i outcomes).flatMap outcomeFillIds).Perm
          ((s.fills.filter fun fill => (s.orders.get? fill.orderId).any fun item =>
            item.published.contract.instrumentId = i).map Fill.fillId) := by
  intro s
  have solvent : Solvent cfg catalog s := run_fresh_solvent ops trading.one
  obtain ⟨booked, follows⟩ := run_follows w now ops trading
  have evidence : Evidence w now s orderRows fillRows := by
    constructor
    · exact journal.ownOrders
    · exact journal.ownFills
    · intro row member
      obtain ⟨item, found, snapshot, -⟩ := journal.grown trading member
      rw [environment, ← (solvent.orders_ok _ item found).environment]
      exact congrArg OrderTerms.environment snapshot.terms
    · intro row member other inside same
      obtain ⟨item, found, snapshot, -⟩ := journal.grown trading member
      obtain ⟨item₁, found₁, snapshot₁, -⟩ := journal.grown trading inside
      rw [← same, found] at found₁
      cases found₁
      rw [snapshot.terms, snapshot₁.terms]
    · intro row member
      obtain ⟨item, found, -, filled⟩ := journal.grown trading member
      rw [booked.totals _ item found]
      exact filled
    · intro row member item there
      obtain ⟨item₁, found, snapshot, -⟩ := journal.grown trading member
      rw [there] at found
      cases found
      exact snapshot
    · intro key item found
      obtain ⟨row, member, same⟩ := journal.orders key item found
      exact ⟨same ▸ pastOrders row member, row, member, same⟩
    · exact journal.fills
    · intro fill made
      obtain ⟨chronological, perm, recorded, -⟩ := journal.fills
      rw [← recorded] at made
      obtain ⟨row, inside, rfl⟩ := List.mem_map.mp made
      exact pastFills row (perm.mem_iff.mpr inside)
    · exact identified
    · exact ordered
  obtain ⟨outcomes, orders, review, derived, rfl, covers, sim⟩ :=
    derive_accepts evidence booked follows solvent.orders_ok
  refine ⟨_, derived, ?_⟩
  intro i flat
  have none_ : review.cycles.get? i = none := by
    cases there : review.cycles.get? i with
    | none => rfl
    | some cycle =>
      obtain ⟨tracks, positive⟩ := sim.running i cycle there
      rw [tracks.balance, owned_of_none flat] at positive
      exact absurd positive (lt_irrefl 0)
  have sameFills : fillsIn orders i s.fills =
      s.fills.filter fun fill => (s.orders.get? fill.orderId).any fun item =>
        item.published.contract.instrumentId = i := by
    apply List.filter_congr
    intro fill member
    obtain ⟨item, inBook, -⟩ := booked.known fill member
    obtain ⟨order, there, terms⟩ := covers _ item inBook
    have same : order.contract = item.published.contract := congrArg OrderTerms.contract terms
    rw [inBook, there, Option.any_some, Option.any_some, same]
  have parts := sim.parts i
  rw [sameFills] at parts
  simp only [openFillIds, none_, Option.elim_none, List.append_nil] at parts
  exact ⟨sim.closed i, parts⟩

/-! ### Recording a run -/

/-- One row for each order as it stands, and one for each fill. -/
def recordOrders (w : ReviewWorker) (s : ShadowLedger) : List (EvidenceRow BrokerOrder) :=
  s.orders.values.map fun item =>
    ⟨w.environment, w.namespace_, item.published.createdAt, 1, item.published⟩

def recordFills (w : ReviewWorker) (s : ShadowLedger) : List (EvidenceRow Fill) :=
  s.fills.zipIdx.map fun entry =>
    ⟨w.environment, w.namespace_, entry.1.createdAt, entry.2 + 1, entry.1⟩

/-- Every run has a journal. -/
theorem journal_record (w : ReviewWorker) (cfg : LedgerConfig) (ops : List (Time × Op)) :
    Journal w cfg ops (recordOrders w (run .exact cfg ops (fresh cfg)))
      (recordFills w (run .exact cfg ops (fresh cfg))) := by
  constructor
  · intro row member
    obtain ⟨item, -, rfl⟩ := List.mem_map.mp member
    exact ⟨rfl, rfl, rfl⟩
  · intro row member
    obtain ⟨entry, -, rfl⟩ := List.mem_map.mp member
    exact ⟨rfl, rfl, rfl⟩
  · intro row member
    obtain ⟨item, inside, rfl⟩ := List.mem_map.mp member
    obtain ⟨key, found⟩ := Dict.mem_values.mp inside
    exact ⟨ops.length, key, item, by rw [List.take_length]; exact found, rfl⟩
  · intro key item found
    exact ⟨_, List.mem_map.mpr ⟨item, Dict.mem_values.mpr ⟨key, found⟩, rfl⟩, rfl⟩
  · refine ⟨_, List.Perm.refl _, ?_, ?_⟩
    · rw [recordFills, List.map_map]
      exact List.zipIdx_map_fst 0 _
    · rw [recordFills, List.pairwise_map, List.pairwise_iff_getElem]
      intro i j boundI boundJ less
      simpa using less

/-- Buy two contracts, sell them again. -/
def roundTrip : List (Time × Op) :=
  [(10, .submit (sampleCommand 11 .placeOptionOrder .buyToOpen 2 ⟨150, -2⟩) sampleContract),
    (20, .observeQuote sampleIds (sampleQuote 5 15 15 1 (5 / 4))),
    (30, .submit (sampleCommand 12 .placeOptionOrder .sellToClose 2 ⟨2, 0⟩) sampleContract),
    (40, .observeQuote sampleIds (sampleQuote 6 35 35 (9 / 4) (5 / 2)))]

def sampleReviewer : ReviewWorker where
  environment := .demo
  namespace_ := "demo"
  hashing := sampleHashing
  evidenceHash := fun _ _ => ""
  namespace_ne := demo_named

theorem roundTrip_trading : TradingRun sampleConfig (fun _ => sampleContract) roundTrip := by
  constructor
  · decide
  · decide +kernel
  · decide +kernel
  · intro step member c named
    simp only [roundTrip, List.mem_cons, List.not_mem_nil, or_false] at member
    rcases member with rfl | rfl | rfl | rfl <;> exact Option.mem_some.mp named

theorem derive_agrees_roundTrip :
    let s := run .exact sampleConfig roundTrip (fresh sampleConfig)
    s.fills.length = 2 ∧ s.positions.get? "spy-put" = none ∧
    s.closedRealizedPnl.get? "spy-put" = some 200 ∧
    ∃ outcomes, sampleReviewer.derive .exact 50 (recordOrders sampleReviewer s)
        (recordFills sampleReviewer s) = .ok outcomes ∧
      ((outcomesIn "spy-put" outcomes).map ClosedTradeOutcome.grossRealizedPnl).sum = 200 := by
  have flat : (run .exact sampleConfig roundTrip (fresh sampleConfig)).positions.get? "spy-put" =
      none := by decide +kernel
  have realized : (run .exact sampleConfig roundTrip (fresh sampleConfig)).closedRealizedPnl.get?
      "spy-put" = some 200 := by decide +kernel
  obtain ⟨outcomes, derived, agree⟩ := derive_agrees sampleReviewer sampleConfig
    (fun _ => sampleContract) roundTrip 50 _ _ rfl roundTrip_trading (journal_record _ _ _)
    (by decide +kernel) (by decide +kernel) (by decide +kernel) (by decide +kernel)
  refine ⟨by decide +kernel, flat, realized, outcomes, derived, ?_⟩
  rw [(agree "spy-put" flat).1, realized]
  rfl

end ReviewWorker

end Sentry
