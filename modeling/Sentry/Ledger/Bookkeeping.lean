import Sentry.Ledger.OrderBook

/-!
# Three accounts of the same fills

The ledger keeps what was filled in the order, in the list of fills and in the position,
and what was realized in a total, in the positions and in the closed positions. These are
the invariants that keep the accounts equal: `Account` for an order and its fills,
`attributed` for the realized results, and the `history` of a position, whose trades since
it was last flat are what is owned.
-/
namespace Sentry

open Support

namespace ShadowLedger

/-! ### Realized results -/

/-- The results booked to instruments: those of closed positions and those the open
positions carry. -/
def attributed (s : ShadowLedger) : ℚ :=
  Dict.total (fun _ result => result) s.closedRealizedPnl +
    Dict.total (fun _ p => p.realizedPnl) s.positions

section Results

variable {cfg : LedgerConfig} {now : Time} {op : Op} {s s' : ShadowLedger}

/-- A rewritten position with the same result books nothing. -/
theorem attributed_set_same {i : String} {p p' : Position} (held : s.positions.get? i = some p)
    (same : p'.realizedPnl = p.realizedPnl) :
    attributed { s with positions := s.positions.set i p' } = s.attributed := by
  simp only [attributed, Dict.total_set, Dict.at?, held, Option.elim_some, same]
  ring

theorem attributed_markPosition (D : Decimal.Context) (quote : OptionQuote) (s : ShadowLedger) :
    (markPosition D quote s).attributed = s.attributed := by
  rcases markPosition_cases D quote s with same | ⟨p, held, marked⟩
  · rw [same]
  · rw [marked]
    exact attributed_set_same held rfl

/-- An entry books nothing: a new position starts at zero, an averaged one keeps its result. -/
theorem attributed_applyEntryPosition (D : Decimal.Context) (id : UUID)
    (command : BrokerCommandIntent) (contract : OptionContract) (quote : OptionQuote)
    (quantity : ℤ) (price : ℚ) (s : ShadowLedger) :
    (applyEntryPosition D now id command contract quote quantity price s).attributed =
      s.attributed := by
  unfold applyEntryPosition
  split
  next flat =>
    simp only [attributed, Dict.total_set, Dict.at?, flat, Option.elim_none, openedPosition]
    ring
  next existing held =>
    dsimp only
    rw [attributed_markPosition]
    exact attributed_set_same held rfl

/-- Moving the result of a position to the closed ones books what is added on the way. -/
theorem attributed_close {i : String} {p : Position} (held : s.positions.get? i = some p)
    (pnl : ℚ) :
    attributed { s with
      closedRealizedPnl := s.closedRealizedPnl.set i
        ((s.closedRealizedPnl.get? i).getD 0 + p.realizedPnl + pnl)
      positions := s.positions.erase i } = s.attributed + pnl := by
  simp only [attributed, Dict.total_set, Dict.total_erase, Dict.at?, held, Option.elim_some]
  cases s.closedRealizedPnl.get? i with
  | none =>
    simp only [Option.elim_none, Option.getD_none]
    ring
  | some result =>
    simp only [Option.elim_some, Option.getD_some]
    ring

/-- An exit books what it realizes, whether it closes the position or not. -/
theorem attributed_applyExitPosition {contract : OptionContract} {quantity : ℤ} {price : ℚ}
    (went : applyExitPosition .exact contract quantity price s = (.ok (), s')) :
    s'.attributed - s'.realizedPnl = s.attributed - s.realizedPnl := by
  unfold applyExitPosition at went
  split at went
  · cases went
  next p held =>
    split at went
    · cases went
    · dsimp only at went
      generalize Decimal.Context.exact.mul (Decimal.Context.exact.mul
        (Decimal.Context.exact.sub price p.averageEntryPrice) quantity) contract.multiplier = pnl
        at went
      split at went
      · cases went
        have closed := attributed_close held pnl
        simp only [attributed, Decimal.Context.exact_add] at closed ⊢
        linarith
      · cases went
        simp only [attributed, Decimal.Context.exact_add, Dict.total_set, Dict.at?, held,
          Option.elim_some]
        ring

/-- Every change books to an instrument what it realizes. -/
theorem Change.attributed (change : Change .exact cfg now op s s') :
    s'.attributed - s'.realizedPnl = s.attributed - s.realizedPnl := by
  cases change with
  | credited => rfl
  | reviewed => rfl
  | recorded =>
    rw [recordSubmission_frame]
    rfl
  | remembered => rfl
  | canceled => rfl
  | quoted =>
    rw [attributed_markPosition, markPosition_frame]
    rfl
  | filled found eligible applied =>
    obtain ⟨moved, moves, rfl⟩ := (applied_of_applyFill applied).moves
    change moved.attributed - moved.realizedPnl = _
    unfold moveFill at moves
    dsimp only at moves
    split at moves
    · split at moves
      · cases moves
      · cases moves
        change (applyEntryPosition ..).attributed - (applyEntryPosition ..).realizedPnl = _
        rw [attributed_applyEntryPosition, applyEntryPosition_frame]
        rfl
    · split at moves
      · cases moves
      next exited =>
        have booked := attributed_applyExitPosition exited
        cases moves
        exact booked
  | lapsed => rfl
  | settled held ended =>
    rename_i policy settlements i p
    have closed := attributed_close held (Decimal.Context.exact.mul (Decimal.Context.exact.mul
      (Decimal.Context.exact.sub (settledAt policy settlements i) p.averageEntryPrice) p.quantity)
      p.contract.multiplier)
    simp only [ShadowLedger.attributed, settlePosition, Decimal.Context.exact_add] at closed ⊢
    linarith

end Results

/-- Attribution. In every reached state the realized result is the sum of the results of
the closed positions, by instrument, and of the results the open positions carry. -/
theorem live_attribution (cfg : LedgerConfig) (events : List (Time × Event)) :
    let s := live .exact cfg events (fresh cfg)
    s.realizedPnl = s.closedRealizedPnl.values.sum +
      (s.positions.values.map Position.realizedPnl).sum := by
  intro s
  have same : s.attributed - s.realizedPnl = (fresh cfg).attributed - (fresh cfg).realizedPnl := by
    simp only [s, live_eq_run]
    exact run_keeps
      (J := fun s => s.attributed - s.realizedPnl =
        (fresh cfg).attributed - (fresh cfg).realizedPnl)
      (fun change before => change.attributed.trans before) _ _ rfl
  have start : (fresh cfg).attributed - (fresh cfg).realizedPnl = 0 := by
    simp [attributed, fresh]
  have sums : s.attributed = s.closedRealizedPnl.values.sum +
      (s.positions.values.map Position.realizedPnl).sum := by
    simp only [attributed, Dict.total, Dict.values, List.map_map, Function.comp_def]
  linarith

/-! ### Orders and their fills -/

/-- An order agrees with the fills that name it. -/
structure Account (order : BrokerOrder) (fills : List Fill) : Prop where
  filled_eq : order.filledQuantity = (fills.map Fill.quantity).sum
  average_eq : ∀ average ∈ order.averageFillPrice, average * order.filledQuantity =
    (fills.map fun fill => (fill.price * fill.quantity : ℚ)).sum
  unpriced_iff : order.averageFillPrice = none ↔ fills = []
  filled_nonneg : 0 ≤ order.filledQuantity
  filled_le : order.filledQuantity ≤ order.quantity
  filled_iff : order.state = .filled ↔ order.filledQuantity = order.quantity
  partial_pos : order.state = .partial_ → 0 < order.filledQuantity
  within : ∀ fill ∈ fills, FillModel.WithinLimit order fill.price

/-- The fills that name an order. -/
abbrev fillsOf (s : ShadowLedger) (orderId : UUID) : List Fill :=
  s.fills.filter fun fill => fill.orderId = orderId

/-- Every order agrees with its fills, and every fill names an order. -/
structure Balanced (s : ShadowLedger) : Prop where
  accounts : ∀ key item, s.orders.get? key = some item → Account item.published (s.fillsOf key)
  named : ∀ fill ∈ s.fills, fill.orderId ∈ s.orders.keys

section Accounts

variable {cfg : LedgerConfig} {now : Time} {op : Op} {s s' : ShadowLedger} {order : BrokerOrder}
  {fills : List Fill} {key : UUID} {item : LedgerOrder} {commands : List BrokerCommandIntent}

theorem Account.partial_lt (account : Account order fills) (partly : order.state = .partial_) :
    order.filledQuantity < order.quantity := by
  have whole := account.filled_iff
  rw [partly] at whole
  have some_left : order.filledQuantity ≠ order.quantity := fun equal => nomatch whole.mpr equal
  exact lt_of_le_of_ne account.filled_le some_left

/-- An open order that ends is not complete. -/
theorem Account.ended (account : Account order fills) (isOpen : order.state.isOpen = true)
    {state : OrderState} (closed : state.isOpen = false) (unfilled : state ≠ .filled) :
    Account { order with state := state } fills :=
  { account with
    filled_iff := by
      constructor
      · exact fun filled => absurd filled unfilled
      · intro equal
        rw [account.filled_iff.mpr equal] at isOpen
        cases isOpen
    partial_pos := by
      intro partly
      rw [show state = .partial_ from partly] at closed
      cases closed }

/-- A fill is accounted for in the filled quantity, the average and the state. -/
theorem Account.fill (account : Account order fills) {fill : Fill} (positive : 0 < fill.quantity)
    (within : fill.quantity ≤ order.remaining) (limit : FillModel.WithinLimit order fill.price) :
    Account (filledOrder .exact order fill.quantity fill.price) (fills ++ [fill]) := by
  have nonneg := account.filled_nonneg
  have more : (0 : ℚ) < ((order.filledQuantity + fill.quantity : ℤ) : ℚ) := by
    exact_mod_cast add_pos_of_nonneg_of_pos nonneg positive
  have paid : order.averageFillPrice.getD 0 * order.filledQuantity =
      (fills.map fun fill => (fill.price * fill.quantity : ℚ)).sum := by
    cases average : order.averageFillPrice with
    | none => simp [account.unpriced_iff.mp average]
    | some average_ => exact account.average_eq average_ average
  simp only [BrokerOrder.remaining] at within
  refine ⟨?_, ?_, ?_, ?_, ?_, ?_, ?_, ?_⟩
  · simp only [filledOrder, account.filled_eq, List.map_append, List.map_cons, List.map_nil,
      List.sum_append, List.sum_cons, List.sum_nil, add_zero]
  · intro average is
    simp only [filledOrder, Decimal.Context.exact_add, Decimal.Context.exact_mul,
      Decimal.Context.exact_div, Option.mem_def, Option.some.injEq] at is ⊢
    rw [← is, div_mul_cancel₀ _ (ne_of_gt more), paid]
    simp
  · simp [filledOrder]
  · simp only [filledOrder]
    omega
  · simp only [filledOrder]
    omega
  · simp only [filledOrder]
    split
    next equal => simp [equal]
    next other => simp [other]
  · intro _
    simp only [filledOrder]
    omega
  · intro other member
    rcases List.mem_append.mp member with old | own
    · exact account.within other old
    · rw [List.mem_singleton.mp own]
      exact limit

theorem Balanced.of_same (balanced : Balanced s) (orders : s'.orders = s.orders)
    (fills : s'.fills = s.fills) : Balanced s' where
  accounts := by
    simp only [fillsOf, orders, fills]
    exact balanced.accounts
  named := by
    rw [orders, fills]
    exact balanced.named

/-- Rewriting an order and adding some fills of it keeps the accounts of the others. -/
theorem Balanced.write (balanced : Balanced s) {item' : LedgerOrder} (new : List Fill)
    (orders : s'.orders = s.orders.set key item') (fills : s'.fills = s.fills ++ new)
    (own : ∀ fill ∈ new, fill.orderId = key)
    (account : Account item'.published (s.fillsOf key ++ new)) : Balanced s' where
  accounts := by
    intro k found_item found
    rw [orders, Dict.get?_set] at found
    simp only [fillsOf, fills, List.filter_append]
    split at found
    next same =>
      subst same
      cases found
      have all : new.filter (fun fill => fill.orderId = key) = new :=
        List.filter_eq_self.mpr fun fill member => by simpa using own fill member
      rw [all]
      exact account
    next other =>
      have none_ : new.filter (fun fill => fill.orderId = k) = [] :=
        List.filter_eq_nil_iff.mpr fun fill member => by simpa [own fill member] using other
      rw [none_, List.append_nil]
      exact balanced.accounts k found_item found
  named := by
    intro fill member
    rw [orders, Dict.mem_keys_set]
    rw [fills] at member
    rcases List.mem_append.mp member with old | fresh_
    · exact Or.inr (balanced.named fill old)
    · exact Or.inl (own fill fresh_).symm

/-- A new order under an unused identifier has no fills. -/
theorem Balanced.recorded (balanced : Balanced s) (D : Decimal.Context)
    (command : BrokerCommandIntent) (contract : OptionContract)
    (free : s.orders.get? (orderIdFor cfg command) = none) :
    Balanced (recordSubmission D cfg now command contract s).2 := by
  have positive := command.quantity_pos
  have nobody : s.fillsOf (orderIdFor cfg command) = [] := by
    rw [fillsOf, List.filter_eq_nil_iff]
    intro fill member named
    obtain ⟨item, there⟩ := Dict.mem_keys.mp (balanced.named fill member)
    rw [of_decide_eq_true named, free] at there
    cases there
  refine balanced.write [] (recordSubmission_orders cfg s now command contract D)
    (by rw [recordSubmission_frame, List.append_nil])
    (fun fill member => by cases member) ?_
  rw [nobody]
  refine ⟨rfl, ?_, by simp [newOrder], le_refl 0, le_of_lt positive, ?_, ?_, ?_⟩
  · intro average is
    cases is
  · simp only [newOrder]
    constructor
    · intro filled
      split at filled <;> cases filled
    · intro equal
      omega
  · intro partly
    simp only [newOrder] at partly
    split at partly <;> cases partly
  · intro fill member
    cases member

theorem Balanced.lapse (balanced : Balanced s) (date : Date) :
    Balanced (lapseOrders cfg date s) where
  accounts := by
    intro key item' found
    simp only [Dict.get?_mapValues] at found
    cases before : s.orders.get? key with
    | none =>
      rw [before] at found
      cases found
    | some item =>
      rw [before] at found
      cases found
      have account := balanced.accounts key item before
      change Account (LedgerOrder.expireBy cfg date item).published (s.fillsOf key)
      unfold LedgerOrder.expireBy
      split
      next ends =>
        simp only [LedgerOrder.endsBy, Bool.and_eq_true] at ends
        refine account.ended ends.1 rfl ?_
        intro equal
        cases equal
      · exact account
  named := by
    rw [Dict.keys_mapValues]
    exact balanced.named

theorem Balanced.change (balanced : Balanced s) (booked : Booked cfg commands s)
    (one : OneIntent cfg commands) (inRun : ∀ command ∈ op.command?, command ∈ commands)
    (change : Change .exact cfg now op s s') : Balanced s' := by
  cases change with
  | credited => exact balanced.of_same rfl rfl
  | reviewed => exact balanced.of_same rfl rfl
  | recorded bound unused =>
    exact balanced.recorded .exact _ _ (booked.unused one (inRun _ rfl) unused)
  | remembered => exact balanced.of_same rfl rfl
  | canceled targets isOpen =>
    refine balanced.write [] rfl (List.append_nil _).symm (fun fill member => nomatch member) ?_
    rw [List.append_nil]
    exact (balanced.accounts _ _ targets.found).ended isOpen rfl (fun equal => nomatch equal)
  | quoted => exact balanced.of_same (markPosition_orders ..) (by rw [markPosition_frame])
  | filled found eligible applied =>
    have did := applied_of_applyFill applied
    refine balanced.write _ (congrArg ShadowLedger.orders did.frame)
      (congrArg ShadowLedger.fills did.frame) ?_
      ((balanced.accounts _ _ found).fill did.quantity_pos did.within did.limit)
    intro fill member
    rw [List.mem_singleton.mp member, did.orderId]
    exact booked.keyed _ _ found
  | lapsed => exact balanced.lapse _
  | settled => exact balanced.of_same rfl rfl

theorem balanced_fresh : Balanced (fresh cfg) where
  accounts := fun _ _ found => nomatch found
  named := fun _ member => nomatch member

/-- In a run with one order for each intent every order agrees with its fills. -/
theorem run_balanced (ops : List (Time × Op)) (one : OneIntent cfg (placed ops)) :
    Balanced (run .exact cfg ops (fresh cfg)) := by
  have both : Booked cfg (placed ops) (run .exact cfg ops (fresh cfg)) ∧
      Balanced (run .exact cfg ops (fresh cfg)) :=
    run_keeps_placed (J := fun s => Booked cfg (placed ops) s ∧ Balanced s)
      (fun own change holds =>
        ⟨holds.1.change own change, holds.2.change holds.1 one own change⟩)
      ops (fun _ member => member) _ ⟨booked_fresh _, balanced_fresh⟩
  exact both.2

end Accounts

/-! ### Positions and what has moved them -/

/-- An entry in the history of a position: contracts bought or sold (negative), or its
expiration. -/
inductive Movement where
  | traded (quantity : ℤ)
  | expired
  deriving DecidableEq

/-- The trades since the position was last flat, after one more movement. -/
def Movement.follow (trades : List ℤ) : Movement → List ℤ
  | .traded quantity =>
    if (trades ++ [quantity]).sum = 0 then [] else trades ++ [quantity]
  | .expired => []

/-- The trades of a history since its last close or expiration. -/
def sinceFlat (history : List Movement) : List ℤ := history.foldl Movement.follow []

/-- What some fills moved in an instrument, going by the orders they name. -/
def tradesIn (i : String) (orders : Dict UUID LedgerOrder) (fills : List Fill) : List Movement :=
  fills.filterMap fun fill => (orders.get? fill.orderId).bind fun item =>
    if item.published.contract.instrumentId = i then
      some (.traded (inflow item.published fill.quantity)) else none

/-- What an operation moved in an instrument: the fills it added, and the expiration of
the position if it ended in one. -/
def movements (cfg : LedgerConfig) (now : Time) (op : Op) (i : String) (s : ShadowLedger) :
    List Movement :=
  let s' := (perform .exact cfg now op s).2
  tradesIn i s.orders (s'.fills.drop s.fills.length) ++
    match op with
    | .expire .. => if i ∈ s.positions.keys ∧ i ∉ s'.positions.keys then [.expired] else []
    | _ => []

/-- The history of an instrument over a run. -/
def history (cfg : LedgerConfig) (i : String) : List (Time × Op) → ShadowLedger → List Movement
  | [], _ => []
  | step :: rest, s =>
    movements cfg step.1 step.2 i s ++ history cfg i rest (perform .exact cfg step.1 step.2 s).2

section Positions

variable {cfg : LedgerConfig} {catalog : String → OptionContract} {now : Time} {s s' : ShadowLedger}
  {i : String} {trades : List ℤ}

theorem follow_traded (trades : List ℤ) (quantity : ℤ) :
    (Movement.follow trades (.traded quantity)).sum = trades.sum + quantity := by
  have total : (trades ++ [quantity]).sum = trades.sum + quantity := by simp
  simp only [Movement.follow]
  split
  next flat => rw [← total, flat, List.sum_nil]
  · exact total

/-- What a loop of fills has done to an instrument: the new fills account for what is owned,
and the orders they name are those there were. -/
structure Follows (i : String) (trades : List ℤ) (s s' : ShadowLedger) : Prop where
  terms : ∀ key item', s'.orders.get? key = some item' → ∃ item, s.orders.get? key = some item ∧
    item.published.side = item'.published.side ∧
    item.published.contract = item'.published.contract
  moved : ∃ new, s'.fills = s.fills ++ new ∧
    s'.owned i = ((tradesIn i s.orders new).foldl Movement.follow trades).sum

theorem Follows.refl (start : trades.sum = s.owned i) : Follows i trades s s where
  terms := fun _ item found => ⟨item, found, rfl, rfl⟩
  moved := ⟨[], (List.append_nil _).symm, start.symm⟩

theorem Follows.quiet {s₁ s₂ : ShadowLedger} (follows : Follows i trades s s₁)
    (quiet : Quiet s₁ s₂) : Follows i trades s s₂ where
  terms := by
    rw [quiet.orders]
    exact follows.terms
  moved := by
    rw [quiet.fills, quiet.owned]
    exact follows.moved

theorem Follows.trade {s₁ s₂ : ShadowLedger} {key : UUID} {item : LedgerOrder} {fill : Fill}
    (follows : Follows i trades s s₁) (traded : Traded key item fill s₁ s₂) :
    Follows i trades s s₂ where
  terms := by
    intro k item' found
    rw [traded.orders, Dict.get?_set] at found
    split at found
    next same =>
      subst same
      cases found
      exact follows.terms _ item traded.found
    · exact follows.terms k item' found
  moved := by
    obtain ⟨new, fills, owned⟩ := follows.moved
    obtain ⟨old, before, side, contract⟩ := follows.terms key item traded.found
    refine ⟨new ++ [fill], by rw [traded.fills, fills, List.append_assoc], ?_⟩
    have last : tradesIn i s.orders [fill] =
        if item.published.contract.instrumentId = i then
          [.traded (inflow item.published fill.quantity)] else [] := by
      simp only [tradesIn, List.filterMap_cons, List.filterMap_nil, traded.own, before,
        Option.bind_some, contract, inflow, side]
      split <;> simp_all
    have joined : tradesIn i s.orders (new ++ [fill]) =
        tradesIn i s.orders new ++ tradesIn i s.orders [fill] := List.filterMap_append
    rw [joined, last, List.foldl_append, traded.owned i, owned]
    split
    · rw [List.foldl_cons, List.foldl_nil, follow_traded]
    · rw [add_zero, List.foldl_nil]

/-- An expiration adds no fill, and each position stays as it is or ends. -/
theorem expire_positions (D : Decimal.Context) (cfg : LedgerConfig) (now : Time) (onDate : Option Date) (policy : ExpirationPolicy)
    (settlements : Dict String ℚ) (s : ShadowLedger) :
    let s' := (perform D cfg now (.expire onDate policy settlements) s).2
    s'.fills = s.fills ∧
      ∀ i, s'.positions.get? i = s.positions.get? i ∨ s'.positions.get? i = none := by
  refine perform_keeps (J := fun s' => s'.fills = s.fills ∧
    ∀ i, s'.positions.get? i = s.positions.get? i ∨ s'.positions.get? i = none) _ ?_
    ⟨rfl, fun _ => Or.inl rfl⟩
  intro s₁ s₂ change holds
  cases change with
  | lapsed => exact holds
  | settled held ended =>
    refine ⟨holds.1, fun i => ?_⟩
    simp only [settlePosition, Dict.get?_erase]
    split
    · exact Or.inr rfl
    · exact holds.2 i

/-- Neither a deposit, a review, a submission nor a cancellation moves a position. -/
theorem perform_still (D : Decimal.Context) (cfg : LedgerConfig) (now : Time) {op : Op}
    (s : ShadowLedger)
    (quotes : ∀ ids quote, op ≠ .observeQuote ids quote)
    (expirations : ∀ onDate policy settlements, op ≠ .expire onDate policy settlements) :
    let s' := (perform D cfg now op s).2
    s'.fills = s.fills ∧ s'.positions = s.positions := by
  refine perform_keeps (J := fun s' => s'.fills = s.fills ∧ s'.positions = s.positions) op ?_
    ⟨rfl, rfl⟩
  intro s₁ s₂ change holds
  cases change with
  | credited => exact holds
  | reviewed => exact holds
  | recorded =>
    rw [recordSubmission_frame]
    exact holds
  | remembered => exact holds
  | canceled => exact holds
  | quoted => exact absurd rfl (quotes _ _)
  | filled => exact absurd rfl (quotes _ _)
  | lapsed => exact absurd rfl (expirations _ _ _)
  | settled => exact absurd rfl (expirations _ _ _)

theorem owned_congr {i : String} (same : s'.positions.get? i = s.positions.get? i) :
    s'.owned i = s.owned i := by
  simp only [owned, same]

/-- What an operation moved accounts for what it made of the position. -/
theorem perform_owned (op : Op) (solvent : Solvent cfg catalog s) (start : trades.sum = s.owned i) :
    ((movements cfg now op i s).foldl Movement.follow trades).sum =
      (perform .exact cfg now op s).2.owned i := by
  have still : (∀ ids quote, op ≠ .observeQuote ids quote) →
      (∀ onDate policy settlements, op ≠ .expire onDate policy settlements) →
        tradesIn i s.orders ((perform .exact cfg now op s).2.fills.drop s.fills.length) = [] ∧
          (perform .exact cfg now op s).2.owned i = s.owned i := by
    intro quotes expirations
    obtain ⟨fills, positions⟩ := perform_still .exact cfg now s quotes expirations
    rw [fills, List.drop_length]
    exact ⟨rfl, owned_congr (by rw [positions])⟩
  cases op with
  | observeQuote ids quote =>
    have follows : Follows i trades s
        (perform .exact cfg now (.observeQuote ids quote) s).2 :=
      observeQuote_trades (J := Follows i trades s) Follows.quiet
        (fun _ follows _ traded => follows.trade traded) solvent (.refl start)
    obtain ⟨new, fills, owned⟩ := follows.moved
    simp only [movements, fills, List.drop_left, List.append_nil]
    exact owned.symm
  | expire onDate policy settlements =>
    obtain ⟨fills, kept⟩ := expire_positions .exact cfg now onDate policy settlements s
    simp only [movements, fills, List.drop_length]
    rcases kept i with same | gone
    · have present : ¬(i ∈ s.positions.keys ∧ i ∉ (perform .exact cfg now
          (.expire onDate policy settlements) s).2.positions.keys) := by
        rw [Dict.mem_keys, Dict.mem_keys, same]
        exact fun both => both.2 both.1
      rw [if_neg present, owned_congr same]
      exact start
    · rw [owned_of_none gone]
      split
      · rfl
      next absent =>
        have before : s.positions.get? i = none := by
          cases held : s.positions.get? i with
          | none => rfl
          | some p =>
            refine absurd ⟨Dict.mem_keys.mpr ⟨p, held⟩, ?_⟩ absent
            rw [Dict.mem_keys, gone]
            rintro ⟨_, there⟩
            cases there
        rw [owned_of_none before] at start
        exact start
  | deposit | review | submit | cancel =>
    obtain ⟨nothing, owned⟩ := still (fun _ _ equal => nomatch equal)
      (fun _ _ _ equal => nomatch equal)
    simp only [movements, nothing, List.append_nil, List.foldl_nil, owned]
    exact start

/-- The history of a run accounts for the positions it reaches. -/
theorem run_owned (i : String) (ops : List (Time × Op)) (one : OneContract catalog ops)
    (s : ShadowLedger) (solvent : Solvent cfg catalog s) (trades : List ℤ)
    (start : trades.sum = s.owned i) :
    ((history cfg i ops s).foldl Movement.follow trades).sum =
      (run .exact cfg ops s).owned i := by
  induction ops generalizing s trades with
  | nil => exact start
  | cons step rest ih =>
    obtain ⟨solvent', -⟩ := perform_solvent step.1 step.2 (one step List.mem_cons_self) solvent
    simp only [history, List.foldl_append]
    exact ih (fun next member => one next (List.mem_cons_of_mem _ member)) _ solvent' _
      (perform_owned step.2 solvent start)

end Positions

/-- Bookkeeping. In every state of a run with one contract for each instrument and one
order for each intent, each order's filled quantity, average price and state agree with
the fills that name it, every fill names an order and respects its limit, and what is owned
of an instrument is what was bought less what was sold of it since it was last flat. -/
theorem run_bookkeeping (cfg : LedgerConfig) (catalog : String → OptionContract)
    (ops : List (Time × Op)) (one : OneContract catalog ops) (intents : OneIntent cfg (placed ops)) :
    let s := run .exact cfg ops (fresh cfg)
    (∀ key item, s.orders.get? key = some item →
      let order := item.published
      let fills := s.fills.filter fun fill => fill.orderId = order.orderId
      order.filledQuantity = (fills.map Fill.quantity).sum ∧
      (∀ average ∈ order.averageFillPrice, average * order.filledQuantity =
        (fills.map fun fill => (fill.price * fill.quantity : ℚ)).sum) ∧
      (order.averageFillPrice = none ↔ fills = []) ∧
      0 ≤ order.filledQuantity ∧ order.filledQuantity ≤ order.quantity ∧
      (order.state = .filled ↔ order.filledQuantity = order.quantity) ∧
      (order.state = .partial_ →
        0 < order.filledQuantity ∧ order.filledQuantity < order.quantity)) ∧
    (∀ fill ∈ s.fills, ∃ item, s.orders.get? fill.orderId = some item ∧
      FillModel.WithinLimit item.published fill.price) ∧
    ∀ i, ((s.positions.get? i).map Position.quantity).getD 0 =
      (sinceFlat (history cfg i ops (fresh cfg))).sum := by
  intro s
  have balanced : Balanced s := run_balanced ops intents
  have booked : Booked cfg (placed ops) s := run_fresh_booked .exact cfg ops
  refine ⟨?_, ?_, ?_⟩
  · intro key item found
    have account := balanced.accounts key item found
    have named := booked.keyed key item found
    simp only [fillsOf, ← named] at account
    exact ⟨account.filled_eq, account.average_eq, account.unpriced_iff, account.filled_nonneg,
      account.filled_le, account.filled_iff,
      fun partly => ⟨account.partial_pos partly, account.partial_lt partly⟩⟩
  · intro fill member
    obtain ⟨item, found⟩ := Dict.mem_keys.mp (balanced.named fill member)
    exact ⟨item, found, (balanced.accounts _ item found).within fill
      (List.mem_filter.mpr ⟨member, decide_eq_true rfl⟩)⟩
  · intro i
    exact (run_owned i ops one (fresh cfg) fresh_solvent [] rfl).symm

theorem sampleRun_oneIntent : OneIntent sampleConfig (placed sampleRun) :=
  ⟨by decide +kernel, by decide +kernel⟩

theorem run_bookkeeping_sampleRun :
    OneContract (fun _ => sampleContract) sampleRun ∧
      OneIntent sampleConfig (placed sampleRun) ∧
      (let s := run .exact sampleConfig sampleRun (fresh sampleConfig);
        s.fills.map Fill.quantity = [2] ∧
        ((s.positions.get? "spy-put").map Position.quantity).getD 0 =
          (sinceFlat (history sampleConfig "spy-put" sampleRun (fresh sampleConfig))).sum) :=
  ⟨sampleRun_one, sampleRun_oneIntent, by decide +kernel,
    (run_bookkeeping sampleConfig (fun _ => sampleContract) sampleRun sampleRun_one
      sampleRun_oneIntent).2.2 "spy-put"⟩

/-- A position sold off and opened again counts from its second opening. -/
example : sinceFlat [.traded 2, .traded (-2), .traded 3, .traded (-1), .expired, .traded 1] = [1] := by
  decide

end ShadowLedger

end Sentry
