import Mathlib.Logic.Relation
import Sentry.Ledger.Solvency

/-!
# What an operation can do to the ledger

`Change` lists the elementary changes of the ledger's operations, in any decimal
context, and `perform_changes` says that every operation, raising or not, is a
sequence of them. The invariants of whole runs are derived from this list and do
not unfold the operations again.
-/
namespace Sentry

open Support

namespace ShadowLedger

/-- The date an expiration works on. -/
abbrev expirationDate (cfg : LedgerConfig) (now : Time) (onDate : Option Date) : Date :=
  onDate.getD (cfg.marketDate now)

/-- The ledger after the order loop of `expire`. -/
abbrev lapseOrders (cfg : LedgerConfig) (date : Date) (s : ShadowLedger) : ShadowLedger :=
  { s with orders := s.orders.mapValues (LedgerOrder.expireBy cfg date) }

/-- What an expired contract is settled at: nothing when it is not exercised. -/
abbrev settledAt (policy : ExpirationPolicy) (settlements : Dict String ℚ) (i : String) : ℚ :=
  if policy = .doNotExercise then 0 else (settlements.get? i).getD 0

/-- The elementary changes of an operation that runs at a clock reading. -/
inductive Change (D : Decimal.Context) (cfg : LedgerConfig) (now : Time) :
    Op → ShadowLedger → ShadowLedger → Prop where
  | credited {amount : ℚ} {reference : String} {s : ShadowLedger} (positive : 0 < amount) :
      Change D cfg now (.deposit amount reference) s { s with
        cash := D.add s.cash amount
        deposits := s.deposits ++ [⟨amount, now, reference⟩] }
  | reviewed {ids : FreshIds} {proposal : TradeProposal} {s : ShadowLedger} :
      Change D cfg now (.review ids proposal) s
        { s with proposals := s.proposals.set proposal.proposalId proposal }
  | recorded {command : BrokerCommandIntent} {contract : OptionContract} {s : ShadowLedger}
      (bound : Bound cfg command contract .placeOptionOrder)
      (unused : s.orderByIdempotency.get? command.idempotencyKey = none) :
      Change D cfg now (.submit command contract) s
        (recordSubmission D cfg now command contract s).2
  | remembered {command : BrokerCommandIntent} {ref : OrderRef} {key : UUID} {item : LedgerOrder}
      {s : ShadowLedger} (targets : Targets command key item s) :
      Change D cfg now (.cancel command ref) s
        (s.remember command.idempotencyKey item.published.orderId)
  | canceled {command : BrokerCommandIntent} {ref : OrderRef} {key : UUID} {item : LedgerOrder}
      {s : ShadowLedger} (targets : Targets command key item s)
      (isOpen : item.published.state.isOpen = true) :
      Change D cfg now (.cancel command ref) s
        ((endOrder .canceled key item s).remember command.idempotencyKey item.published.orderId)
  | quoted {ids : FreshIds} {quote : OptionQuote} {s : ShadowLedger}
      (admitted : admitQuote now quote s = .ok true) :
      Change D cfg now (.observeQuote ids quote) s (markPosition D quote
        { s with quotes := s.quotes.set quote.contract.instrumentId quote })
  | filled {ids : FreshIds} {quote : OptionQuote} {key : UUID} {item : LedgerOrder}
      {quantity : ℤ} {price : ℚ} {seed : Nat} {reason : String} {fill : Fill}
      {s s' : ShadowLedger} (found : s.orders.get? key = some item)
      (eligible : BrokerOrder.eligibleFor item.published quote = true)
      (applied : applyFill D cfg now ids key item quote quantity price seed reason s =
        (.ok fill, s')) :
      Change D cfg now (.observeQuote ids quote) s s'
  | lapsed {onDate : Option Date} {policy : ExpirationPolicy} {settlements : Dict String ℚ}
      {s : ShadowLedger} :
      Change D cfg now (.expire onDate policy settlements) s
        (lapseOrders cfg (expirationDate cfg now onDate) s)
  | settled {onDate : Option Date} {policy : ExpirationPolicy} {settlements : Dict String ℚ}
      {i : String} {p : Position} {s : ShadowLedger} (held : s.positions.get? i = some p)
      (ended : p.contract.expiration ≤ expirationDate cfg now onDate) :
      Change D cfg now (.expire onDate policy settlements) s
        (settlePosition D i p (settledAt policy settlements i) s)

/-- A sequence of changes of one operation. -/
abbrev Changes (D : Decimal.Context) (cfg : LedgerConfig) (now : Time) (op : Op) :
    ShadowLedger → ShadowLedger → Prop :=
  Relation.ReflTransGen (Change D cfg now op)

section Inversion

variable {D : Decimal.Context} {cfg : LedgerConfig} {now : Time} {ids : FreshIds}
  {quote : OptionQuote} {key : UUID} {item : LedgerOrder} {quantity : ℤ} {price : ℚ}
  {seed : Nat} {reason : String} {s s' : ShadowLedger}

/-! ### Fills -/

theorem applyExitPosition_error {contract : OptionContract} {e : Exc}
    (failed : applyExitPosition D contract quantity price s = (.error e, s')) : s' = s := by
  unfold applyExitPosition at failed
  split at failed
  · cases failed
    rfl
  · split at failed
    · cases failed
      rfl
    · dsimp only at failed
      split at failed <;> cases failed

/-- A fill that cannot be paid or delivered moves nothing. -/
theorem moveFill_error {e : Exc}
    (failed : moveFill D cfg now ids item quote quantity price s = (.error e, s')) : s' = s := by
  unfold moveFill at failed
  dsimp only at failed
  split at failed
  · split at failed
    · cases failed
      rfl
    · cases failed
  · split at failed
    next exited =>
      cases failed
      exact applyExitPosition_error exited
    · cases failed

theorem applyExitPosition_frame {contract : OptionContract}
    (went : applyExitPosition D contract quantity price s = (.ok (), s')) :
    s' = { s with
      positions := s'.positions
      realizedPnl := s'.realizedPnl
      closedRealizedPnl := s'.closedRealizedPnl } := by
  unfold applyExitPosition at went
  split at went
  · cases went
  · split at went
    · cases went
    · dsimp only at went
      split at went <;> cases went <;> rfl

/-- A fill moves money and contracts, and leaves the book alone. -/
theorem moveFill_frame
    (went : moveFill D cfg now ids item quote quantity price s = (.ok (), s')) :
    s' = { s with
      cash := s'.cash
      positions := s'.positions
      entryOrdersByDate := s'.entryOrdersByDate
      realizedPnl := s'.realizedPnl
      closedRealizedPnl := s'.closedRealizedPnl } := by
  unfold moveFill at went
  dsimp only at went
  split at went
  · split at went
    · cases went
    · cases went
      rw [applyEntryPosition_frame]
      rfl
  · split at went
    · cases went
    next exited =>
      cases went
      rw [applyExitPosition_frame exited]

/-- Everything that is known of a fill that went through. -/
structure Applied (D : Decimal.Context) (cfg : LedgerConfig) (now : Time) (ids : FreshIds)
    (quote : OptionQuote) (key : UUID) (item : LedgerOrder) (fill : Fill)
    (s s' : ShadowLedger) : Prop where
  quantity_pos : 0 < fill.quantity
  within : fill.quantity ≤ item.published.remaining
  limit : FillModel.WithinLimit item.published fill.price
  orderId : fill.orderId = item.published.orderId
  stamped : fill.createdAt = now
  event : fill.marketEventIds = [quote.snapshotId.str]
  moves : ∃ moved, moveFill D cfg now ids item quote fill.quantity fill.price s = (.ok (), moved) ∧
    s' = bookFill D key item fill moved

/-- The order book and the list of fills after a fill. -/
theorem Applied.frame {fill : Fill} (did : Applied D cfg now ids quote key item fill s s') :
    s' = { s with
      cash := s'.cash
      orders := s.orders.set key
        ⟨filledOrder D item.published fill.quantity fill.price, item.command⟩
      positions := s'.positions
      fills := s.fills ++ [fill]
      entryOrdersByDate := s'.entryOrdersByDate
      realizedPnl := s'.realizedPnl
      closedRealizedPnl := s'.closedRealizedPnl } := by
  obtain ⟨moved, moves, rfl⟩ := did.moves
  rw [bookFill, moveFill_frame moves]

theorem applied_of_applyFill {fill : Fill}
    (went : applyFill D cfg now ids key item quote quantity price seed reason s = (.ok fill, s')) :
    Applied D cfg now ids quote key item fill s s' := by
  unfold applyFill at went
  dsimp only at went
  split at went
  · cases went
  next amount =>
    split at went
    · cases went
    next paid =>
      split at went
      · cases went
      next capped =>
        split at went
        · cases went
        next floored =>
          split at went
          · cases went
          next moved moves =>
            cases went
            refine ⟨by simp only [fillRecord]; omega, by simp only [fillRecord]; omega,
              ⟨not_le.mp paid, ?_⟩, rfl, rfl, rfl, moved, moves, rfl⟩
            cases side : item.published.side with
            | buyToOpen => exact not_lt.mp fun above => capped ⟨side, above⟩
            | sellToClose => exact not_lt.mp fun below => floored ⟨side, below⟩

/-- A fill is carried out whole, or it raises and changes nothing. -/
theorem applyFill_cases (D : Decimal.Context) (cfg : LedgerConfig) (now : Time) (ids : FreshIds)
    (key : UUID) (item : LedgerOrder) (quote : OptionQuote) (quantity : ℤ) (price : ℚ) (seed : Nat)
    (reason : String) (s : ShadowLedger) :
    (∃ e, applyFill D cfg now ids key item quote quantity price seed reason s = (.error e, s)) ∨
    ∃ fill s', applyFill D cfg now ids key item quote quantity price seed reason s =
      (.ok fill, s') := by
  unfold applyFill
  dsimp only
  split
  · exact Or.inl ⟨_, rfl⟩
  · split
    · exact Or.inl ⟨_, rfl⟩
    · split
      · exact Or.inl ⟨_, rfl⟩
      · split
        · exact Or.inl ⟨_, rfl⟩
        · split
          next failed =>
            rw [moveFill_error failed]
            exact Or.inl ⟨_, rfl⟩
          · exact Or.inr ⟨_, _, rfl⟩

/-- One iteration of the loop of `observe_quote` changes nothing or fills its order. -/
theorem considerOrder_cases (D : Decimal.Context) (cfg : LedgerConfig) (now : Time) (ids : FreshIds)
    (quote : OptionQuote) (key : UUID) (item : LedgerOrder) (s : ShadowLedger) :
    (considerOrder D cfg now ids quote key item s).2 = s ∨
    BrokerOrder.eligibleFor item.published quote = true ∧
      ∃ quantity price seed reason fill, applyFill D cfg now ids key item quote quantity price
        seed reason s = (.ok fill, (considerOrder D cfg now ids quote key item s).2) := by
  unfold considerOrder
  dsimp only
  split
  · exact Or.inl rfl
  next eligible =>
    have eligible : BrokerOrder.eligibleFor item.published quote = true := by simpa using eligible
    split
    · exact Or.inl rfl
    · split
      · exact Or.inl rfl
      next price _ =>
        let decision := decisionOn D cfg quote item.published
        rcases applyFill_cases D cfg now ids key item quote decision.quantity price
          decision.deterministicSeed decision.reason s with ⟨e, failed⟩ | ⟨fill, s₁, went⟩
        · rw [failed]
          exact Or.inl rfl
        · rw [went]
          exact Or.inr ⟨eligible, _, _, _, _, fill, went⟩

theorem considerOrders_changes (keys : List UUID) (s : ShadowLedger) :
    Changes D cfg now (.observeQuote ids quote) s
      (considerOrders D cfg now ids quote keys s).2 := by
  induction keys generalizing s with
  | nil => exact .refl
  | cons key rest ih =>
    cases found : s.orders.get? key with
    | none =>
      simp only [considerOrders, found]
      exact ih s
    | some item =>
      have first : Changes D cfg now (.observeQuote ids quote) s
          (considerOrder D cfg now ids quote key item s).2 := by
        rcases considerOrder_cases D cfg now ids quote key item s with
          same | ⟨eligible, _, _, _, _, fill, went⟩
        · rw [same]
        · exact .single (.filled found eligible went)
      simp only [considerOrders, found]
      split
      next e s₁ failed =>
        rw [failed] at first
        exact first
      next evaluation s₁ considered =>
        rw [considered] at first
        have others := ih s₁
        split
        next e s₂ failed =>
          rw [failed] at others
          exact first.trans others
        next evaluations s₂ went =>
          rw [went] at others
          exact first.trans others

/-! ### Whole operations -/

theorem observeQuote_changes (s : ShadowLedger) :
    Changes D cfg now (.observeQuote ids quote) s (observeQuote D cfg now ids quote s).2 := by
  unfold observeQuote observeQuoteLog
  cases admitted : admitQuote now quote s with
  | error e => exact .refl
  | ok new =>
    cases new with
    | false => exact .refl
    | true =>
      have first : Changes D cfg now (.observeQuote ids quote) s _ := .single (.quoted admitted)
      dsimp only
      split
      · exact first
      · exact first.trans (considerOrders_changes _ _)

theorem cancel_changes (command : BrokerCommandIntent) (ref : OrderRef) (s : ShadowLedger) :
    Changes D cfg now (.cancel command ref) s (cancel cfg command ref s).2 := by
  rcases (cancel_cases command ref : (cancel cfg command ref s).2 = s ∨ _) with
    same | ⟨key, item, targets, remembered | ⟨isOpen, canceled⟩⟩
  · rw [same]
  · rw [remembered]
    exact .single (.remembered targets)
  · rw [canceled]
    exact .single (.canceled targets isOpen)

theorem expirePositions_changes (cfg : LedgerConfig) (now : Time) (onDate : Option Date)
    (policy : ExpirationPolicy) (settlements : Dict String ℚ) (rest : List (String × Position)) (totals : ExpirationTotals)
    (s : ShadowLedger) (distinct : (rest.map Prod.fst).Nodup)
    (present : ∀ e ∈ rest, s.positions.get? e.1 = some e.2) :
    Changes D cfg now (.expire onDate policy settlements) s
      (expirePositions D (expirationDate cfg now onDate) policy settlements rest totals s).2 := by
  induction rest generalizing totals s with
  | nil => exact .refl
  | cons e rest ih =>
    obtain ⟨i, p⟩ := e
    obtain ⟨absent, distinct'⟩ := List.nodup_cons.mp distinct
    have present' : ∀ e ∈ rest, s.positions.get? e.1 = some e.2 :=
      fun e member => present e (List.mem_cons_of_mem _ member)
    simp only [expirePositions]
    split
    · exact ih totals s distinct' present'
    next ended =>
      split
      · exact .refl
      · have settles : Change D cfg now (.expire onDate policy settlements) s
            (settlePosition D i p (settledAt policy settlements i) s) :=
          .settled (present (i, p) List.mem_cons_self) (not_lt.mp ended)
        refine .head settles (ih _ _ distinct' ?_)
        -- the positions still to come are other ones
        intro e member
        have other : i ≠ e.1 := fun equal => absent (List.mem_map.mpr ⟨e, member, equal.symm⟩)
        simp only [settlePosition, Dict.get?_erase, other, if_false]
        exact present' e member

theorem expire_changes (onDate : Option Date) (policy : ExpirationPolicy)
    (settlements : Dict String ℚ) (s : ShadowLedger) :
    Changes D cfg now (.expire onDate policy settlements) s
      (expire D cfg now onDate policy settlements s).2 := by
  unfold expire
  dsimp only
  split
  · exact .refl
  · have lapses : Change D cfg now (.expire onDate policy settlements) s _ := .lapsed
    have settles := expirePositions_changes (D := D) cfg now onDate
      policy settlements s.positions.entries {} (lapseOrders cfg (expirationDate cfg now onDate) s)
      s.positions.distinct (fun e member => Dict.mem_entries.mp member)
    split
    next failed =>
      rw [failed] at settles
      exact .head lapses settles
    next went =>
      rw [went] at settles
      exact .head lapses settles

/-- Every operation is a sequence of the changes listed for it. -/
theorem perform_changes (D : Decimal.Context) (cfg : LedgerConfig) (now : Time) (op : Op)
    (s : ShadowLedger) : Changes D cfg now op s (perform D cfg now op s).2 := by
  cases op with
  | deposit amount reference =>
    simp only [perform, deposit]
    split
    · exact .refl
    next positive => exact .single (.credited (not_le.mp positive))
  | review ids proposal => exact .single .reviewed
  | submit command contract =>
    change Changes D cfg now _ s (submit D cfg now command contract s).2
    rcases (submit_cases D now command contract : (submit D cfg now command contract s).2 = s ∨ _)
      with same | ⟨bound, unused, recorded⟩
    · rw [same]
    · rw [recorded]
      exact .single (.recorded bound unused)
  | cancel command ref => exact cancel_changes command ref s
  | observeQuote ids quote => exact observeQuote_changes s
  | expire onDate policy settlements => exact expire_changes onDate policy settlements s

/-! ### Invariants -/

/-- What every change of an operation keeps, the operation keeps. -/
theorem perform_keeps {J : ShadowLedger → Prop} (op : Op)
    (change : ∀ {s s'}, Change D cfg now op s s' → J s → J s') (holds : J s) :
    J (perform D cfg now op s).2 := by
  have steps := perform_changes D cfg now op s
  generalize (perform D cfg now op s).2 = reached at steps ⊢
  induction steps with
  | refl => exact holds
  | tail _ last ih => exact change last ih

/-- What every change keeps holds in every state of a run. -/
theorem run_keeps {J : ShadowLedger → Prop}
    (change : ∀ {now op s s'}, Change D cfg now op s s' → J s → J s')
    (ops : List (Time × Op)) (s : ShadowLedger) (holds : J s) : J (run D cfg ops s) := by
  induction ops generalizing s with
  | nil => exact holds
  | cons step rest ih => exact ih _ (perform_keeps step.2 change holds)

end Inversion

end ShadowLedger

end Sentry
