import Sentry.Ledger.Changes
import Sentry.Support.Number

/-!
# Expirations that raise

`expire` in full: a settlement is any decimal, so each of its operations may signal, and
it changes the ledger line by line. What it has done by then stays. `expire` of the ledger
is this one where the settlements are numbers and no result is too large.
-/
namespace Sentry

open Support

/-- What an expiration works on. Money is any decimal here: an infinite settlement leaves
an infinite balance. -/
structure LedgerBooks where
  cash : Number
  positions : Dict String Position
  orders : Dict UUID LedgerOrder
  realizedPnl : Number
  closedRealizedPnl : Dict String Number

/-- The totals of an expiration under way. -/
structure SettlementTotals where
  instruments : List String := []
  settlement : Number := .finite 0
  realized : Number := .finite 0

/-- The exceptions of the decimal signals. -/
def signalled : Signal → Exc
  | .invalidOperation => .unlisted "InvalidOperation"
  | .overflow => .unlisted "Overflow"

namespace LedgerBooks

variable (D : Decimal.Context)

/-- What is offered for an expired contract; no entry means nothing. -/
def offered (settlements : Dict String Number) (instrumentId : String) : Number :=
  (settlements.get? instrumentId).getD (.finite 0)

/-- What a contract is settled at: nothing when it is not exercised. -/
def perShare (policy : ExpirationPolicy) (settlements : Dict String Number)
    (instrumentId : String) : Number :=
  if policy = .doNotExercise then .finite 0 else offered settlements instrumentId

/-- The proceeds and the result of closing a position. -/
def amounts (settlement : Number) (position : Position) : Except Signal (Number × Number) := do
  let proceeds ← Number.mul D (← Number.mul D settlement (.finite position.quantity))
    (.finite position.contract.multiplier)
  let gained ← Number.sub D settlement (.finite position.averageEntryPrice)
  let pnl ← Number.mul D (← Number.mul D gained (.finite position.quantity))
    (.finite position.contract.multiplier)
  pure (proceeds, pnl)

/-- What an instrument has realized once its position is closed. -/
def closedWith (closed : Dict String Number) (instrumentId : String) (position : Position)
    (pnl : Number) : Except Signal Number := do
  Number.add D (← Number.add D ((closed.get? instrumentId).getD (.finite 0))
    (.finite position.realizedPnl)) pnl

/-- One iteration of the second loop, for a position that is due. -/
def settle (policy : ExpirationPolicy) (settlements : Dict String Number) (instrumentId : String)
    (position : Position) (totals : SettlementTotals) (b : LedgerBooks) :
    Except Exc SettlementTotals × LedgerBooks :=
  match (offered settlements instrumentId).isNegative with
  | .error e => (.error (signalled e), b)
  | .ok true => (.error (.valueError "cash settlement cannot be negative"), b)
  | .ok false =>
    match amounts D (perShare policy settlements instrumentId) position with
    | .error e => (.error (signalled e), b)
    | .ok (proceeds, pnl) =>
      match Number.add D b.cash proceeds with
      | .error e => (.error (signalled e), b)
      | .ok cash =>
        let b := { b with cash := cash }
        match Number.add D b.realizedPnl pnl with
        | .error e => (.error (signalled e), b)
        | .ok realizedPnl =>
          let b := { b with realizedPnl := realizedPnl }
          match closedWith D b.closedRealizedPnl instrumentId position pnl with
          | .error e => (.error (signalled e), b)
          | .ok closed =>
            let b := { b with closedRealizedPnl := b.closedRealizedPnl.set instrumentId closed }
            match Number.add D totals.settlement proceeds with
            | .error e => (.error (signalled e), b)
            | .ok settlement =>
              match Number.add D totals.realized pnl with
              | .error e => (.error (signalled e), b)
              | .ok realized =>
                (.ok { instruments := totals.instruments ++ [instrumentId], settlement, realized },
                  { b with positions := b.positions.erase instrumentId })

/-- The second loop. -/
def settleAll (date : Date) (policy : ExpirationPolicy) (settlements : Dict String Number) :
    List (String × Position) → SettlementTotals → LedgerBooks →
      Except Exc SettlementTotals × LedgerBooks
  | [], totals, b => (.ok totals, b)
  | (instrumentId, position) :: rest, totals, b =>
    if position.contract.expiration > date then settleAll date policy settlements rest totals b
    else
      match settle D policy settlements instrumentId position totals b with
      | (.error e, b) => (.error e, b)
      | (.ok totals, b) => settleAll date policy settlements rest totals b

/-- A `Decimal` field of a record takes finite numbers only. -/
def finiteField : Number → Except Exc ℚ
  | .finite value => .ok value
  | _ => .error (.valueError "Input should be a finite number")

/-- `ExpirationResult(...)` of an expiration that came to these totals. -/
def resultOf (now : Time) (date : Date) (policy : ExpirationPolicy) (ended : List UUID)
    (totals : SettlementTotals) : Except Exc ExpirationResult := do
  let cashSettlement ← finiteField totals.settlement
  if cashSettlement < 0 then
    .error (.valueError "Input should be greater than or equal to 0")
  else
    let realizedPnl ← finiteField totals.realized
    pure { processedAt := now
           expirationDate := date
           expiredOrderIds := ended
           expiredInstrumentIds := totals.instruments
           cashSettlement := cashSettlement
           realizedPnl := realizedPnl
           policy := policy
           reason := match policy with
             | .cashSettle => "expired long options were cash-settled; no shares were created"
             | .doNotExercise =>
               "expired long options were not exercised; no shares were created" }

/-- `expire`. -/
def expire (cfg : LedgerConfig) (now : Time) (onDate : Option Date) (policy : ExpirationPolicy)
    (settlements : Dict String Number) (b : LedgerBooks) :
    Except Exc ExpirationResult × LedgerBooks :=
  let date := onDate.getD (cfg.marketDate now)
  if date > cfg.marketDate now then
    (.error (.dataInvalid "cannot process a future expiration date"), b)
  else
    let ended := b.orders.values.filter fun item => ShadowLedger.LedgerOrder.endsBy cfg item date
    let b := { b with orders := b.orders.mapValues (ShadowLedger.LedgerOrder.expireBy cfg date) }
    let loop := settleAll D date policy settlements b.positions.entries {} b
    (loop.1.bind (resultOf now date policy (ended.map (·.published.orderId))), loop.2)

/-! ### When a call raises, and what it leaves -/

/-- A call that raises has left money, contracts, orders and results as they were. -/
def LeavesAlone (b b' : LedgerBooks) : Prop :=
  b'.cash = b.cash ∧ b'.positions = b.positions ∧ b'.orders = b.orders ∧
    b'.realizedPnl = b.realizedPnl ∧ b'.closedRealizedPnl = b.closedRealizedPnl

/-- The positions an expiration comes to. -/
def due (date : Date) (entries : List (String × Position)) : List (String × Position) :=
  entries.filter fun e => decide (e.2.contract.expiration ≤ date)

/-- A position can be closed with these proceeds and this result. -/
structure Priced (policy : ExpirationPolicy) (settlements : Dict String Number)
    (closed : Dict String Number) (entry : String × Position) (amount : Number × Number) : Prop where
  nonneg : (offered settlements entry.1).isNegative = .ok false
  paid : amounts D (perShare policy settlements entry.1) entry.2 = .ok amount
  closes : ∃ result, closedWith D closed entry.1 entry.2 amount.2 = .ok result

/-- Every due position can be closed, no sum over them is too large, and the totals are
finite: then the whole expiration goes through. -/
def Passes (date : Date) (policy : ExpirationPolicy) (settlements : Dict String Number)
    (b : LedgerBooks) : Prop :=
  ∃ paid : List (Number × Number),
    List.Forall₂ (Priced D policy settlements b.closedRealizedPnl) (due date b.positions.entries)
      paid ∧
    (∃ cash, Number.sumFrom D b.cash (paid.map Prod.fst) = .ok cash) ∧
    (∃ realized, Number.sumFrom D b.realizedPnl (paid.map Prod.snd) = .ok realized) ∧
    (∃ settled, Number.sumFrom D (.finite 0) (paid.map Prod.fst) = .ok (.finite settled) ∧
      0 ≤ settled) ∧
    ∃ gained, Number.sumFrom D (.finite 0) (paid.map Prod.snd) = .ok (.finite gained)

/-- Closing a position is refused before anything that is kept has changed: its entry is
negative or no number, or the first sum that signals comes after none that changes a value. -/
def Refused (policy : ExpirationPolicy) (settlements : Dict String Number) (b : LedgerBooks)
    (entry : String × Position) : Prop :=
  (offered settlements entry.1).isNegative ≠ .ok false ∨
  (∃ e, amounts D (perShare policy settlements entry.1) entry.2 = .error e) ∨
  ∃ proceeds pnl, amounts D (perShare policy settlements entry.1) entry.2 = .ok (proceeds, pnl) ∧
    ((∃ e, Number.add D b.cash proceeds = .error e) ∨
      Number.add D b.cash proceeds = .ok b.cash ∧
      ((∃ e, Number.add D b.realizedPnl pnl = .error e) ∨
        Number.add D b.realizedPnl pnl = .ok b.realizedPnl ∧
        ((∃ e, closedWith D b.closedRealizedPnl entry.1 entry.2 pnl = .error e) ∨
          (∃ closed, closedWith D b.closedRealizedPnl entry.1 entry.2 pnl = .ok closed ∧
            b.closedRealizedPnl.get? entry.1 = some closed) ∧
          ((∃ e, Number.add D (.finite 0) proceeds = .error e) ∨
            ∃ e, Number.add D (.finite 0) pnl = .error e))))

section Outcomes

variable {D} {cfg : LedgerConfig} {now : Time} {onDate : Option Date} {date : Date}
  {policy : ExpirationPolicy} {settlements : Dict String Number} {b b' : LedgerBooks}
  {i : String} {p : Position} {totals totals' : SettlementTotals}

theorem settle_ok_iff :
    settle D policy settlements i p totals b = (.ok totals', b') ↔
      ∃ proceeds pnl cash realizedPnl closed settlement realized,
        (offered settlements i).isNegative = .ok false ∧
        amounts D (perShare policy settlements i) p = .ok (proceeds, pnl) ∧
        Number.add D b.cash proceeds = .ok cash ∧ Number.add D b.realizedPnl pnl = .ok realizedPnl ∧
        closedWith D b.closedRealizedPnl i p pnl = .ok closed ∧
        Number.add D totals.settlement proceeds = .ok settlement ∧
        Number.add D totals.realized pnl = .ok realized ∧
        totals' = { instruments := totals.instruments ++ [i], settlement, realized } ∧
        b' = { b with
          cash := cash
          realizedPnl := realizedPnl
          closedRealizedPnl := b.closedRealizedPnl.set i closed
          positions := b.positions.erase i } := by
  constructor
  · intro settled
    unfold settle at settled
    split at settled
    · cases settled
    · cases settled
    next nonneg =>
      split at settled
      · cases settled
      next proceeds pnl priced =>
        split at settled
        · cases settled
        next cash paid =>
          dsimp only at settled
          split at settled
          · cases settled
          next realizedPnl gained =>
            split at settled
            · cases settled
            next closed closes =>
              split at settled
              · cases settled
              next settlement sum =>
                split at settled
                · cases settled
                next realized sum' =>
                  cases settled
                  exact ⟨proceeds, pnl, cash, realizedPnl, closed, settlement, realized, nonneg,
                    priced, paid, gained, closes, sum, sum', rfl, rfl⟩
  · rintro ⟨proceeds, pnl, cash, realizedPnl, closed, settlement, realized, nonneg, priced, paid,
      gained, closes, sum, sum', rfl, rfl⟩
    simp only [settle, nonneg, priced, paid, gained, closes, sum, sum']

theorem LeavesAlone.refl (b : LedgerBooks) : LeavesAlone b b := ⟨rfl, rfl, rfl, rfl, rfl⟩

/-- Closing the first position raises and leaves everything as it was exactly where it is
refused before a value has changed. -/
theorem settle_refused_iff :
    (∃ e b', settle D policy settlements i p {} b = (.error e, b') ∧ LeavesAlone b b') ↔
      Refused D policy settlements b (i, p) := by
  unfold settle
  rcases nonneg : (offered settlements i).isNegative with e | negative
  · simp [Refused, nonneg, LeavesAlone.refl]
  cases negative with
  | true => simp [Refused, nonneg, LeavesAlone.refl]
  | false =>
  rcases priced : amounts D (perShare policy settlements i) p with e | ⟨proceeds, pnl⟩
  · simp [Refused, priced, LeavesAlone.refl]
  rcases paid : Number.add D b.cash proceeds with e | cash
  · simp [Refused, nonneg, priced, paid, LeavesAlone.refl]
  rcases gained : Number.add D b.realizedPnl pnl with e | realizedPnl
  · simp [Refused, nonneg, priced, paid, gained, LeavesAlone]
  rcases closes : closedWith D b.closedRealizedPnl i p pnl with e | closed
  · simp [Refused, nonneg, priced, paid, gained, closes, LeavesAlone]
  rcases sum : Number.add D (.finite 0) proceeds with e | settlement
  · simp [Refused, nonneg, priced, paid, gained, closes, sum, LeavesAlone, Dict.set_eq_self_iff]
  rcases sum' : Number.add D (.finite 0) pnl with e | realized
  · simp [Refused, nonneg, priced, paid, gained, closes, sum, sum', LeavesAlone,
      Dict.set_eq_self_iff]
  · simp [Refused, nonneg, priced, paid, gained, closes, sum, sum']

/-! ### The whole loop -/

/-- The loop passes over the positions that are not due. -/
theorem settleAll_due (rest : List (String × Position)) (totals : SettlementTotals)
    (b : LedgerBooks) :
    settleAll D date policy settlements rest totals b =
      settleAll D date policy settlements (due date rest) totals b := by
  induction rest generalizing totals b with
  | nil => rfl
  | cons entry rest ih =>
    obtain ⟨i, p⟩ := entry
    simp only [due, List.filter_cons] at ih ⊢
    by_cases ended : p.contract.expiration ≤ date
    · simp only [ended, decide_true, if_true, settleAll, not_lt.mpr ended, if_false]
      cases settle D policy settlements i p totals b with
      | mk outcome b' =>
        cases outcome with
        | error e => rfl
        | ok totals' => exact ih totals' b'
    · simp only [ended, decide_false, Bool.false_eq_true, if_false, settleAll, gt_iff_lt,
        not_le.mp ended, if_true]
      exact ih totals b

theorem settleAll_cons (ended : p.contract.expiration ≤ date) (rest : List (String × Position)) :
    settleAll D date policy settlements ((i, p) :: rest) totals b =
      match settle D policy settlements i p totals b with
      | (.error e, b) => (.error e, b)
      | (.ok totals, b) => settleAll D date policy settlements rest totals b := by
  rw [settleAll, if_neg (not_lt.mpr ended)]

/-- The loop keeps the orders, and a position that is gone stays gone. -/
theorem settleAll_keeps (rest : List (String × Position)) (totals : SettlementTotals)
    (b : LedgerBooks) :
    (settleAll D date policy settlements rest totals b).2.orders = b.orders ∧
      ∀ i, b.positions.get? i = none →
        (settleAll D date policy settlements rest totals b).2.positions.get? i = none := by
  have once : ∀ (i : String) (p : Position) (totals : SettlementTotals) (b : LedgerBooks),
      (settle D policy settlements i p totals b).2.orders = b.orders ∧
        ∀ j, b.positions.get? j = none →
          (settle D policy settlements i p totals b).2.positions.get? j = none := by
    intro i p totals b
    unfold settle
    dsimp only
    repeat' split
    all_goals first
      | exact ⟨rfl, fun _ gone => gone⟩
      | exact ⟨rfl, fun _ gone => by simp [Dict.get?_erase, gone]⟩
  induction rest generalizing totals b with
  | nil => exact ⟨rfl, fun _ gone => gone⟩
  | cons entry rest ih =>
    obtain ⟨i, p⟩ := entry
    rw [settleAll]
    split
    · exact ih totals b
    · have step := once i p totals b
      rcases settled : settle D policy settlements i p totals b with ⟨e | totals', b'⟩
      · simpa only [settled] using step
      · rw [settled] at step
        obtain ⟨orders, gone⟩ := ih totals' b'
        exact ⟨orders.trans step.1, fun j absent => gone j (step.2 j absent)⟩

/-- Whether a position can be closed depends on what its own instrument has realized. -/
theorem priced_congr {closed closed' : Dict String Number} {rest : List (String × Position)}
    (same : ∀ e ∈ rest, closed.get? e.1 = closed'.get? e.1) (paid : List (Number × Number)) :
    List.Forall₂ (Priced D policy settlements closed) rest paid ↔
      List.Forall₂ (Priced D policy settlements closed') rest paid := by
  induction rest generalizing paid with
  | nil => simp
  | cons entry rest ih =>
    cases paid with
    | nil => simp
    | cons first paid =>
      rw [List.forall₂_cons, List.forall₂_cons, ih fun e member => same e (by simp [member])]
      have here : ∀ pnl, closedWith D closed entry.1 entry.2 pnl =
          closedWith D closed' entry.1 entry.2 pnl := by
        intro pnl
        simp only [closedWith, same entry (by simp)]
      refine and_congr_left fun _ => ⟨?_, ?_⟩
      · exact fun priced => ⟨priced.nonneg, priced.paid, by simpa only [here] using priced.closes⟩
      · exact fun priced => ⟨priced.nonneg, priced.paid, by simpa only [here] using priced.closes⟩

/-- The loop comes to its end exactly where every due position can be closed and no running
sum is too large. -/
theorem settleAll_ok_iff (policy : ExpirationPolicy) (settlements : Dict String Number)
    (rest : List (String × Position))
    (ended : ∀ e ∈ rest, e.2.contract.expiration ≤ date) (distinct : (rest.map Prod.fst).Nodup)
    (totals totals' : SettlementTotals) (b : LedgerBooks) :
    (∃ b', settleAll D date policy settlements rest totals b = (.ok totals', b')) ↔
      ∃ paid : List (Number × Number),
        List.Forall₂ (Priced D policy settlements b.closedRealizedPnl) rest paid ∧
        (∃ cash, Number.sumFrom D b.cash (paid.map Prod.fst) = .ok cash) ∧
        (∃ realized, Number.sumFrom D b.realizedPnl (paid.map Prod.snd) = .ok realized) ∧
        Number.sumFrom D totals.settlement (paid.map Prod.fst) = .ok totals'.settlement ∧
        Number.sumFrom D totals.realized (paid.map Prod.snd) = .ok totals'.realized ∧
        totals'.instruments = totals.instruments ++ rest.map Prod.fst := by
  induction rest generalizing totals b with
  | nil =>
    cases totals
    cases totals'
    simp [settleAll, and_left_comm, and_comm, eq_comm]
  | cons entry rest ih =>
    obtain ⟨i, p⟩ := entry
    have here : p.contract.expiration ≤ date := ended (i, p) (by simp)
    have later : ∀ e ∈ rest, e.2.contract.expiration ≤ date :=
      fun e member => ended e (by simp [member])
    simp only [List.map_cons, List.nodup_cons] at distinct
    have others : ∀ (closed : Dict String Number) (value : Number), ∀ e ∈ rest,
        (closed.set i value).get? e.1 = closed.get? e.1 := by
      intro closed value e member
      refine Dict.get?_set_of_ne _ _ ?_
      rintro rfl
      exact distinct.1 (List.mem_map_of_mem member)
    rw [settleAll_cons here]
    constructor
    · rintro ⟨b', settled⟩
      rcases first : settle D policy settlements i p totals b with ⟨e | totals₁, b₁⟩
      · simp [first] at settled
      rw [first] at settled
      obtain ⟨proceeds, pnl, cash, realizedPnl, closed, settlement, realized, nonneg, priced, added,
        gained, closes, sum, sum', rfl, rfl⟩ := settle_ok_iff.mp first
      obtain ⟨paid, prices, ⟨cash', cashSum⟩, ⟨realized', realizedSum⟩, settledSum, gainedSum,
        instruments⟩ := (ih later distinct.2 _ _).mp ⟨b', settled⟩
      refine ⟨(proceeds, pnl) :: paid, List.forall₂_cons.mpr ⟨⟨nonneg, priced, closed, closes⟩,
        (priced_congr (others _ _) paid).mp prices⟩, ?_, ?_, ?_, ?_, ?_⟩
      · exact ⟨cash', Number.sumFrom_cons_ok.mpr ⟨cash, added, cashSum⟩⟩
      · exact ⟨realized', Number.sumFrom_cons_ok.mpr ⟨realizedPnl, gained, realizedSum⟩⟩
      · exact Number.sumFrom_cons_ok.mpr ⟨settlement, sum, settledSum⟩
      · exact Number.sumFrom_cons_ok.mpr ⟨realized, sum', gainedSum⟩
      · simpa using instruments
    · rintro ⟨paid, prices, ⟨cash', cashSum⟩, ⟨realized', realizedSum⟩, settledSum, gainedSum,
        instruments⟩
      obtain - | ⟨⟨nonneg, priced, closed, closes⟩, prices⟩ := prices
      obtain ⟨cash, added, cashSum⟩ := Number.sumFrom_cons_ok.mp cashSum
      obtain ⟨realizedPnl, gained, realizedSum⟩ := Number.sumFrom_cons_ok.mp realizedSum
      obtain ⟨settlement, sum, settledSum⟩ := Number.sumFrom_cons_ok.mp settledSum
      obtain ⟨realized, sum', gainedSum⟩ := Number.sumFrom_cons_ok.mp gainedSum
      rw [settle_ok_iff.mpr ⟨_, _, cash, realizedPnl, closed, settlement, realized, nonneg, priced,
        added, gained, closes, sum, sum', rfl, rfl⟩]
      exact (ih later distinct.2 _ _).mpr ⟨_, (priced_congr (others _ _) _).mpr prices,
        ⟨cash', cashSum⟩, ⟨realized', realizedSum⟩, settledSum, gainedSum, by simpa using instruments⟩

theorem due_ended (entries : List (String × Position)) :
    ∀ e ∈ due date entries, e.2.contract.expiration ≤ date :=
  fun _ member => of_decide_eq_true (List.mem_filter.mp member).2

theorem due_distinct (b : LedgerBooks) : ((due date b.positions.entries).map Prod.fst).Nodup :=
  ((List.filter_sublist (p := _)).map Prod.fst).nodup b.positions.distinct

/-- A record of the result is built exactly from finite totals, the settlement not negative. -/
theorem resultOf_ok_iff {ended : List UUID} :
    (∃ result, resultOf now date policy ended totals = .ok result) ↔
      (∃ settled, totals.settlement = .finite settled ∧ 0 ≤ settled) ∧
        ∃ gained, totals.realized = .finite gained := by
  unfold resultOf
  cases totals.settlement with
  | nan => simp [finiteField, bind, Except.bind]
  | infinite => simp [finiteField, bind, Except.bind]
  | finite settled =>
    by_cases negative : settled < 0
    · simp [finiteField, bind, Except.bind, negative]
    · cases totals.realized <;>
        simp [finiteField, bind, Except.bind, negative, not_lt.mp negative, pure, Except.pure]

/-- The order loop of an expiration. -/
def lapse (cfg : LedgerConfig) (date : Date) (b : LedgerBooks) : LedgerBooks :=
  { b with orders := b.orders.mapValues (ShadowLedger.LedgerOrder.expireBy cfg date) }

theorem expire_timely (timely : ShadowLedger.expirationDate cfg now onDate ≤ cfg.marketDate now) :
    let date := ShadowLedger.expirationDate cfg now onDate
    let loop := settleAll D date policy settlements (due date b.positions.entries) {}
      (lapse cfg date b)
    expire D cfg now onDate policy settlements b =
      (loop.1.bind (resultOf now date policy ((b.orders.values.filter fun item =>
        ShadowLedger.LedgerOrder.endsBy cfg item date).map (·.published.orderId))), loop.2) := by
  dsimp only
  rw [← settleAll_due]
  exact if_neg (not_lt.mpr timely)

theorem expire_returns_iff
    (timely : ShadowLedger.expirationDate cfg now onDate ≤ cfg.marketDate now) :
    (∃ result, (expire D cfg now onDate policy settlements b).1 = .ok result) ↔
      Passes D (ShadowLedger.expirationDate cfg now onDate) policy settlements b := by
  rw [expire_timely timely]
  dsimp only
  generalize ShadowLedger.expirationDate cfg now onDate = date
  have loop := fun totals' => settleAll_ok_iff (D := D) policy settlements
    (due date b.positions.entries) (due_ended _) (due_distinct b) {} totals' (lapse cfg date b)
  constructor
  · rintro ⟨result, returned⟩
    rcases went : settleAll D date policy settlements (due date b.positions.entries) {}
      (lapse cfg date b) with ⟨e | totals', b'⟩
    · rw [went] at returned
      cases returned
    · rw [went] at returned
      obtain ⟨paid, prices, cash, realized, settledSum, gainedSum, -⟩ :=
        (loop totals').mp ⟨b', went⟩
      obtain ⟨⟨settled, finite, nonneg⟩, gained, finite'⟩ := resultOf_ok_iff.mp ⟨result, returned⟩
      exact ⟨paid, prices, cash, realized, ⟨settled, finite ▸ settledSum, nonneg⟩, gained,
        finite' ▸ gainedSum⟩
  · rintro ⟨paid, prices, cash, realized, ⟨settled, settledSum, nonneg⟩, gained, gainedSum⟩
    obtain ⟨b', went⟩ := (loop ⟨_, .finite settled, .finite gained⟩).mpr
      ⟨paid, prices, cash, realized, settledSum, gainedSum, rfl⟩
    rw [went]
    exact resultOf_ok_iff.mpr ⟨⟨settled, rfl, nonneg⟩, gained, rfl⟩

/-- The order loop changes nothing exactly where no order ends. -/
theorem lapse_eq_iff :
    (lapse cfg date b).orders = b.orders ↔
      ∀ key item, b.orders.get? key = some item → ShadowLedger.LedgerOrder.endsBy cfg item date = false := by
  constructor
  · intro same key item found
    have lapsed : (b.orders.mapValues (ShadowLedger.LedgerOrder.expireBy cfg date)).get? key = some item := by
      rw [show b.orders.mapValues (ShadowLedger.LedgerOrder.expireBy cfg date) = b.orders from same, found]
    rw [Dict.get?_mapValues, found, Option.map_some, Option.some.injEq] at lapsed
    cases ends : ShadowLedger.LedgerOrder.endsBy cfg item date with
    | false => rfl
    | true =>
      rw [ShadowLedger.LedgerOrder.expireBy, if_pos ends] at lapsed
      simp only [ShadowLedger.LedgerOrder.endsBy, Bool.and_eq_true] at ends
      rw [← lapsed] at ends
      obtain ⟨isOpen, -⟩ := ends
      cases isOpen
  · intro none_
    apply Dict.ext_entries
    refine (List.map_congr_left fun e member => ?_).trans (List.map_id _)
    have stays := none_ e.1 e.2 (Dict.mem_entries.mp member)
    simp only [ShadowLedger.LedgerOrder.expireBy, stays, Bool.false_eq_true, if_false, id_eq, Prod.mk.eta]

end Outcomes

/-- A call that raises leaves money, contracts, orders and results as they were exactly
where the date is refused, or the call goes through, or no order ends on the date and the
first position it comes to is refused before any value has changed. -/
theorem expire_atomic_iff (D : Decimal.Context) (cfg : LedgerConfig) (now : Time)
    (onDate : Option Date) (policy : ExpirationPolicy) (settlements : Dict String Number)
    (b : LedgerBooks) :
    let date := ShadowLedger.expirationDate cfg now onDate
    (∀ e b', expire D cfg now onDate policy settlements b = (.error e, b') → LeavesAlone b b') ↔
      cfg.marketDate now < date ∨
      Passes D date policy settlements b ∨
      (∀ key item, b.orders.get? key = some item → ShadowLedger.LedgerOrder.endsBy cfg item date = false) ∧
        ∃ entry, (due date b.positions.entries).head? = some entry ∧
          Refused D policy settlements b entry := by
  intro date
  rcases lt_or_ge (cfg.marketDate now) date with future | timely
  · refine iff_of_true ?_ (Or.inl future)
    intro e b' failed
    rw [expire, if_pos future] at failed
    cases failed
    exact LeavesAlone.refl b
  constructor
  · intro atomic
    refine Or.inr (or_iff_not_imp_left.mpr fun fails => ?_)
    rcases outcome : expire D cfg now onDate policy settlements b with ⟨e | result, b'⟩
    swap
    · exact absurd ((expire_returns_iff timely).mp ⟨result, by rw [outcome]⟩) fails
    obtain ⟨cash, positions, orders, realized, closed⟩ := atomic e b' outcome
    rw [expire_timely timely] at outcome
    have left : (settleAll D date policy settlements (due date b.positions.entries) {}
      (lapse cfg date b)).2 = b' := congrArg Prod.snd outcome
    have keeps : b'.orders = (lapse cfg date b).orders :=
      left ▸ (settleAll_keeps (due date b.positions.entries) {} (lapse cfg date b)).1
    refine ⟨lapse_eq_iff.mp (keeps.symm.trans orders), ?_⟩
    rcases dueList : due date b.positions.entries with - | ⟨⟨i, p⟩, later⟩
    · -- nothing is due, so nothing can raise
      refine absurd ⟨[], ?_, ⟨_, rfl⟩, ⟨_, rfl⟩, ⟨0, rfl, le_refl 0⟩, 0, rfl⟩ fails
      rw [dueList]
      exact .nil
    · refine ⟨(i, p), rfl, ?_⟩
      have member : (i, p) ∈ due date b.positions.entries := by simp [dueList]
      have held : b.positions.get? i = some p := Dict.mem_entries.mp (List.mem_filter.mp member).1
      rw [dueList, settleAll_cons (due_ended _ _ member)] at left
      rcases first : settle D policy settlements i p {} (lapse cfg date b) with ⟨e | totals, b₁⟩
      · rw [first] at left
        obtain rfl : b₁ = b' := left
        exact (settle_refused_iff (b := lapse cfg date b)).mp
          ⟨e, b₁, first, cash, positions, keeps, realized, closed⟩
      · -- the first position is closed and gone, and is not there again afterwards
        obtain ⟨_, _, _, _, _, _, _, _, _, _, _, _, _, _, _, rfl⟩ := settle_ok_iff.mp first
        rw [first] at left
        have gone : b'.positions.get? i = none := by
          rw [← left]
          exact (settleAll_keeps later totals _).2 i (Dict.get?_erase_self b.positions i)
        rw [positions, held] at gone
        cases gone
  · rintro (future | passes | ⟨none_, ⟨i, p⟩, head, refused⟩) e b' failed
    · exact absurd timely (not_le.mpr future)
    · obtain ⟨result, returned⟩ := (expire_returns_iff timely).mpr passes
      rw [failed] at returned
      cases returned
    · rw [expire_timely timely] at failed
      obtain ⟨later, dueList⟩ : ∃ later, due date b.positions.entries = (i, p) :: later :=
        List.head?_eq_some_iff.mp head
      have member : (i, p) ∈ due date b.positions.entries := by simp [dueList]
      obtain ⟨e', b₁, first, cash, positions, orders, realized, closed⟩ :=
        (settle_refused_iff (b := lapse cfg date b)).mpr refused
      have left : _ = b' := congrArg Prod.snd failed
      dsimp only at left
      rw [dueList, settleAll_cons (due_ended _ _ member), first] at left
      subst left
      exact ⟨cash, positions, orders.trans (lapse_eq_iff.mpr none_), realized, closed⟩

/-! ### Settlements in range -/

/-- The books of a ledger. -/
def ofLedger (s : ShadowLedger) : LedgerBooks where
  cash := .finite s.cash
  positions := s.positions
  orders := s.orders
  realizedPnl := .finite s.realizedPnl
  closedRealizedPnl := s.closedRealizedPnl.mapValues .finite

/-- The totals of an expiration of a ledger. -/
def ofTotals (totals : ShadowLedger.ExpirationTotals) : SettlementTotals where
  instruments := totals.instruments
  settlement := .finite totals.settlement
  realized := .finite totals.realized

section InRange

variable {D} (roomy : ∀ q, D.fits q = true) (policy : ExpirationPolicy) (settlements : Dict String ℚ)

theorem offered_finite (i : String) :
    offered (settlements.mapValues .finite) i = .finite ((settlements.get? i).getD 0) := by
  rw [offered, Dict.get?_mapValues]
  cases settlements.get? i <;> rfl

theorem perShare_finite (i : String) :
    perShare policy (settlements.mapValues .finite) i =
      .finite (ShadowLedger.settledAt policy settlements i) := by
  rw [perShare, offered_finite, ShadowLedger.settledAt]
  split <;> rfl

include roomy

theorem amounts_finite (q : ℚ) (p : Position) :
    amounts D (.finite q) p = .ok
      (.finite (D.mul (D.mul q p.quantity) p.contract.multiplier),
        .finite (D.mul (D.mul (D.sub q p.averageEntryPrice) p.quantity) p.contract.multiplier)) := by
  simp only [amounts, Number.mul_finite roomy, Number.sub_finite roomy, bind, Except.bind, pure,
    Except.pure]

theorem closedWith_finite (closed : Dict String ℚ) (i : String) (p : Position) (pnl : ℚ) :
    closedWith D (closed.mapValues .finite) i p (.finite pnl) =
      .ok (.finite (D.add (D.add ((closed.get? i).getD 0) p.realizedPnl) pnl)) := by
  have stored : ((closed.mapValues Number.finite).get? i).getD (.finite 0) =
      .finite ((closed.get? i).getD 0) := by
    rw [Dict.get?_mapValues]
    cases closed.get? i <;> rfl
  simp only [closedWith, stored, Number.add_finite roomy, bind, Except.bind]

/-- One iteration on the books of a ledger. -/
theorem settle_ofLedger (i : String) (p : Position) (totals : ShadowLedger.ExpirationTotals) (s : ShadowLedger)
    (nonneg : ¬ (settlements.get? i).getD 0 < 0) :
    settle D policy (settlements.mapValues .finite) i p (ofTotals totals) (ofLedger s) =
      (.ok (ofTotals
          { instruments := totals.instruments ++ [i]
            settlement := D.add totals.settlement (D.mul (D.mul
              (ShadowLedger.settledAt policy settlements i) p.quantity) p.contract.multiplier)
            realized := D.add totals.realized (D.mul (D.mul (D.sub
              (ShadowLedger.settledAt policy settlements i) p.averageEntryPrice) p.quantity)
                p.contract.multiplier) }),
        ofLedger (ShadowLedger.settlePosition D i p
          (ShadowLedger.settledAt policy settlements i) s)) := by
  simp only [settle, offered_finite, Number.isNegative, nonneg, decide_false, perShare_finite,
    amounts_finite roomy, ofLedger, ofTotals, Number.add_finite roomy, closedWith_finite roomy,
    ShadowLedger.settlePosition, Dict.mapValues_set]

theorem settleAll_ofLedger (date : Date) (rest : List (String × Position))
    (totals : ShadowLedger.ExpirationTotals) (s : ShadowLedger) :
    settleAll D date policy (settlements.mapValues .finite) rest (ofTotals totals) (ofLedger s) =
      ((ShadowLedger.expirePositions D date policy settlements rest totals s).1.map ofTotals,
        ofLedger (ShadowLedger.expirePositions D date policy settlements rest totals s).2) := by
  induction rest generalizing totals s with
  | nil => rfl
  | cons entry rest ih =>
    obtain ⟨i, p⟩ := entry
    rw [settleAll, ShadowLedger.expirePositions]
    split
    · exact ih totals s
    · dsimp only
      by_cases negative : (settlements.get? i).getD 0 < 0
      · simp only [settle, offered_finite, Number.isNegative, negative, decide_true, if_true]
        rfl
      · rw [settle_ofLedger roomy policy settlements i p totals s negative, if_neg negative]
        exact ih _ _

/-- Where every result fits, an expiration of the ledger is the expiration of its books. -/
theorem expire_ofLedger (cfg : LedgerConfig) (now : Time) (onDate : Option Date) (s : ShadowLedger)
    (nonneg : ∀ result, (ShadowLedger.expire D cfg now onDate policy settlements s).1 = .ok result →
      0 ≤ result.cashSettlement) :
    expire D cfg now onDate policy (settlements.mapValues .finite) (ofLedger s) =
      ((ShadowLedger.expire D cfg now onDate policy settlements s).1,
        ofLedger (ShadowLedger.expire D cfg now onDate policy settlements s).2) := by
  have loop := settleAll_ofLedger roomy policy settlements (onDate.getD (cfg.marketDate now))
    s.positions.entries {} (ShadowLedger.lapseOrders cfg (onDate.getD (cfg.marketDate now)) s)
  unfold ShadowLedger.expire at nonneg ⊢
  dsimp only at nonneg ⊢
  by_cases future : onDate.getD (cfg.marketDate now) > cfg.marketDate now
  · rw [expire, if_pos future, if_pos future]
  · rw [if_neg future] at nonneg ⊢
    refine (if_neg future).trans ((congrArg
      (fun outcome : Except Exc SettlementTotals × LedgerBooks =>
        (outcome.1.bind (resultOf now _ policy _), outcome.2)) loop).trans ?_)
    rcases went : ShadowLedger.expirePositions D (onDate.getD (cfg.marketDate now)) policy
      settlements s.positions.entries {}
      (ShadowLedger.lapseOrders cfg (onDate.getD (cfg.marketDate now)) s) with ⟨e | totals, s'⟩
    · rfl
    · rw [went] at nonneg
      have settled := nonneg _ rfl
      simp only [Except.map, Except.bind, resultOf, ofTotals, finiteField, bind,
        not_lt.mpr settled, if_false, pure, Except.pure]
      rfl

end InRange

end LedgerBooks

namespace ShadowLedger

/-- The sample contract on another instrument. -/
def otherContract : OptionContract := { sampleContract with
  instrumentId := "qqq-put"
  instrumentId_ne := by simp }

/-- One contract of each of two instruments, held until they expire. -/
def pairRun : List (Time × Op) :=
  [(10, .submit (sampleCommand 11 .placeOptionOrder .buyToOpen 1 ⟨150, -2⟩) sampleContract),
    (20, .observeQuote sampleIds (sampleQuote 5 15 15 1 (5 / 4))),
    (30, .submit { sampleCommand 12 .placeOptionOrder .buyToOpen 1 ⟨150, -2⟩ with
      instrumentId := "qqq-put" } otherContract),
    (40, .observeQuote sampleIds { sampleQuote 6 35 35 1 (5 / 4) with contract := otherContract })]

end ShadowLedger

namespace LedgerBooks

open ShadowLedger in
/-- Both contracts, on the day they expire. -/
def pairBooks : LedgerBooks :=
  ofLedger (run (.halfEven 28) sampleConfig pairRun (fresh sampleConfig))

/-- Two dollars for the first contract and something else for the second. -/
def expirePair (second : Number) : Except Exc ExpirationResult × LedgerBooks :=
  expire (.halfEven 28) ShadowLedger.sampleConfig 77760000000000 none .cashSettle
    (Dict.ofPairs [("spy-put", .finite 2), ("qqq-put", second)]) pairBooks

/-- A second settlement that is negative or no number raises when the first contract has been
paid, and an infinite one when both have. -/
theorem expire_pays_and_raises :
    pairBooks.cash = .finite 250 ∧ pairBooks.realizedPnl = .finite 0 ∧
    pairBooks.positions.keys = ["spy-put", "qqq-put"] ∧
    (∀ second ∈ [Number.finite (-1), .nan],
      (expirePair second).1.toOption = none ∧ (expirePair second).2.cash = .finite 450 ∧
        (expirePair second).2.realizedPnl = .finite 75 ∧
        (expirePair second).2.positions.keys = ["qqq-put"]) ∧
    (expirePair (.infinite false)).1.toOption = none ∧
    (expirePair (.infinite false)).2.cash = .infinite false ∧
    (expirePair (.infinite false)).2.positions.keys = [] := by
  decide +kernel

end LedgerBooks

end Sentry
