import Mathlib.Data.Finset.Card
import Mathlib.Data.Finset.Dedup
import Sentry.Ledger.FillModels
import Sentry.Support.Dict
import Sentry.Support.Literals

/-!
# The shadow ledger

`app/broker/shadow_ledger.py`: the long-option cash ledger the demo brokers
share. Every operation takes the clock reading at which it runs and returns its
result together with the ledger it leaves; an operation that raises after it
has changed something returns the changed ledger with the exception, as the
source leaves it. Freshly drawn identifiers are an argument, keyed by the order
they are drawn for.
-/
namespace Sentry

open Support

inductive ExpirationPolicy where
  | doNotExercise | cashSettle
  deriving DecidableEq, Repr

structure DepositRecord where
  amount : ℚ
  depositedAt : Time
  reference : String
  deriving DecidableEq

structure ExpirationResult where
  processedAt : Time
  expirationDate : Date
  expiredOrderIds : List UUID
  expiredInstrumentIds : List String
  cashSettlement : ℚ
  realizedPnl : ℚ
  policy : ExpirationPolicy
  reason : String
  deriving DecidableEq

/-- `_LedgerOrder`. -/
structure LedgerOrder where
  published : BrokerOrder
  command : BrokerCommandIntent

/-- What a ledger is constructed with, and the platform it runs on. The ledger
models the DEMO environment only. -/
structure LedgerConfig where
  hashing : Hashing
  /-- The exchange's calendar date (New York) of an instant. -/
  marketDate : Time → Date
  initialCash : ℚ := 25
  accountKind : AccountKind := .shadow
  fillModel : FillModel := .conservative {}
  maxQuoteAge : ℤ := 30000000
  namespace_ : String := "demo"
  initialCash_nonneg : 0 ≤ initialCash := by norm_num
  accountKind_local : accountKind ≠ .brokerObserved := by simp
  maxQuoteAge_pos : 0 < maxQuoteAge := by norm_num
  namespace_ne : namespace_ ≠ "" := by simp

structure ShadowLedger where
  cash : ℚ
  orders : Dict UUID LedgerOrder := .empty
  orderByIdempotency : Dict String UUID := .empty
  positions : Dict String Position := .empty
  fills : List Fill := []
  quotes : Dict String OptionQuote := .empty
  proposals : Dict UUID TradeProposal := .empty
  rejectionReasons : Dict UUID (List String) := .empty
  deposits : List DepositRecord := []
  entryOrdersByDate : Dict Date (Finset UUID) := .empty
  realizedPnl : ℚ := 0
  closedRealizedPnl : Dict String ℚ := .empty

/-- Identifiers drawn by one call: a call draws at most one of each for an order. -/
structure FreshIds where
  fill : UUID → UUID
  position : UUID → UUID
  review : UUID
  account : UUID

/-- How a cancellation names its target: an identifier or a text. -/
inductive OrderRef where
  | uuid (id : UUID)
  | text (s : String)

/-- `UUID(text)`. What is left without its decoration are 32 characters, which are read as an
integer is. -/
def UUID.ofText (s : String) : Option UUID :=
  let undecorated := Literals.without "uuid:" (Literals.without "urn:" s.toList)
  let hex := (Literals.strip (fun c => c == '{' || c == '}') undecorated).filter fun c => c != '-'
  if hex.length ≠ 32 then none
  else
    match Literals.hexadecimal hex with
    | some (.ofNat n) => some ⟨n⟩
    | _ => none

example : ["urn:uuid:00000000-0000-4000-8000-0000000000aB", "{000000000000400080000000000000ab}",
    "00000000{}00004000800000000000ab", "0x000000000040008000000000000_ab"].map UUID.ofText =
      [some ⟨0x400080000000000000ab⟩, some ⟨0x400080000000000000ab⟩, none,
        some ⟨0x40008000000000000ab⟩] := by
  decide +kernel

/-- The RFC 4122 namespace for URLs. -/
def NAMESPACE_URL : UUID := ⟨0x6ba7b8119dad11d180b400c04fd430c8⟩

def OrderState.isOpen : OrderState → Bool
  | .open_ | .partial_ => true
  | _ => false

def OrderState.isTerminal : OrderState → Bool
  | .filled | .canceled | .rejected | .expired => true
  | _ => false

/-- `filled_quantity` subtracted from `quantity`. -/
def BrokerOrder.remaining (o : BrokerOrder) : ℤ := o.quantity - o.filledQuantity

def BrokerOrder.isOpenBuy (o : BrokerOrder) : Bool := o.state.isOpen && o.side == .buyToOpen

def BrokerOrder.isOpenSell (o : BrokerOrder) (instrumentId : String) : Bool :=
  o.state.isOpen && o.side == .sellToClose && o.contract.instrumentId == instrumentId

namespace ShadowLedger

variable (D : Decimal.Context) (cfg : LedgerConfig)

/-- A newly constructed ledger. -/
def fresh : ShadowLedger := { cash := cfg.initialCash }

/-! ### Derived quantities -/

def reservedBuyingPower (s : ShadowLedger) : ℚ :=
  D.sum ((s.orders.values.filter (·.published.isOpenBuy)).map fun item =>
    D.mul (D.mul item.published.remaining item.published.limitPrice)
      item.published.contract.multiplier)

def buyingPower (s : ShadowLedger) : ℚ := D.sub s.cash (s.reservedBuyingPower D)

/-- The owned quantity of an instrument; no position means none. -/
def owned (s : ShadowLedger) (instrumentId : String) : ℤ :=
  ((s.positions.get? instrumentId).map Position.quantity).getD 0

/-- Remaining quantity of the open closing orders in an instrument. -/
def reservedQuantity (s : ShadowLedger) (instrumentId : String) : ℤ :=
  ((s.orders.values.filter (·.published.isOpenSell instrumentId)).map
    (·.published.remaining)).sum

def availablePositionQuantity (s : ShadowLedger) (instrumentId : String) : ℤ :=
  s.owned instrumentId - s.reservedQuantity instrumentId

def positionRisk (p : Position) : ℚ :=
  D.mul (D.mul p.averageEntryPrice p.quantity) p.contract.multiplier

def openOptionRisk (s : ShadowLedger) : ℚ :=
  D.add (D.sum (s.positions.values.map (positionRisk D))) (s.reservedBuyingPower D)

/-- `set(self._positions) | pending_instruments`. -/
def heldInstruments (s : ShadowLedger) : Finset String :=
  s.positions.keys.toFinset ∪
    ((s.orders.values.filter (·.published.isOpenBuy)).map
      (·.published.contract.instrumentId)).toFinset

/-- The entry orders charged to the admission budget of a date. -/
def admittedOn (s : ShadowLedger) (date : Date) : Finset UUID :=
  (s.entryOrdersByDate.get? date).getD ∅

def accountSnapshot (now : Time) (snapshotId : UUID) (s : ShadowLedger) : AccountSnapshot where
  createdAt := now
  snapshotId := snapshotId
  environment := .demo
  accountKind := cfg.accountKind
  accountFingerprint := none
  cash := s.cash
  buyingPower := max 0 (s.buyingPower D)
  openOptionRisk := s.openOptionRisk D
  openPositions := s.heldInstruments.card
  newEntriesToday := (s.admittedOn (cfg.marketDate now)).card
  asOf := now
  isAuthenticated := true
  stateKnown := true

def invariantDiscrepancies (s : ShadowLedger) : List String :=
  (if s.cash < 0 then ["ledger cash is negative"] else []) ++
  (if s.buyingPower D < 0 then ["open buy reservations exceed cash"] else []) ++
  (s.orders.values.flatMap fun item =>
    let order := item.published
    (if ¬(0 ≤ order.filledQuantity ∧ order.filledQuantity ≤ order.quantity) then
      ["order " ++ order.orderId.str ++ " has invalid filled quantity"] else []) ++
    (if order.state = .filled ∧ order.filledQuantity ≠ order.quantity then
      ["filled order " ++ order.orderId.str ++ " is incomplete"] else [])) ++
  (s.positions.entries.flatMap fun (instrumentId, position) =>
    (if position.quantity ≤ 0 then ["position " ++ instrumentId ++ " is not positive"] else []) ++
    (if s.availablePositionQuantity instrumentId < 0 then
      ["position " ++ instrumentId ++ " is oversubscribed by close orders"] else []))

/-! ### Deposits and reviews -/

def deposit (now : Time) (amount : ℚ) (reference : String) (s : ShadowLedger) :
    Except Exc DepositRecord × ShadowLedger :=
  if amount ≤ 0 then (.error (.valueError "deposit amount must be positive"), s)
  else
    let record : DepositRecord := ⟨amount, now, reference⟩
    (.ok record, { s with cash := D.add s.cash amount, deposits := s.deposits ++ [record] })

def reviewWarnings (now : Time) (proposal : TradeProposal) (s : ShadowLedger) : List String :=
  (if proposal.environment ≠ .demo then
    ["proposal execution environment does not match ledger"] else []) ++
  (if proposal.namespace_ ≠ cfg.namespace_ then
    ["proposal namespace does not match ledger"] else []) ++
  (if proposal.contract.expiration < cfg.marketDate now then
    ["option contract is expired"] else []) ++
  (match s.quotes.get? proposal.contract.instrumentId with
    | none => ["no externally supplied quote is available"]
    | some quote =>
      (if quote.snapshotId ≠ proposal.quoteSnapshotId then
        ["proposal does not reference the latest quote snapshot"] else []) ++
      (if quote.metadata.effectiveAt > now ∨ quote.metadata.observedAt > now then
        ["quote is from the future"]
      else if now - quote.metadata.observedAt > cfg.maxQuoteAge then ["option quote is stale"]
      else [])) ++
  (match proposal.side with
    | .buyToOpen =>
      if proposal.maxLoss D > s.buyingPower D then ["insufficient simulated buying power"] else []
    | .sellToClose =>
      if proposal.quantity > s.availablePositionQuantity proposal.contract.instrumentId then
        ["insufficient unreserved long position to close"] else [])

def review (now : Time) (ids : FreshIds) (proposal : TradeProposal) (s : ShadowLedger) :
    BrokerReview × ShadowLedger :=
  let warnings := reviewWarnings D cfg now proposal s
  ({ createdAt := now
     reviewId := ids.review
     environment := .demo
     proposalId := proposal.proposalId
     accepted := warnings.isEmpty
     warnings := warnings
     rawReference := some (cfg.accountKind.value.toLower ++ "-ledger-review")
     sideEffectFree := true },
   { s with proposals := s.proposals.set proposal.proposalId proposal })

/-! ### Placing and cancelling -/

/-- `_duplicate_order`: the order an idempotency key already maps to. -/
def duplicateOrder (command : BrokerCommandIntent) (s : ShadowLedger) :
    Except Exc (Option BrokerOrder) :=
  match s.orderByIdempotency.get? command.idempotencyKey with
  | none => .ok none
  | some existingId =>
    match s.orders.get? existingId with
    | none => .error (.unlisted "KeyError")
    | some item =>
      -- a cancel key may map to its target, so only placements compare hashes
      if command.action = .placeOptionOrder ∧
          item.command.commandHash cfg.hashing ≠ command.commandHash cfg.hashing then
        .error (.safetyCritical "ledger idempotency key was reused with different content")
      else .ok (some item.published)

def validateCommand (command : BrokerCommandIntent) (contract : OptionContract)
    (expected : BrokerAction) (s : ShadowLedger) : Except Exc Unit :=
  if command.environment ≠ .demo then
    .error (.safetyCritical "command environment does not match ledger")
  else if command.namespace_ ≠ cfg.namespace_ then
    .error (.safetyCritical "command namespace does not match ledger")
  else if command.action ≠ expected then
    .error (.dataInvalid ("operation requires " ++ expected.value ++ " intent"))
  else if command.instrumentId ≠ contract.instrumentId then
    .error (.dataInvalid "command instrument does not match option contract")
  else match s.proposals.get? command.proposalId with
    | none => .ok ()
    | some proposal =>
      if proposal.contract.instrumentId ≠ command.instrumentId then
        .error (.safetyCritical "reviewed proposal and command instrument differ")
      else if proposal.side ≠ command.side ∨ proposal.quantity ≠ command.quantity then
        .error (.safetyCritical "reviewed proposal and command order terms differ")
      else if proposal.limitPrice.val ≠ command.limitPrice.val then
        .error (.safetyCritical "reviewed proposal and command limit differ")
      else .ok ()

def rejectionReasonsFor (now : Time) (command : BrokerCommandIntent) (contract : OptionContract)
    (s : ShadowLedger) : List String :=
  (if contract.expiration < cfg.marketDate now then ["option contract is expired"] else []) ++
  (match command.side with
    | .buyToOpen =>
      if D.mul (D.mul command.limitPrice.val command.quantity) contract.multiplier >
          s.buyingPower D then ["insufficient simulated buying power"] else []
    | .sellToClose =>
      if command.quantity > s.availablePositionQuantity contract.instrumentId then
        ["insufficient unreserved long position to close"] else [])

/-- The identifier a placement command's order gets. -/
def orderIdFor (command : BrokerCommandIntent) : UUID :=
  cfg.hashing.uuid5 NAMESPACE_URL ("options-sentinel:" ++ command.orderIntentId.str)

/-- Add an order to the admission budget of a date. -/
def admitEntry (date : Date) (orderId : UUID) (s : ShadowLedger) : ShadowLedger :=
  { s with entryOrdersByDate := s.entryOrdersByDate.set date (insert orderId (s.admittedOn date)) }

/-- The order a placement command becomes, given why it is refused (if it is). -/
def newOrder (now : Time) (command : BrokerCommandIntent) (contract : OptionContract)
    (reasons : List String) : BrokerOrder where
  createdAt := now
  orderId := orderIdFor cfg command
  brokerOrderId := none
  intentId := command.orderIntentId
  environment := .demo
  state := if reasons.isEmpty then .open_ else .rejected
  contract := contract
  side := command.side
  quantity := command.quantity
  filledQuantity := 0
  limitPrice := command.limitPrice.val
  averageFillPrice := none
  submittedAt := some now
  quantity_pos := command.quantity_pos
  limitPrice_pos := command.limitPrice_pos

/-- The part of `submit` after its guards: record the order, accepted or rejected.
The daily admission budget is reserved at acceptance, not at fill. -/
def recordSubmission (now : Time) (command : BrokerCommandIntent) (contract : OptionContract)
    (s : ShadowLedger) : BrokerOrder × ShadowLedger :=
  let reasons := rejectionReasonsFor D cfg now command contract s
  let order := newOrder cfg now command contract reasons
  let recorded := { s with
    orders := s.orders.set order.orderId ⟨order, command⟩
    orderByIdempotency := s.orderByIdempotency.set command.idempotencyKey order.orderId }
  (order,
    if !reasons.isEmpty then
      { recorded with rejectionReasons := recorded.rejectionReasons.set order.orderId reasons }
    else if command.side = .buyToOpen then
      recorded.admitEntry (cfg.marketDate now) order.orderId
    else recorded)

def submit (now : Time) (command : BrokerCommandIntent) (contract : OptionContract)
    (s : ShadowLedger) : Except Exc BrokerOrder × ShadowLedger :=
  match validateCommand cfg command contract .placeOptionOrder s with
  | .error e => (.error e, s)
  | .ok () =>
    match duplicateOrder cfg command s with
    | .error e => (.error e, s)
    | .ok (some duplicate) => (.ok duplicate, s)
    | .ok none =>
      let (order, recorded) := recordSubmission D cfg now command contract s
      (.ok order, recorded)

/-- `_find_order`. -/
def findOrder (ref : OrderRef) (s : ShadowLedger) : Option (UUID × LedgerOrder) :=
  match ref with
  | .uuid id => (s.orders.get? id).map (id, ·)
  | .text t =>
    match (UUID.ofText t).bind fun id => (s.orders.get? id).map (id, ·) with
    | some found => some found
    | none => s.orders.entries.find? fun e => e.2.published.brokerOrderId = some t

def OrderRef.show_ : OrderRef → String
  | .uuid id => id.str
  | .text t => t

/-- Let an idempotency key stand for an order. -/
def remember (idempotencyKey : String) (orderId : UUID) (s : ShadowLedger) : ShadowLedger :=
  { s with orderByIdempotency := s.orderByIdempotency.set idempotencyKey orderId }

def cancel (command : BrokerCommandIntent) (ref : OrderRef) (s : ShadowLedger) :
    Except Exc BrokerOrder × ShadowLedger :=
  if command.action ≠ .cancelOptionOrder then
    (.error (.dataInvalid "cancel operation requires CANCEL_OPTION_ORDER intent"), s)
  else if command.environment ≠ .demo then
    (.error (.safetyCritical "command environment does not match ledger"), s)
  else match duplicateOrder cfg command s with
    | .error e => (.error e, s)
    | .ok (some duplicate) => (.ok duplicate, s)
    | .ok none =>
      match findOrder ref s with
      | none => (.error (.dataInvalid ("unknown ledger order: " ++ OrderRef.show_ ref)), s)
      | some (key, item) =>
        let order := item.published
        if command.instrumentId ≠ order.contract.instrumentId then
          (.error (.dataInvalid "cancel command instrument does not match target order"), s)
        else if order.state.isTerminal then
          (.ok order, s.remember command.idempotencyKey order.orderId)
        else if !order.state.isOpen then
          (.error (.safetyCritical ("cannot cancel order in state " ++ order.state.value)), s)
        else
          let canceled := { order with state := .canceled }
          let ended := { s with orders := s.orders.set key ⟨canceled, item.command⟩ }
          (.ok canceled, ended.remember command.idempotencyKey order.orderId)

/-! ### Quotes and fills -/

/-- A position with the marks of a quote. -/
def markedPosition (quote : OptionQuote) (position : Position) : Position :=
  let unrealized := D.mul (D.mul (D.sub quote.bid position.averageEntryPrice) position.quantity)
    position.contract.multiplier
  { position with
    currentBid := quote.bid
    currentAsk := quote.ask
    bestUnrealizedPnl := max position.bestUnrealizedPnl unrealized
    worstUnrealizedPnl := min position.worstUnrealizedPnl unrealized }

def markPosition (quote : OptionQuote) (s : ShadowLedger) : ShadowLedger :=
  match s.positions.get? quote.contract.instrumentId with
  | none => s
  | some position =>
    { s with
      positions := s.positions.set quote.contract.instrumentId (markedPosition D quote position) }

/-- The position a first entry opens. -/
def openedPosition (now : Time) (positionId : UUID) (command : BrokerCommandIntent)
    (contract : OptionContract) (quote : OptionQuote) (quantity : ℤ) (price : ℚ)
    (proposal : Option TradeProposal) : Position :=
  let unrealized := D.mul (D.mul (D.sub quote.bid price) quantity) contract.multiplier
  { createdAt := now
    positionId := positionId
    environment := .demo
    contract := contract
    quantity := quantity
    averageEntryPrice := price
    currentBid := quote.bid
    currentAsk := quote.ask
    realizedPnl := 0
    bestUnrealizedPnl := unrealized
    worstUnrealizedPnl := unrealized
    thesisId := (proposal.map TradeProposal.packetId).getD command.proposalId
    invalidationConditions := (proposal.map TradeProposal.invalidationConditions).getD []
    exitPolicyVersion := (proposal.map TradeProposal.policyVersion).getD "unknown" }

/-- An existing position averaged with a further entry. -/
def averagedPosition (existing : Position) (quote : OptionQuote) (quantity : ℤ) (price : ℚ) :
    Position :=
  let total := existing.quantity + quantity
  { existing with
    quantity := total
    averageEntryPrice := D.div (D.add (D.mul existing.averageEntryPrice existing.quantity)
      (D.mul price quantity)) total
    currentBid := quote.bid
    currentAsk := quote.ask }

def applyEntryPosition (now : Time) (positionId : UUID) (command : BrokerCommandIntent)
    (contract : OptionContract) (quote : OptionQuote) (quantity : ℤ) (price : ℚ)
    (s : ShadowLedger) : ShadowLedger :=
  match s.positions.get? contract.instrumentId with
  | none =>
    let opened := openedPosition D now positionId command contract quote quantity price
      (s.proposals.get? command.proposalId)
    { s with positions := s.positions.set contract.instrumentId opened }
  | some existing =>
    let averaged := averagedPosition D existing quote quantity price
    markPosition D quote { s with positions := s.positions.set contract.instrumentId averaged }

def applyExitPosition (contract : OptionContract) (quantity : ℤ) (price : ℚ) (s : ShadowLedger) :
    Except Exc Unit × ShadowLedger :=
  match s.positions.get? contract.instrumentId with
  | none => (.error (.safetyCritical "sell fill exceeds the simulated long position"), s)
  | some position =>
    if quantity > position.quantity then
      (.error (.safetyCritical "sell fill exceeds the simulated long position"), s)
    else
      let pnl := D.mul (D.mul (D.sub price position.averageEntryPrice) quantity) contract.multiplier
      let left := position.quantity - quantity
      let s := { s with realizedPnl := D.add s.realizedPnl pnl }
      if left = 0 then
        let closed := D.add (D.add ((s.closedRealizedPnl.get? contract.instrumentId).getD 0)
          position.realizedPnl) pnl
        (.ok (), { s with
          closedRealizedPnl := s.closedRealizedPnl.set contract.instrumentId closed
          positions := s.positions.erase contract.instrumentId })
      else
        let reduced := { position with
          quantity := left
          realizedPnl := D.add position.realizedPnl pnl }
        (.ok (), { s with positions := s.positions.set contract.instrumentId reduced })

/-- The order after a fill of `quantity` at `price`. -/
def filledOrder (order : BrokerOrder) (quantity : ℤ) (price : ℚ) : BrokerOrder :=
  let filled := order.filledQuantity + quantity
  let value := D.mul (order.averageFillPrice.getD 0) order.filledQuantity
  { order with
    state := if filled = order.quantity then .filled else .partial_
    filledQuantity := filled
    averageFillPrice := some (D.div (D.add value (D.mul price quantity)) filled) }

/-- Money and contracts moved by a fill; `_apply_fill` between its guards and the
bookkeeping of the order. -/
def moveFill (now : Time) (ids : FreshIds) (item : LedgerOrder) (quote : OptionQuote)
    (quantity : ℤ) (price : ℚ) (s : ShadowLedger) : Except Exc Unit × ShadowLedger :=
  let order := item.published
  let notional := D.mul (D.mul price quantity) order.contract.multiplier
  match order.side with
  | .buyToOpen =>
    if notional > s.cash then
      (.error (.safetyCritical "simulated fill would make cash negative"), s)
    else
      let paid := { s with cash := D.sub s.cash notional }
      let held := applyEntryPosition D now (ids.position order.orderId) item.command
        order.contract quote quantity price paid
      (.ok (), held.admitEntry (cfg.marketDate now) order.orderId)
  | .sellToClose =>
    match applyExitPosition D order.contract quantity price s with
    | (.error e, s) => (.error e, s)
    | (.ok (), s) => (.ok (), { s with cash := D.add s.cash notional })

/-- The record of a fill. -/
def fillRecord (now : Time) (ids : FreshIds) (order : BrokerOrder) (quote : OptionQuote)
    (quantity : ℤ) (price : ℚ) (seed : Nat) (reason : String) : Fill where
  createdAt := now
  fillId := ids.fill order.orderId
  orderId := order.orderId
  quantity := quantity
  price := price
  marketEventIds := [quote.snapshotId.str]
  fillModelVersion := cfg.fillModel.version
  deterministicSeed := seed
  reason := reason

/-- The bookkeeping of `_apply_fill` after the money has moved. -/
def bookFill (key : UUID) (item : LedgerOrder) (fill : Fill) (s : ShadowLedger) : ShadowLedger :=
  { s with
    orders := s.orders.set key
      ⟨filledOrder D item.published fill.quantity fill.price, item.command⟩
    fills := s.fills ++ [fill] }

def applyFill (now : Time) (ids : FreshIds) (key : UUID) (item : LedgerOrder)
    (quote : OptionQuote) (quantity : ℤ) (price : ℚ) (seed : Nat) (reason : String)
    (s : ShadowLedger) : Except Exc Fill × ShadowLedger :=
  let order := item.published
  if quantity ≤ 0 ∨ quantity > order.remaining then
    (.error (.safetyCritical "fill model returned an invalid quantity"), s)
  else if price ≤ 0 then
    (.error (.safetyCritical "fill model returned a non-positive price"), s)
  else if order.side = .buyToOpen ∧ price > order.limitPrice then
    (.error (.safetyCritical "buy fill exceeded its limit"), s)
  else if order.side = .sellToClose ∧ price < order.limitPrice then
    (.error (.safetyCritical "sell fill was below its limit"), s)
  else match moveFill D cfg now ids item quote quantity price s with
    | (.error e, s) => (.error e, s)
    | (.ok (), s) =>
      let fill := fillRecord cfg now ids order quote quantity price seed reason
      (.ok fill, bookFill D key item fill s)

/-- One call of the fill model inside `observe_quote`, and the fill it led to. -/
structure Evaluation where
  orderId : UUID
  decision : FillDecision
  fill : Option Fill

/-- The orders the loop of `observe_quote` puts to the fill model: open orders of
the instrument that were submitted strictly before the quote took effect. -/
def BrokerOrder.eligibleFor (order : BrokerOrder) (quote : OptionQuote) : Bool :=
  order.contract.instrumentId == quote.contract.instrumentId && order.state.isOpen &&
    order.submittedAt.any fun submitted => decide (submitted < quote.metadata.effectiveAt)

/-- The fill model's decision on an order at a quote. -/
def decisionOn (quote : OptionQuote) (order : BrokerOrder) : FillDecision :=
  cfg.fillModel.evaluate D cfg.hashing order quote order.remaining

/-- One iteration of the loop of `observe_quote`. -/
def considerOrder (now : Time) (ids : FreshIds) (quote : OptionQuote) (key : UUID)
    (item : LedgerOrder) (s : ShadowLedger) : Except Exc (Option Evaluation) × ShadowLedger :=
  let order := item.published
  if !BrokerOrder.eligibleFor order quote then (.ok none, s)
  else
    let decision := decisionOn D cfg quote order
    if !decision.shouldFill then (.ok (some ⟨order.orderId, decision, none⟩), s)
    else match decision.price with
      | none => (.error (.unlisted "AssertionError"), s)
      | some price =>
        match applyFill D cfg now ids key item quote decision.quantity price
            decision.deterministicSeed decision.reason s with
        | (.error e, s) => (.error e, s)
        | (.ok fill, s) => (.ok (some ⟨order.orderId, decision, some fill⟩), s)

/-- The loop of `observe_quote` over the orders held when it starts. -/
def considerOrders (now : Time) (ids : FreshIds) (quote : OptionQuote) :
    List UUID → ShadowLedger → Except Exc (List Evaluation) × ShadowLedger
  | [], s => (.ok [], s)
  | key :: rest, s =>
    match s.orders.get? key with
    | none => considerOrders now ids quote rest s
    | some item =>
      match considerOrder D cfg now ids quote key item s with
      | (.error e, s) => (.error e, s)
      | (.ok evaluation, s) =>
        match considerOrders now ids quote rest s with
        | (.error e, s) => (.error e, s)
        | (.ok evaluations, s) => (.ok (evaluation.toList ++ evaluations), s)

/-- The guards of `observe_quote`: refuse, ignore a repeated snapshot, or admit. -/
def admitQuote (now : Time) (quote : OptionQuote) (s : ShadowLedger) : Except Exc Bool :=
  if quote.metadata.effectiveAt > now ∨ quote.metadata.observedAt > now then
    .error (.dataInvalid "future option quote would violate replay causality")
  else match s.quotes.get? quote.contract.instrumentId with
    | none => .ok true
    | some prior =>
      if prior.snapshotId = quote.snapshotId then
        if prior ≠ quote then
          .error (.dataInvalid "quote snapshot ID was reused with different content")
        else .ok false
      else if quote.metadata.effectiveAt < prior.metadata.effectiveAt then
        .error (.dataInvalid "out-of-order option quote cannot rewind ledger state")
      else if prior.contract ≠ quote.contract then
        .error (.dataInvalid "option instrument ID was reused for a different contract")
      else .ok true

/-- `observe_quote` with the calls of the fill model it made. Stale quotes mark
the position but never reach the fill model. -/
def observeQuoteLog (now : Time) (ids : FreshIds) (quote : OptionQuote) (s : ShadowLedger) :
    Except Exc (List Evaluation) × ShadowLedger :=
  match admitQuote now quote s with
  | .error e => (.error e, s)
  | .ok false => (.ok [], s)
  | .ok true =>
    let marked := markPosition D quote
      { s with quotes := s.quotes.set quote.contract.instrumentId quote }
    if now - quote.metadata.observedAt > cfg.maxQuoteAge then (.ok [], marked)
    else considerOrders D cfg now ids quote marked.orders.keys marked

def observeQuote (now : Time) (ids : FreshIds) (quote : OptionQuote) (s : ShadowLedger) :
    Except Exc (List Fill) × ShadowLedger :=
  let (log, s) := observeQuoteLog D cfg now ids quote s
  (log.map fun evaluations => evaluations.filterMap Evaluation.fill, s)

/-! ### Expiration -/

/-- Whether an open order ends on a date: a day order submitted by then, or an
order in a contract that has expired. -/
def LedgerOrder.endsBy (item : LedgerOrder) (date : Date) : Bool :=
  let submitted := (item.published.submittedAt.map cfg.marketDate).getD date
  item.published.state.isOpen &&
    ((item.command.timeInForce.toLower == "day" && decide (submitted ≤ date)) ||
      decide (item.published.contract.expiration ≤ date))

def LedgerOrder.expireBy (date : Date) (item : LedgerOrder) : LedgerOrder :=
  if LedgerOrder.endsBy cfg item date then
    { item with published := { item.published with state := .expired } }
  else item

/-- Running totals of the position loop of `expire`. -/
structure ExpirationTotals where
  instruments : List String := []
  settlement : ℚ := 0
  realized : ℚ := 0

/-- Close one expired position at a settlement price. -/
def settlePosition (instrumentId : String) (position : Position) (perShare : ℚ)
    (s : ShadowLedger) : ShadowLedger :=
  let proceeds := D.mul (D.mul perShare position.quantity) position.contract.multiplier
  let pnl := D.mul (D.mul (D.sub perShare position.averageEntryPrice) position.quantity)
    position.contract.multiplier
  let closed :=
    D.add (D.add ((s.closedRealizedPnl.get? instrumentId).getD 0) position.realizedPnl) pnl
  { s with
    cash := D.add s.cash proceeds
    realizedPnl := D.add s.realizedPnl pnl
    closedRealizedPnl := s.closedRealizedPnl.set instrumentId closed
    positions := s.positions.erase instrumentId }

def expirePositions (date : Date) (policy : ExpirationPolicy) (settlements : Dict String ℚ) :
    List (String × Position) → ExpirationTotals → ShadowLedger →
      Except Exc ExpirationTotals × ShadowLedger
  | [], totals, s => (.ok totals, s)
  | (instrumentId, position) :: rest, totals, s =>
    if position.contract.expiration > date then
      expirePositions date policy settlements rest totals s
    else
      let offered := (settlements.get? instrumentId).getD 0
      if offered < 0 then (.error (.valueError "cash settlement cannot be negative"), s)
      else
        let perShare := if policy = .doNotExercise then 0 else offered
        let proceeds := D.mul (D.mul perShare position.quantity) position.contract.multiplier
        let pnl := D.mul (D.mul (D.sub perShare position.averageEntryPrice) position.quantity)
          position.contract.multiplier
        expirePositions date policy settlements rest
          { instruments := totals.instruments ++ [instrumentId]
            settlement := D.add totals.settlement proceeds
            realized := D.add totals.realized pnl }
          (settlePosition D instrumentId position perShare s)

def expire (now : Time) (onDate : Option Date) (policy : ExpirationPolicy)
    (settlements : Dict String ℚ) (s : ShadowLedger) :
    Except Exc ExpirationResult × ShadowLedger :=
  let date := onDate.getD (cfg.marketDate now)
  if date > cfg.marketDate now then
    (.error (.dataInvalid "cannot process a future expiration date"), s)
  else
    let ended := s.orders.values.filter fun item => LedgerOrder.endsBy cfg item date
    let s := { s with orders := s.orders.mapValues (LedgerOrder.expireBy cfg date) }
    match expirePositions D date policy settlements s.positions.entries {} s with
    | (.error e, s) => (.error e, s)
    | (.ok totals, s) =>
      (.ok { processedAt := now
             expirationDate := date
             expiredOrderIds := ended.map (·.published.orderId)
             expiredInstrumentIds := totals.instruments
             cashSettlement := totals.settlement
             realizedPnl := totals.realized
             policy := policy
             reason := match policy with
               | .cashSettle => "expired long options were cash-settled; no shares were created"
               | .doNotExercise =>
                 "expired long options were not exercised; no shares were created" }, s)

/-! ### Runs -/

/-- A public operation of the ledger together with its arguments. -/
inductive Op where
  | deposit (amount : ℚ) (reference : String)
  | review (ids : FreshIds) (proposal : TradeProposal)
  | submit (command : BrokerCommandIntent) (contract : OptionContract)
  | cancel (command : BrokerCommandIntent) (ref : OrderRef)
  | observeQuote (ids : FreshIds) (quote : OptionQuote)
  | expire (onDate : Option Date) (policy : ExpirationPolicy) (settlements : Dict String ℚ)

/-- The answer of an operation. -/
inductive Answer where
  | deposit (r : Except Exc DepositRecord)
  | review (r : BrokerReview)
  | order (r : Except Exc BrokerOrder)
  | fills (r : Except Exc (List Fill))
  | expiration (r : Except Exc ExpirationResult)

def perform (now : Time) (op : Op) (s : ShadowLedger) : Answer × ShadowLedger :=
  match op with
  | .deposit amount reference => (s.deposit D now amount reference).map .deposit id
  | .review ids proposal => (s.review D cfg now ids proposal).map .review id
  | .submit command contract => (s.submit D cfg now command contract).map .order id
  | .cancel command ref => (s.cancel cfg command ref).map .order id
  | .observeQuote ids quote => (s.observeQuote D cfg now ids quote).map .fills id
  | .expire onDate policy settlements =>
    (s.expire D cfg now onDate policy settlements).map .expiration id

/-- The ledger after a run: every operation at its clock reading, in order. -/
def run (ops : List (Time × Op)) (s : ShadowLedger) : ShadowLedger :=
  ops.foldl (fun s step => (perform D cfg step.1 step.2 s).2) s

/-- The answers of a run, in order. -/
def answers (ops : List (Time × Op)) (s : ShadowLedger) : List Answer :=
  match ops with
  | [] => []
  | step :: rest =>
    let (answer, next) := perform D cfg step.1 step.2 s
    answer :: answers rest next

/-- The contract an operation names, if any. -/
def Op.contract? : Op → Option OptionContract
  | .review _ proposal => some proposal.contract
  | .submit _ contract => some contract
  | .observeQuote _ quote => some quote.contract
  | _ => none

/-- Each instrument identifier always denotes one and the same contract. -/
def OneContract (catalog : String → OptionContract) (ops : List (Time × Op)) : Prop :=
  ∀ step ∈ ops, ∀ c ∈ step.2.contract?, catalog c.instrumentId = c

end ShadowLedger

end Sentry
