import Sentry.Domain.Models
import Sentry.Support.Dict

/-!
# Closed-position reviews

`ClosedPositionReviewWorker` of `app/learning/outcomes.py`, from the rows it has scanned to
the outcomes it derives: orders and fills are read back from the journal, checked against
each other, and the fills replayed in time order into flat-to-flat cycles. A cycle whose
balance comes back to zero becomes an outcome.

The texts of the decimals of a record are not part of the model, so the digest over the
evidence of a cycle is a parameter; a digest always has the form its field asks for.
-/
namespace Sentry

open Support

/-- A row as `list_payloads` returns it. -/
structure EvidenceRow (α : Type) where
  environment : ExecutionEnvironment
  namespace_ : String
  createdAt : Time
  appendSequence : ℕ
  payload : α

/-- `_order_terms`: what no later snapshot of an order may change. -/
structure OrderTerms where
  orderId : UUID
  intentId : UUID
  environment : ExecutionEnvironment
  contract : OptionContract
  side : OrderSide
  quantity : ℤ
  limitPrice : ℚ
  deriving DecidableEq

def orderTerms (order : BrokerOrder) : OrderTerms where
  orderId := order.orderId
  intentId := order.intentId
  environment := order.environment
  contract := order.contract
  side := order.side
  quantity := order.quantity
  limitPrice := order.limitPrice

/-- The fields that differ from one outcome to another. -/
structure ClosedTradeOutcome where
  createdAt : Time
  outcomeId : String
  cycleId : String
  environment : ExecutionEnvironment
  namespace_ : String
  contract : OptionContract
  openedAt : Time
  closedAt : Time
  reviewedAt : Time
  entryFillIds : List UUID
  exitFillIds : List UUID
  orderIds : List UUID
  contractsOpened : ℤ
  contractsClosed : ℤ
  grossEntryCost : ℚ
  grossExitProceeds : ℚ
  grossRealizedPnl : ℚ
  grossReturnPercent : ℚ
  holdSeconds : ℚ
  sourceEvidenceHash : String
  namespace_ne : namespace_ ≠ ""
  contractsOpened_pos : 0 < contractsOpened
  contractsClosed_pos : 0 < contractsClosed
  grossEntryCost_pos : 0 < grossEntryCost
  grossExitProceeds_pos : 0 < grossExitProceeds
  holdSeconds_nonneg : 0 ≤ holdSeconds

def OUTCOME_VERSION : String := "closed-position-review-v1"

/-- `_Cycle`. -/
structure Cycle where
  contract : OptionContract
  fills : List Fill := []
  entries : List Fill := []
  exits : List Fill := []
  balance : ℤ := 0

/-- What the worker is bound to, and the digests it uses. -/
structure ReviewWorker where
  environment : ExecutionEnvironment
  namespace_ : String
  hashing : Hashing
  evidenceHash : List Fill → List OrderTerms → String
  namespace_ne : namespace_ ≠ ""

namespace ReviewWorker

variable (D : Decimal.Context) (w : ReviewWorker) (now : Time)

/-- `_payload`, given the environment the payload itself names. -/
def payload {α : Type} (named : α → Option ExecutionEnvironment) (row : EvidenceRow α) :
    Except Exc α :=
  if row.environment ≠ w.environment ∨ row.namespace_ ≠ w.namespace_ then
    .error (.safetyCritical "review read crossed its environment/namespace binding")
  else if (named row.payload).getD w.environment ≠ w.environment then
    .error (.safetyCritical "review payload crossed its environment binding")
  else .ok row.payload

/-! ### Reading the journal back -/

/-- The orders read so far, and the largest filled quantity recorded for each. -/
structure SeenOrders where
  orders : Dict UUID BrokerOrder := .empty
  recordedFilled : Dict UUID ℤ := .empty

def SeenOrders.filled (seen : SeenOrders) (orderId : UUID) : ℤ :=
  (seen.recordedFilled.get? orderId).getD 0

/-- One order row; what lies in the future of the review is passed over. -/
def scanOrder (seen : SeenOrders) (row : EvidenceRow BrokerOrder) : Except Exc SeenOrders := do
  let order ← w.payload (fun order => some order.environment) row
  if row.createdAt > now ∨ order.createdAt > now then pure seen
  else if order.submittedAt.any (fun submitted => decide (submitted > now)) then pure seen
  else if order.filledQuantity > order.quantity then
    throw (.dataInvalid "broker order has an impossible filled quantity")
  else if (seen.orders.get? order.orderId).any
      (fun previous => decide (orderTerms previous ≠ orderTerms order)) then
    throw (.dataInvalid "broker order identity has inconsistent exact terms")
  else pure {
    orders := seen.orders.set order.orderId order
    recordedFilled := seen.recordedFilled.set order.orderId
      (max (seen.filled order.orderId) order.filledQuantity) }

def scanOrders (rows : List (EvidenceRow BrokerOrder)) : Except Exc SeenOrders :=
  rows.foldlM (w.scanOrder now) {}

/-- One fill row; a repeated fill keeps its earliest number. -/
def scanFill (fills : Dict UUID (Fill × ℕ)) (row : EvidenceRow Fill) :
    Except Exc (Dict UUID (Fill × ℕ)) := do
  let fill ← w.payload (fun _ => none) row
  if row.createdAt > now ∨ fill.createdAt > now then pure fills
  else match fills.get? fill.fillId with
    | some previous =>
      if previous.1 ≠ fill then
        throw (.dataInvalid "fill identity has inconsistent immutable content")
      else pure (fills.set fill.fillId (fill, min previous.2 row.appendSequence))
    | none => pure (fills.set fill.fillId (fill, row.appendSequence))

def scanFills (rows : List (EvidenceRow Fill)) : Except Exc (Dict UUID (Fill × ℕ)) :=
  rows.foldlM (w.scanFill now) .empty

/-! ### Checking fills against orders -/

structure Matched where
  byOrder : Dict UUID ℤ := .empty
  filledIntents : Dict UUID UUID := .empty
  contracts : Dict String OptionContract := .empty

def Matched.filled (m : Matched) (orderId : UUID) : ℤ := (m.byOrder.get? orderId).getD 0

def matchFill (orders : Dict UUID BrokerOrder) (m : Matched) (fill : Fill) : Except Exc Matched :=
  match orders.get? fill.orderId with
  | none => .error (.dataInvalid "fill has no causally available durable broker order")
  | some order =>
    if order.createdAt > fill.createdAt ∨
        order.submittedAt.any (fun submitted => decide (submitted > fill.createdAt)) then
      .error (.dataInvalid "fill precedes its broker order")
    else if (m.filledIntents.get? order.intentId).getD order.orderId ≠ order.orderId then
      .error (.dataInvalid "one intent has conflicting filled broker identities")
    else
      let instrument := order.contract.instrumentId
      let contract := (m.contracts.get? instrument).getD order.contract
      if contract ≠ order.contract then
        .error (.dataInvalid "instrument identity has inconsistent contract terms")
      else .ok {
        byOrder := m.byOrder.set order.orderId (m.filled order.orderId + fill.quantity)
        filledIntents := m.filledIntents.set order.intentId order.orderId
        contracts := m.contracts.set instrument contract }

def matchFills (orders : Dict UUID BrokerOrder) (fills : List Fill) : Except Exc Matched :=
  fills.foldlM (matchFill orders) {}

/-- The fills of every order add up to what its rows recorded, within its quantity. -/
def reconcile (seen : SeenOrders) (m : Matched) : Except Exc Unit :=
  seen.orders.entries.forM fun entry =>
    if m.filled entry.1 ≠ seen.filled entry.1 ∨ m.filled entry.1 > entry.2.quantity then
      .error (.dataInvalid "durable fills do not reconcile to broker order filled quantity")
    else .ok ()

/-! ### Cycles -/

/-- `fill.price * fill.quantity * multiplier`. -/
def notional (multiplier : ℤ) (fill : Fill) : ℚ := D.mul (D.mul fill.price fill.quantity) multiplier

/-- The seconds of a `timedelta`: the whole ones, and the microseconds as a fraction. -/
def elapsedSeconds (elapsed : ℤ) : ℚ :=
  D.add (elapsed / 1000000 : ℤ) (D.div (elapsed % 1000000 : ℤ) 1000000)

def cycleId (contract : OptionContract) (firstEntry : Fill) : String :=
  w.hashing.sha256Json (.obj [
    ("environment", .str w.environment.value),
    ("namespace", .str w.namespace_),
    ("instrument_id", .str contract.instrumentId),
    ("first_entry_fill_id", .str firstEntry.fillId.str)])

/-- `_order_terms(orders[order_id])` for every order of a cycle. -/
def termsOf (orders : Dict UUID BrokerOrder) (ids : List UUID) : Except Exc (List OrderTerms) :=
  ids.mapM fun id => match orders.get? id with
    | none => .error (.unlisted "KeyError")
    | some order => .ok (orderTerms order)

/-- `_outcome`. -/
def outcome (cycle : Cycle) (orders : Dict UUID BrokerOrder) : Except Exc ClosedTradeOutcome := do
  let multiplier := cycle.contract.multiplier
  let cost := D.sum (cycle.entries.map (notional D multiplier))
  let proceeds := D.sum (cycle.exits.map (notional D multiplier))
  let pnl := D.sub proceeds cost
  match cycle.entries.head?, cycle.exits.getLast? with
  | some first, some last =>
    let hold := elapsedSeconds D (last.createdAt - first.createdAt)
    let id := w.cycleId cycle.contract first
    let orderIds := (cycle.fills.map Fill.orderId).eraseDups
    let terms ← termsOf orders orderIds
    if cost = 0 then throw (.unlisted "DivisionByZero")
    else
      let opened := (cycle.entries.map Fill.quantity).sum
      let closed := (cycle.exits.map Fill.quantity).sum
      if valid : 0 < opened ∧ 0 < closed ∧ 0 < cost ∧ 0 < proceeds ∧ 0 ≤ hold then
        pure {
          createdAt := last.createdAt
          outcomeId := w.hashing.sha256Json
            (.obj [("cycle_id", .str id), ("version", .str OUTCOME_VERSION)])
          cycleId := id
          environment := w.environment
          namespace_ := w.namespace_
          contract := cycle.contract
          openedAt := first.createdAt
          closedAt := last.createdAt
          reviewedAt := now
          entryFillIds := cycle.entries.map Fill.fillId
          exitFillIds := cycle.exits.map Fill.fillId
          orderIds := orderIds
          contractsOpened := opened
          contractsClosed := closed
          grossEntryCost := cost
          grossExitProceeds := proceeds
          grossRealizedPnl := pnl
          grossReturnPercent := Decimal.quantize 12 (D.mul (D.div pnl cost) 100)
          holdSeconds := hold
          sourceEvidenceHash := w.evidenceHash cycle.fills terms
          namespace_ne := w.namespace_ne
          contractsOpened_pos := valid.1
          contractsClosed_pos := valid.2.1
          grossEntryCost_pos := valid.2.2.1
          grossExitProceeds_pos := valid.2.2.2.1
          holdSeconds_nonneg := valid.2.2.2.2 }
      else throw (.valueError "ClosedTradeOutcome")
  | _, _ => throw (.unlisted "IndexError")

/-- The cycles under way and the outcomes of the completed ones. -/
structure Review where
  cycles : Dict String Cycle := .empty
  completed : List ClosedTradeOutcome := []

/-- A cycle with one more fill. -/
def Cycle.take (cycle : Cycle) (side : OrderSide) (fill : Fill) : Except Exc Cycle :=
  let cycle := { cycle with fills := cycle.fills ++ [fill] }
  match side with
  | .buyToOpen => .ok { cycle with
      entries := cycle.entries ++ [fill]
      balance := cycle.balance + fill.quantity }
  | .sellToClose =>
    if fill.quantity > cycle.balance then
      .error (.dataInvalid "exit fill oversells or lacks an opening long position")
    else .ok { cycle with
      exits := cycle.exits ++ [fill]
      balance := cycle.balance - fill.quantity }

/-- One fill of the replay. -/
def reviewFill (orders : Dict UUID BrokerOrder) (review : Review) (fill : Fill) :
    Except Exc Review :=
  match orders.get? fill.orderId with
  | none => .error (.unlisted "KeyError")
  | some order => do
    let instrument := order.contract.instrumentId
    let begun := (review.cycles.get? instrument).getD { contract := order.contract }
    let cycle ← Cycle.take begun order.side fill
    if cycle.balance = 0 then
      let closed ← w.outcome D now cycle orders
      pure {
        cycles := review.cycles.erase instrument
        completed := review.completed ++ [closed] }
    else pure { review with cycles := review.cycles.set instrument cycle }

def reviewFills (orders : Dict UUID BrokerOrder) (fills : List Fill) : Except Exc Review :=
  fills.foldlM (w.reviewFill D now orders) {}

/-- Fill time first, then the order in which the fills were appended. -/
def fillOrder (a b : Fill × ℕ) : Bool :=
  decide (a.1.createdAt < b.1.createdAt ∨ a.1.createdAt = b.1.createdAt ∧ a.2 ≤ b.2)

/-- `_derive`. -/
def derive (orderRows : List (EvidenceRow BrokerOrder)) (fillRows : List (EvidenceRow Fill)) :
    Except Exc (List ClosedTradeOutcome) := do
  let seen ← w.scanOrders now orderRows
  let fills ← w.scanFills now fillRows
  let matched ← matchFills seen.orders (fills.values.map Prod.fst)
  reconcile seen matched
  let review ← w.reviewFills D now seen.orders ((fills.values.mergeSort fillOrder).map Prod.fst)
  pure review.completed

end ReviewWorker

end Sentry
