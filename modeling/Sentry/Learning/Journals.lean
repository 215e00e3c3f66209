import Mathlib.Data.Prod.Lex
import Sentry.Learning.Agreement
import Sentry.Support.Collecting
import Sentry.Support.Ranking

/-!
# Reviews of listed journals

`_scan`, `_derive`, `_compare` and `tick` of `app/learning/outcomes.py`, over rows as they are
listed and with decimals as they are written: the terms of an order are compared and hashed as
texts, two contents of a fill by their values, and a fill is hashed with the digits of the row
that was read last.
-/
namespace Sentry

open Support ReviewWorker

/-- Two outcomes with the same fields. -/
def ClosedTradeOutcome.Same (a b : ClosedTradeOutcome) : Prop :=
  a.createdAt = b.createdAt ∧ a.outcomeId = b.outcomeId ∧ a.cycleId = b.cycleId ∧
    a.environment = b.environment ∧ a.namespace_ = b.namespace_ ∧ a.contract = b.contract ∧
    a.openedAt = b.openedAt ∧ a.closedAt = b.closedAt ∧ a.reviewedAt = b.reviewedAt ∧
    a.entryFillIds = b.entryFillIds ∧ a.exitFillIds = b.exitFillIds ∧ a.orderIds = b.orderIds ∧
    a.contractsOpened = b.contractsOpened ∧ a.contractsClosed = b.contractsClosed ∧
    a.grossEntryCost = b.grossEntryCost ∧ a.grossExitProceeds = b.grossExitProceeds ∧
    a.grossRealizedPnl = b.grossRealizedPnl ∧ a.grossReturnPercent = b.grossReturnPercent ∧
    a.holdSeconds = b.holdSeconds ∧ a.sourceEvidenceHash = b.sourceEvidenceHash

instance (a b : ClosedTradeOutcome) : Decidable (a.Same b) :=
  inferInstanceAs (Decidable (_ ∧ _))

theorem ClosedTradeOutcome.same_iff {a b : ClosedTradeOutcome} : a.Same b ↔ a = b := by
  constructor
  · intro same
    cases a
    cases b
    simpa [Same] using same
  · rintro rfl
    simp [Same]

instance : DecidableEq ClosedTradeOutcome := fun _ _ =>
  decidable_of_iff _ ClosedTradeOutcome.same_iff

/-! ### Written records -/

/-- An order with the digits of the decimals in its terms. -/
structure WrittenOrder where
  order : BrokerOrder
  strike : Decimal
  limitPrice : Decimal
  strike_val : strike.val = order.contract.strike
  limitPrice_val : limitPrice.val = order.limitPrice

/-- A fill with the digits of its price. -/
structure WrittenFill where
  fill : Fill
  price : Decimal
  price_val : price.val = fill.price
  deriving DecidableEq

/-- `_order_terms`. The digits of a decimal are what its text shows. -/
structure WrittenTerms where
  terms : OrderTerms
  strike : Decimal
  limitPrice : Decimal
  deriving DecidableEq

def WrittenOrder.terms (o : WrittenOrder) : WrittenTerms where
  terms := orderTerms o.order
  strike := o.strike
  limitPrice := o.limitPrice

/-! ### The worker -/

structure JournalReviewer where
  environment : ExecutionEnvironment
  namespace_ : String
  hashing : Hashing
  /-- `sha256_json` of the fills and the order terms of a cycle. -/
  evidenceHash : List WrittenFill → List WrittenTerms → String
  maximumRecords : ℕ
  namespace_ne : namespace_ ≠ ""

/-- The tables of the worker, in the order in which their rows were appended. -/
structure ReviewTables where
  orders : List (EvidenceRow WrittenOrder)
  fills : List (EvidenceRow WrittenFill)
  outcomes : List (EvidenceRow ClosedTradeOutcome)

/-- The environment and the namespace that a payload names itself. -/
structure NamedBinding where
  environment : Option ExecutionEnvironment
  namespace_ : Option String

namespace JournalReviewer

variable (svc : JournalReviewer)

/-- The worker over records that were read: the digits under an identifier are those kept there. -/
def worker (orders : Dict UUID (WrittenOrder × ℤ)) (fills : Dict UUID (WrittenFill × ℕ)) :
    ReviewWorker where
  environment := svc.environment
  namespace_ := svc.namespace_
  hashing := svc.hashing
  evidenceHash cycleFills terms := svc.evidenceHash
    (cycleFills.filterMap fun fill => (fills.get? fill.fillId).map Prod.fst)
    (terms.filterMap fun terms => (orders.get? terms.orderId).map fun read => read.1.terms)
  namespace_ne := svc.namespace_ne

/-- `_payload`. -/
def payload {α : Type} (named : α → NamedBinding) (row : EvidenceRow α) : Except Exc α := do
  let payload ← (svc.worker .empty .empty).payload (fun payload => (named payload).environment) row
  if (named payload).namespace_.getD svc.namespace_ ≠ svc.namespace_ then
    throw (.safetyCritical "review payload crossed its namespace binding")
  else pure payload

/-! ### Reading the journal back -/

/-- The rows of a table one after the other; those of the future are passed over. -/
def scanRows {α ν : Type} (named : α → NamedBinding)
    (visible : EvidenceRow α → Bool) (c : Collector (EvidenceRow α) UUID ν Exc)
    (rows : List (EvidenceRow α)) : Except Exc (Dict UUID ν) :=
  rows.foldlM (fun read row => do
    let _ ← svc.payload named row
    if visible row then c.step read row else pure read) .empty

def orderVisible (now : Time) (row : EvidenceRow WrittenOrder) : Bool :=
  let order := row.payload.order
  decide (row.createdAt ≤ now) && decide (order.createdAt ≤ now) &&
    order.submittedAt.all fun submitted => decide (submitted ≤ now)

def fillVisible (now : Time) (row : EvidenceRow WrittenFill) : Bool :=
  decide (row.createdAt ≤ now) && decide (row.payload.fill.createdAt ≤ now)

def orderNamed (o : WrittenOrder) : NamedBinding := ⟨some o.order.environment, none⟩

def fillNamed (_ : WrittenFill) : NamedBinding := ⟨none, none⟩

/-- The order that was read last, and the largest filled quantity. -/
def orderCollector : Collector (EvidenceRow WrittenOrder) UUID (WrittenOrder × ℤ) Exc where
  key row := row.payload.order.orderId
  next previous row :=
    let order := row.payload.order
    if order.filledQuantity > order.quantity then
      .error (.dataInvalid "broker order has an impossible filled quantity")
    else if previous.any fun previous => decide (previous.1.terms ≠ row.payload.terms) then
      .error (.dataInvalid "broker order identity has inconsistent exact terms")
    else .ok (row.payload, max ((previous.map Prod.snd).getD 0) order.filledQuantity)

/-- The fill that was read last, and its earliest number. -/
def fillCollector : Collector (EvidenceRow WrittenFill) UUID (WrittenFill × ℕ) Exc where
  key row := row.payload.fill.fillId
  next previous row :=
    match previous with
    | none => .ok (row.payload, row.appendSequence)
    | some previous =>
      if previous.1.fill ≠ row.payload.fill then
        .error (.dataInvalid "fill identity has inconsistent immutable content")
      else .ok (row.payload, min previous.2 row.appendSequence)

def scanOrders (now : Time) (rows : List (EvidenceRow WrittenOrder)) :
    Except Exc (Dict UUID (WrittenOrder × ℤ)) :=
  svc.scanRows orderNamed (orderVisible now) orderCollector rows

def scanFills (now : Time) (rows : List (EvidenceRow WrittenFill)) :
    Except Exc (Dict UUID (WrittenFill × ℕ)) :=
  svc.scanRows fillNamed (fillVisible now) fillCollector rows

/-! ### Deriving outcomes -/

variable (D : Decimal.Context)

def readOrders (read : Dict UUID (WrittenOrder × ℤ)) : Dict UUID BrokerOrder :=
  read.mapValues fun entry => entry.1.order

def seenOrders (read : Dict UUID (WrittenOrder × ℤ)) : SeenOrders where
  orders := readOrders read
  recordedFilled := read.mapValues Prod.snd

def readFills (read : Dict UUID (WrittenFill × ℕ)) : List (Fill × ℕ) :=
  read.values.map fun entry => (entry.1.fill, entry.2)

/-- `_derive`. -/
def derive (now : Time) (orderRows : List (EvidenceRow WrittenOrder))
    (fillRows : List (EvidenceRow WrittenFill)) : Except Exc (List ClosedTradeOutcome) := do
  let orders ← svc.scanOrders now orderRows
  let fills ← svc.scanFills now fillRows
  let matched ← matchFills (readOrders orders) ((readFills fills).map Prod.fst)
  reconcile (seenOrders orders) matched
  let review ← (svc.worker orders fills).reviewFills D now (readOrders orders)
    (((readFills fills).mergeSort fillOrder).map Prod.fst)
  pure review.completed

/-! ### A tick -/

/-- `_scan`: the rows newest first, or none of them. -/
def scan {α : Type} (table : String) (named : α → NamedBinding)
    (rows : List (EvidenceRow α)) : Except Exc (List (EvidenceRow α)) := do
  let listed := rows.reverse.take (svc.maximumRecords + 1)
  if svc.maximumRecords < listed.length then
    throw (.dataInvalid ("bounded review scan incomplete: " ++ table))
  else
    let _ ← listed.foldlM (fun sequences row => do
      let _ ← svc.payload named row
      if row.appendSequence = 0 then
        throw (.dataInvalid "review requires a durable positive append sequence")
      else if sequences.contains row.appendSequence then
        throw (.dataInvalid "review evidence repeats a durable append sequence")
      else pure (row.appendSequence :: sequences)) ([] : List ℕ)
    pure listed

/-- The outcome, reviewed at another time. -/
def reviewed (now : Time) (outcome : ClosedTradeOutcome) : ClosedTradeOutcome :=
  { outcome with reviewedAt := now }

/-- `_compare`: nothing but `reviewed_at` may differ. -/
def compare (previous current : ClosedTradeOutcome) : Except Exc Unit :=
  if reviewed current.reviewedAt previous = current then .ok ()
  else .error (.dataInvalid "closed-position outcome conflicts with immutable evidence")

/-- `except (ValidationError, ValueError, TypeError, KeyError)`. -/
def invalidEvidence : Exc → Exc
  | .valueError _ | .typeError _ | .unlisted "KeyError" =>
    .dataInvalid "closed-position review evidence is invalid"
  | e => e

def outcomeNamed (outcome : ClosedTradeOutcome) : NamedBinding :=
  ⟨some outcome.environment, some outcome.namespace_⟩

/-- The outcomes that are stored, of which those with one identifier have to be the same. -/
def existing (rows : List (EvidenceRow ClosedTradeOutcome)) :
    Except Exc (Dict String ClosedTradeOutcome) :=
  rows.foldlM (fun stored row => do
    let outcome ← svc.payload outcomeNamed row
    match stored.get? outcome.outcomeId with
    | none => pure ()
    | some previous => compare previous outcome
    pure (stored.set outcome.outcomeId outcome)) .empty

/-- What is derived, and what is stored, before anything is appended. -/
def validate (now : Time) (orderRows : List (EvidenceRow WrittenOrder))
    (fillRows : List (EvidenceRow WrittenFill))
    (outcomeRows : List (EvidenceRow ClosedTradeOutcome)) :
    Except Exc (List ClosedTradeOutcome × Dict String ClosedTradeOutcome) := do
  let outcomes ← svc.derive D now orderRows fillRows
  let stored ← svc.existing outcomeRows
  outcomes.forM fun outcome => match stored.get? outcome.outcomeId with
    | none => pure ()
    | some prior => compare prior outcome
  if stored.values.any fun prior => decide (prior.closedAt ≤ now) &&
      !(outcomes.map ClosedTradeOutcome.outcomeId).contains prior.outcomeId then
    throw (.dataInvalid "persisted closed outcome is not reproduced by the journal")
  else pure (outcomes, stored)

def gather (now : Time) (t : ReviewTables) :
    Except Exc (List ClosedTradeOutcome × Dict String ClosedTradeOutcome) := do
  let orderRows ← svc.scan "orders" orderNamed t.orders
  let fillRows ← svc.scan "fills" fillNamed t.fills
  let outcomeRows ← svc.scan "trade_outcomes" outcomeNamed t.outcomes
  (svc.validate D now orderRows fillRows outcomeRows).mapError invalidEvidence

def outcomeRow (sequence : ℕ) (outcome : ClosedTradeOutcome) : EvidenceRow ClosedTradeOutcome where
  environment := svc.environment
  namespace_ := svc.namespace_
  createdAt := outcome.createdAt
  appendSequence := sequence
  payload := outcome

/-- The newest row of an outcome. -/
def findOutcome (id : String) (rows : List (EvidenceRow ClosedTradeOutcome)) :
    Option (EvidenceRow ClosedTradeOutcome) :=
  rows.reverse.find? fun row => row.payload.outcomeId == id

/-- One append under the unique index; only an identical record proves a race that went well. -/
def appendOutcome (outcome : ClosedTradeOutcome) (rows : List (EvidenceRow ClosedTradeOutcome)) :
    Except Exc (Option (EvidenceRow ClosedTradeOutcome)) :=
  match findOutcome outcome.outcomeId rows with
  | none => .ok (some (svc.outcomeRow (rows.length + 1) outcome))
  | some row => do
    let prior ← svc.payload outcomeNamed row
    compare prior outcome
    pure none

/-- The appends of a tick. What was appended before one that raises stays. -/
def appendAll (stored : Dict String ClosedTradeOutcome) :
    List ClosedTradeOutcome → List ClosedTradeOutcome → List (EvidenceRow ClosedTradeOutcome) →
      Except Exc (List ClosedTradeOutcome) × List (EvidenceRow ClosedTradeOutcome)
  | [], appended, rows => (.ok appended, rows)
  | outcome :: rest, appended, rows =>
    if (stored.get? outcome.outcomeId).isSome then appendAll stored rest appended rows
    else match svc.appendOutcome outcome rows with
      | .error e => (.error e, rows)
      | .ok none => appendAll stored rest appended rows
      | .ok (some row) => appendAll stored rest (appended ++ [outcome]) (rows ++ [row])

/-- `tick`, with working storage. -/
def tick (now : Time) (t : ReviewTables) :
    Except Exc (List ClosedTradeOutcome) × ReviewTables :=
  match svc.gather D now t with
  | .error e => (.error e, t)
  | .ok (outcomes, stored) =>
    let done := svc.appendAll stored outcomes [] t.outcomes
    (done.1, { t with outcomes := done.2 })

end JournalReviewer
end Sentry
