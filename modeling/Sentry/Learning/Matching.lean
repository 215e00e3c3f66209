import Sentry.Learning.Agreement
import Sentry.Support.Collecting

/-!
# Fills and their orders

What has to hold of fills and orders for a review to go on: every fill has an order from before
it, an intent is filled under one order, an instrument has one contract, and the fills of an
order add up to what its rows recorded. None of it depends on the order of the fills.
-/
namespace Sentry

open Support

namespace ReviewWorker

variable {orders others : Dict UUID BrokerOrder} {fills done : List Fill} {fill : Fill}
  {m m' : Matched}

/-! ### Matching -/

/-- The order was there when it was filled. -/
structure Precedes (order : BrokerOrder) (fill : Fill) : Prop where
  created : order.createdAt ≤ fill.createdAt
  submitted : ∀ submitted, order.submittedAt = some submitted → submitted ≤ fill.createdAt

/-- The intents that were filled, with the orders that filled them. -/
def intentsOf (orders : Dict UUID BrokerOrder) (fills : List Fill) : List (UUID × UUID) :=
  fills.filterMap fun fill => (orders.get? fill.orderId).map fun order =>
    (order.intentId, order.orderId)

/-- The instruments that were traded, with their contracts. -/
def contractsOf (orders : Dict UUID BrokerOrder) (fills : List Fill) :
    List (String × OptionContract) :=
  fills.filterMap fun fill => (orders.get? fill.orderId).map fun order =>
    (order.contract.instrumentId, order.contract)

structure Matches (orders : Dict UUID BrokerOrder) (fills : List Fill) : Prop where
  known : ∀ fill ∈ fills, ∃ order, orders.get? fill.orderId = some order ∧ Precedes order fill
  intents : Functional (intentsOf orders fills)
  contracts : Functional (contractsOf orders fills)

/-- What the fills so far have come to. -/
structure Tallied (orders : Dict UUID BrokerOrder) (done : List Fill) (m : Matched) : Prop where
  known : ∀ fill ∈ done, ∃ order, orders.get? fill.orderId = some order ∧ Precedes order fill
  filled : ∀ id, m.filled id = filledBy id done
  intents : m.filledIntents.Records (intentsOf orders done)
  contracts : m.contracts.Records (contractsOf orders done)

/-- Orders under their own identifiers. -/
def Keyed (orders : Dict UUID BrokerOrder) : Prop :=
  ∀ id order, orders.get? id = some order → order.orderId = id

/-- One fill of the order more. -/
def Matched.take (m : Matched) (order : BrokerOrder) (fill : Fill) : Matched where
  byOrder := m.byOrder.set order.orderId (m.filled order.orderId + fill.quantity)
  filledIntents := m.filledIntents.set order.intentId order.orderId
  contracts := m.contracts.set order.contract.instrumentId order.contract

theorem precedes_iff {order : BrokerOrder} : Precedes order fill ↔
    ¬ (order.createdAt > fill.createdAt ∨
      order.submittedAt.any (fun submitted => decide (submitted > fill.createdAt)) = true) := by
  rw [not_or, gt_iff_lt, not_lt]
  constructor
  · rintro ⟨created, submitted⟩
    refine ⟨created, ?_⟩
    cases at_ : order.submittedAt with
    | none => simp
    | some time => simpa using submitted time at_
  · rintro ⟨created, submitted⟩
    refine ⟨created, fun time at_ => ?_⟩
    simpa [at_] using submitted

theorem matchFill_iff : matchFill orders m fill = .ok m' ↔
    ∃ order, orders.get? fill.orderId = some order ∧ Precedes order fill ∧
      (m.filledIntents.get? order.intentId).getD order.orderId = order.orderId ∧
      (m.contracts.get? order.contract.instrumentId).getD order.contract = order.contract ∧
      m' = m.take order fill := by
  rw [matchFill]
  cases found : orders.get? fill.orderId with
  | none => simp
  | some order =>
    simp only [Option.some.injEq, exists_eq_left']
    rw [precedes_iff]
    split
    next late => simp [late]
    next early =>
      split
      next conflict => simp [conflict]
      next agreed =>
        split
        next differs => simp [differs]
        next same =>
          rw [not_not] at agreed same
          simp only [early, not_false_eq_true, agreed, same, true_and, Except.ok.injEq,
            Matched.take]
          exact eq_comm

theorem Matched.filled_take (order : BrokerOrder) (id : UUID) :
    (m.take order fill).filled id =
      m.filled id + if order.orderId = id then fill.quantity else 0 := by
  by_cases own : order.orderId = id
  · subst own
    simp [Matched.filled, Matched.take]
  · simp [Matched.filled, Matched.take, Dict.get?_set_of_ne _ _ own, own]

theorem intentsOf_append {order : BrokerOrder} (found : orders.get? fill.orderId = some order) :
    intentsOf orders (done ++ [fill]) =
      intentsOf orders done ++ [(order.intentId, order.orderId)] := by
  simp [intentsOf, found]

theorem contractsOf_append {order : BrokerOrder} (found : orders.get? fill.orderId = some order) :
    contractsOf orders (done ++ [fill]) =
      contractsOf orders done ++ [(order.contract.instrumentId, order.contract)] := by
  simp [contractsOf, found]

theorem tallied_nil : Tallied orders [] {} where
  known := by simp
  filled id := rfl
  intents := Dict.records_empty
  contracts := Dict.records_empty

/-- One fill more is matched. -/
theorem Tallied.take (tallied : Tallied orders done m) (keyed : Keyed orders)
    {order : BrokerOrder} (found : orders.get? fill.orderId = some order)
    (precedes : Precedes order fill)
    (intent : (m.filledIntents.get? order.intentId).getD order.orderId = order.orderId)
    (contract : (m.contracts.get? order.contract.instrumentId).getD order.contract =
      order.contract) :
    Tallied orders (done ++ [fill]) (m.take order fill) where
  known := by
    intro other member
    rcases List.mem_append.mp member with earlier | here
    · exact tallied.known other earlier
    · rw [List.mem_singleton.mp here]
      exact ⟨order, found, precedes⟩
  filled id := by
    rw [Matched.filled_take, filledBy_append, tallied.filled, keyed _ _ found]
  intents := by
    rw [intentsOf_append found]
    exact tallied.intents.set intent
  contracts := by
    rw [contractsOf_append found]
    exact tallied.contracts.set contract

theorem tallied_of_matchFills (keyed : Keyed orders) (matched : matchFills orders fills = .ok m) :
    Tallied orders fills m := by
  refine foldlM_kept matched tallied_nil ?_
  intro done fill _ m m' _ tallied step
  obtain ⟨order, found, precedes, intent, contract, rfl⟩ := matchFill_iff.mp step
  exact tallied.take keyed found precedes intent contract

theorem Tallied.matches (tallied : Tallied orders fills m) : Matches orders fills where
  known := tallied.known
  intents := tallied.intents.functional
  contracts := tallied.contracts.functional

theorem matchFills_of_matches (keyed : Keyed orders) (holds : Matches orders fills) :
    ∃ m, matchFills orders fills = .ok m ∧ Tallied orders fills m := by
  apply foldlM_ok _ _ tallied_nil
  intro done fill rest m split tallied
  have part : done ++ [fill] ⊆ fills := by
    intro other member
    rw [split, ← List.singleton_append, ← List.append_assoc]
    exact List.mem_append_left rest member
  obtain ⟨order, found, precedes⟩ := holds.known fill (part (by simp))
  have intent : (m.filledIntents.get? order.intentId).getD order.orderId = order.orderId := by
    apply tallied.intents.getD
    rw [← intentsOf_append found]
    exact holds.intents.mono (List.filterMap_subset _ part)
  have contract : (m.contracts.get? order.contract.instrumentId).getD order.contract =
      order.contract := by
    apply tallied.contracts.getD
    rw [← contractsOf_append found]
    exact holds.contracts.mono (List.filterMap_subset _ part)
  exact ⟨_, matchFill_iff.mpr ⟨order, found, precedes, intent, contract, rfl⟩,
    tallied.take keyed found precedes intent contract⟩

/-! ### Reconciling -/

variable {seen seen' : SeenOrders} {fills' : List Fill}

theorem reconcile_iff : reconcile seen m = .ok () ↔
    ∀ id order, seen.orders.get? id = some order →
      m.filled id = seen.filled id ∧ m.filled id ≤ order.quantity := by
  have each (entry : UUID × BrokerOrder) :
      (if m.filled entry.1 ≠ seen.filled entry.1 ∨ m.filled entry.1 > entry.2.quantity then
        Except.error (.dataInvalid "durable fills do not reconcile to broker order filled quantity")
      else (.ok () : Except Exc Unit)) = .ok () ↔
        m.filled entry.1 = seen.filled entry.1 ∧ m.filled entry.1 ≤ entry.2.quantity := by
    split
    next differs =>
      simp only [reduceCtorEq, false_iff, not_and_or, not_le]
      exact differs
    next same => simpa [not_or] using same
  constructor
  · intro reconciled id order found
    exact (each (id, order)).mp (forM_each reconciled (id, order) (Dict.mem_entries.mpr found))
  · intro agree
    apply forM_ok
    intro entry member
    exact (each entry).mpr (agree entry.1 entry.2 (Dict.mem_entries.mp member))

/-- The fills match, and those of every order add up to what its rows recorded. -/
structure Reconciles (seen : SeenOrders) (fills : List Fill) : Prop where
  matched : Matches seen.orders fills
  filled : ∀ id order, seen.orders.get? id = some order →
    filledBy id fills = seen.filled id ∧ filledBy id fills ≤ order.quantity

theorem reconciles_iff (seen : SeenOrders) (keyed : Keyed seen.orders) :
    (∃ m, matchFills seen.orders fills = .ok m ∧ reconcile seen m = .ok ()) ↔
      Reconciles seen fills := by
  constructor
  · rintro ⟨m, matched, reconciled⟩
    have tallied := tallied_of_matchFills keyed matched
    refine ⟨tallied.matches, fun id order found => ?_⟩
    rw [← tallied.filled id]
    exact reconcile_iff.mp reconciled id order found
  · rintro ⟨holds, filled⟩
    obtain ⟨m, matched, tallied⟩ := matchFills_of_matches keyed holds
    refine ⟨m, matched, reconcile_iff.mpr fun id order found => ?_⟩
    rw [tallied.filled id]
    exact filled id order found

/-! ### Other listings -/

/-- What a review uses of an order. -/
def essence (order : BrokerOrder) : OrderTerms × Time × Option Time :=
  (orderTerms order, order.createdAt, order.submittedAt)

/-- The same orders, as far as a review can tell. -/
def SameOrders (orders others : Dict UUID BrokerOrder) : Prop :=
  ∀ id, (orders.get? id).map essence = (others.get? id).map essence

theorem SameOrders.found (same : SameOrders orders others) {id : UUID} {order : BrokerOrder}
    (found : orders.get? id = some order) :
    ∃ other, others.get? id = some other ∧ essence other = essence order := by
  have here := same id
  rw [found, Option.map_some] at here
  obtain ⟨other, there, is⟩ := Option.map_eq_some_iff.mp here.symm
  exact ⟨other, there, is⟩

theorem SameOrders.intentsOf_eq (same : SameOrders orders others) (fills : List Fill) :
    intentsOf orders fills = intentsOf others fills := by
  apply List.filterMap_congr
  intro fill _
  have here := congrArg (Option.map fun seen => (seen.1.intentId, seen.1.orderId))
    (same fill.orderId)
  rw [Option.map_map, Option.map_map] at here
  exact here

theorem SameOrders.contractsOf_eq (same : SameOrders orders others) (fills : List Fill) :
    contractsOf orders fills = contractsOf others fills := by
  apply List.filterMap_congr
  intro fill _
  have here := congrArg (Option.map fun seen => (seen.1.contract.instrumentId, seen.1.contract))
    (same fill.orderId)
  rw [Option.map_map, Option.map_map] at here
  exact here

theorem filledBy_perm (perm : fills.Perm fills') (id : UUID) :
    filledBy id fills = filledBy id fills' :=
  ((perm.filter _).map _).sum_eq

theorem Matches.relisted (holds : Matches orders fills) (same : SameOrders orders others)
    (perm : fills.Perm fills') : Matches others fills' where
  known := by
    intro fill member
    obtain ⟨order, found, precedes⟩ := holds.known fill (perm.mem_iff.mpr member)
    obtain ⟨other, there, is⟩ := same.found found
    simp only [essence, Prod.mk.injEq] at is
    refine ⟨other, there, ?_, ?_⟩
    · rw [is.2.1]
      exact precedes.created
    · rw [is.2.2]
      exact precedes.submitted
  intents := by
    rw [← same.intentsOf_eq]
    exact holds.intents.mono (List.filterMap_subset _ perm.symm.subset)
  contracts := by
    rw [← same.contractsOf_eq]
    exact holds.contracts.mono (List.filterMap_subset _ perm.symm.subset)

/-- Neither the order of the fills nor anything else of the orders matters. -/
theorem Reconciles.relisted (holds : Reconciles seen fills)
    (same : SameOrders seen.orders seen'.orders)
    (filled : ∀ id, seen.filled id = seen'.filled id) (perm : fills.Perm fills') :
    Reconciles seen' fills' where
  matched := holds.matched.relisted same perm
  filled := by
    intro id order found
    obtain ⟨other, there, is⟩ := SameOrders.found (fun id => (same id).symm) found
    have quantity : other.quantity = order.quantity :=
      congrArg (fun seen => seen.1.quantity) is
    rw [← filledBy_perm perm, ← filled, ← quantity]
    exact holds.filled id other there

end ReviewWorker

end Sentry
