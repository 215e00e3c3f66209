import Sentry.Learning.Journals

/-!
# Reviews over the same evidence

What a review makes of fills depends on the terms of their orders and on the fills as they were
written. A worker that has read as much as another one, and maybe more, reviews the fills of
the other the way that one does; only the time of the review is its own.
-/
namespace Sentry

open Support ReviewWorker

/-! ### One fill -/

namespace ReviewWorker

variable {w : ReviewWorker} {D : Decimal.Context} {now : Time} {orders : Dict UUID BrokerOrder}
  {review review' : Review} {fills : List Fill} {fill : Fill}

theorem fills_of_take {cycle taken : Cycle} {side : OrderSide}
    (took : Cycle.take cycle side fill = .ok taken) : taken.fills = cycle.fills ++ [fill] := by
  cases side with
  | buyToOpen =>
    cases took
    rfl
  | sellToClose =>
    rw [Cycle.take] at took
    split at took
    · cases took
    · cases took
      rfl

/-- The cycle of a fill, as it is before the fill. -/
def Review.begun (review : Review) (contract : OptionContract) : Cycle :=
  (review.cycles.get? contract.instrumentId).getD { contract := contract }

theorem reviewFill_iff : w.reviewFill D now orders review fill = .ok review' ↔
    ∃ order cycle, orders.get? fill.orderId = some order ∧
      Cycle.take (review.begun order.contract) order.side fill = .ok cycle ∧
      ((cycle.balance = 0 ∧ ∃ closed, w.outcome D now cycle orders = .ok closed ∧
          review' =
            { cycles := review.cycles.erase order.contract.instrumentId
              completed := review.completed ++ [closed] }) ∨
        (cycle.balance ≠ 0 ∧ review' =
          { review with cycles := review.cycles.set order.contract.instrumentId cycle })) := by
  constructor
  · intro went
    rw [reviewFill] at went
    cases found : orders.get? fill.orderId with
    | none =>
      rw [found] at went
      cases went
    | some order =>
      rw [found] at went
      obtain ⟨cycle, took, went⟩ := bind_ok went
      refine ⟨order, cycle, rfl, took, ?_⟩
      split at went
      next flat =>
        obtain ⟨closed, closing, went⟩ := bind_ok went
        cases went
        exact Or.inl ⟨flat, closed, closing, rfl⟩
      next held =>
        cases went
        exact Or.inr ⟨held, rfl⟩
  · rintro ⟨order, cycle, found, took, ending⟩
    rw [Review.begun] at took
    rw [reviewFill, found]
    dsimp only
    rw [took]
    rcases ending with ⟨flat, closed, closing, rfl⟩ | ⟨held, rfl⟩
    · simp only [bind, Except.bind, flat, if_true, closing, pure, Except.pure]
    · simp only [bind, Except.bind, held, if_false, pure, Except.pure]

/-- Outcomes are only added. -/
theorem completed_grows (went : fills.foldlM (w.reviewFill D now orders) review = .ok review') :
    review.completed <+: review'.completed := by
  refine foldlM_kept (P := fun _ later => review.completed <+: later.completed) went
    (List.prefix_refl _) ?_
  intro done fill rest before after_ _ grown step
  obtain ⟨order, cycle, -, -, ⟨-, closed, -, rfl⟩ | ⟨-, rfl⟩⟩ := reviewFill_iff.mp step
  · exact grown.trans (List.prefix_append _ _)
  · exact grown

end ReviewWorker

namespace JournalReviewer

variable {svc : JournalReviewer} {D : Decimal.Context} {now now' : Time}
  {orders others : Dict UUID (WrittenOrder × ℤ)} {fills more : Dict UUID (WrittenFill × ℕ)}

/-! ### What another worker knows -/

/-- `others` has every order with its terms, and `more` has every fill as it was written. -/
structure Knows (orders others : Dict UUID (WrittenOrder × ℤ))
    (fills more : Dict UUID (WrittenFill × ℕ)) : Prop where
  keyed : ∀ id entry, orders.get? id = some entry → entry.1.order.orderId = id
  terms : ∀ id entry, orders.get? id = some entry →
    ∃ other, others.get? id = some other ∧ other.1.terms = entry.1.terms
  fills : ∀ id entry, fills.get? id = some entry →
    ∃ other, more.get? id = some other ∧ other.1 = entry.1

/-- The fills of the cycles under way were read. -/
def Within (fills : Dict UUID (WrittenFill × ℕ)) (cycle : Cycle) : Prop :=
  ∀ fill ∈ cycle.fills, ∃ entry, fills.get? fill.fillId = some entry

/-- The review, made at another time. -/
def again (now : Time) (review : Review) : Review :=
  { review with completed := review.completed.map (reviewed now) }

theorem termOf_iff {id : UUID} {terms : OrderTerms} :
    (match (readOrders orders).get? id with
      | none => .error (.unlisted "KeyError")
      | some order => .ok (orderTerms order) : Except Exc OrderTerms) = .ok terms ↔
      ∃ entry, orders.get? id = some entry ∧ orderTerms entry.1.order = terms := by
  rw [readOrders, Dict.get?_mapValues]
  cases orders.get? id <;> simp

theorem Knows.termsOf (knows : Knows orders others fills more) {ids : List UUID}
    {terms : List OrderTerms} (ok : termsOf (readOrders orders) ids = .ok terms) :
    termsOf (readOrders others) ids = .ok terms := by
  rw [ReviewWorker.termsOf, mapM_ok_iff] at ok ⊢
  refine ok.imp fun id term here => ?_
  obtain ⟨entry, found, is⟩ := termOf_iff.mp here
  obtain ⟨other, there, same⟩ := knows.terms id entry found
  refine termOf_iff.mpr ⟨other, there, ?_⟩
  rw [← is]
  exact congrArg WrittenTerms.terms same

/-- The evidence of a cycle is hashed from the same texts. -/
theorem Knows.evidenceHash (knows : Knows orders others fills more) (svc : JournalReviewer)
    {cycle : Cycle}
    (within : Within fills cycle) {ids : List UUID} {terms : List OrderTerms}
    (ok : ReviewWorker.termsOf (readOrders orders) ids = .ok terms) :
    (svc.worker others more).evidenceHash cycle.fills terms =
      (svc.worker orders fills).evidenceHash cycle.fills terms := by
  have written : (cycle.fills.filterMap fun fill => (more.get? fill.fillId).map Prod.fst) =
      cycle.fills.filterMap fun fill => (fills.get? fill.fillId).map Prod.fst := by
    apply List.filterMap_congr
    intro fill member
    obtain ⟨entry, found⟩ := within fill member
    obtain ⟨other, there, same⟩ := knows.fills _ entry found
    rw [found, there, Option.map_some, Option.map_some, same]
  have texts : (terms.filterMap fun terms =>
        (others.get? terms.orderId).map fun read => read.1.terms) =
      terms.filterMap fun terms => (orders.get? terms.orderId).map fun read => read.1.terms := by
    apply List.filterMap_congr
    intro term member
    obtain ⟨id, -, here⟩ := exists_of_forall₂ (mapM_ok_iff.mp ok) term member
    obtain ⟨entry, found, rfl⟩ := termOf_iff.mp here
    obtain ⟨other, there, same⟩ := knows.terms id entry found
    have own : (orderTerms entry.1.order).orderId = id := knows.keyed id entry found
    rw [own, found, there, Option.map_some, Option.map_some, same]
  simp only [worker, written, texts]

theorem Knows.outcome (knows : Knows orders others fills more) {cycle : Cycle}
    (within : Within fills cycle) {closed : ClosedTradeOutcome}
    (ok : (svc.worker orders fills).outcome D now cycle (readOrders orders) = .ok closed) :
    (svc.worker others more).outcome D now' cycle (readOrders others) =
      .ok (reviewed now' closed) := by
  unfold ReviewWorker.outcome at ok ⊢
  cases first : cycle.entries.head? with
  | none =>
    rw [first] at ok
    cases ok
  | some entry =>
    cases last : cycle.exits.getLast? with
    | none =>
      rw [first, last] at ok
      cases ok
    | some exit =>
      rw [first, last] at ok
      obtain ⟨terms, read, rest⟩ := bind_ok ok
      have hash := knows.evidenceHash svc within read
      dsimp only
      rw [knows.termsOf read]
      simp only [bind, Except.bind] at rest ⊢
      split at rest
      · cases rest
      next cost =>
        rw [if_neg cost]
        split at rest
        next valid =>
          cases rest
          rw [dif_pos valid, hash]
          rfl
        next =>
          cases rest

/-- Every cycle under way holds fills that were read. -/
def AllWithin (fills : Dict UUID (WrittenFill × ℕ)) (review : Review) : Prop :=
  ∀ i cycle, review.cycles.get? i = some cycle → Within fills cycle

theorem AllWithin.begun {review : Review} (within : AllWithin fills review)
    (contract : OptionContract) : Within fills (review.begun contract) := by
  rw [Review.begun]
  cases found : review.cycles.get? contract.instrumentId with
  | none => simp [Within]
  | some cycle => exact within _ cycle found

/-- One fill is reviewed the same. -/
theorem Knows.reviewFill (knows : Knows orders others fills more) (now' : Time)
    {review review' : Review}
    {fill : Fill} (within : AllWithin fills review)
    (known : ∃ entry, fills.get? fill.fillId = some entry)
    (ok : (svc.worker orders fills).reviewFill D now (readOrders orders) review fill =
      .ok review') :
    (svc.worker others more).reviewFill D now' (readOrders others) (again now' review) fill =
        .ok (again now' review') ∧
      AllWithin fills review' := by
  obtain ⟨order, cycle, found, took, ending⟩ := reviewFill_iff.mp ok
  rw [readOrders, Dict.get?_mapValues] at found
  obtain ⟨entry, read, rfl⟩ := Option.map_eq_some_iff.mp found
  obtain ⟨other, there, same⟩ := knows.terms _ entry read
  have terms : orderTerms other.1.order = orderTerms entry.1.order :=
    congrArg WrittenTerms.terms same
  have contract : other.1.order.contract = entry.1.order.contract :=
    congrArg OrderTerms.contract terms
  have side : other.1.order.side = entry.1.order.side := congrArg OrderTerms.side terms
  have here : (readOrders others).get? fill.orderId = some other.1.order := by
    rw [readOrders, Dict.get?_mapValues, there, Option.map_some]
  have inside : Within fills cycle := by
    intro other member
    rw [fills_of_take took] at member
    rcases List.mem_append.mp member with earlier | last
    · exact within.begun _ other earlier
    · rw [List.mem_singleton.mp last]
      exact known
  rw [← contract, ← side] at took
  rw [← contract] at ending
  constructor
  · refine reviewFill_iff.mpr ⟨_, cycle, here, took, ?_⟩
    rcases ending with ⟨flat, closed, closing, rfl⟩ | ⟨held, rfl⟩
    · refine Or.inl ⟨flat, _, knows.outcome inside closing, ?_⟩
      simp [again]
    · exact Or.inr ⟨held, rfl⟩
  · intro i kept got
    rcases ending with ⟨-, closed, -, rfl⟩ | ⟨-, rfl⟩
    · rw [Dict.get?_erase] at got
      split at got
      · cases got
      · exact within i kept got
    · rw [Dict.get?_set] at got
      split at got
      · cases got
        exact inside
      · exact within i kept got

/-- All of them are. -/
theorem Knows.reviewFills (knows : Knows orders others fills more) (svc : JournalReviewer)
    (now' : Time) {review review' : Review}
    {list : List Fill} (within : AllWithin fills review)
    (known : ∀ fill ∈ list, ∃ entry, fills.get? fill.fillId = some entry)
    (ok : list.foldlM ((svc.worker orders fills).reviewFill D now (readOrders orders)) review =
      .ok review') :
    list.foldlM ((svc.worker others more).reviewFill D now' (readOrders others))
      (again now' review) = .ok (again now' review') := by
  induction list generalizing review with
  | nil =>
    cases ok
    rfl
  | cons fill rest ih =>
    rw [List.foldlM_cons] at ok ⊢
    obtain ⟨next, step, ok⟩ := bind_ok ok
    have read := known fill List.mem_cons_self
    obtain ⟨there, within⟩ := knows.reviewFill now' within read step
    rw [there]
    exact ih within (fun other later => known other (List.mem_cons_of_mem _ later)) ok

end JournalReviewer

end Sentry
