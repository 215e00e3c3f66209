import Sentry.Demo.Trading
import Sentry.Execution.RiskCaps
import Sentry.Learning.Agreement
import Sentry.Ledger.Snapshot

/-!
# Journals the reviewer accepts

The journal of a run without cancellations is accepted by a review at any later time. The
invariant `Healthy` compares the journal with the ledger at two moments: the rows are
snapshots of orders the ledger has now, and the fills are those it had at the last
synchronisation. What a review sees is the latter.

A cancellation saves the order it cancels under its own intent, so the rows of that order no
longer agree on its terms, and no later review gets past them.
-/
namespace Sentry

open Support ShadowLedger ReviewWorker

namespace PaperDesk

variable (desk : PaperDesk)

/-- The identifier the ledger gives to the order of an intent. -/
def orderId (intentId : UUID) : UUID :=
  desk.cfg.hashing.uuid5 NAMESPACE_URL ("options-sentinel:" ++ intentId.str)

/-- The identifier of the order that stands for an intent before the broker has answered. -/
def pendingId (intentId : UUID) : UUID :=
  desk.svc.hashing.uuid5 executionIdNamespace ("pending:" ++ intentId.str)

/-- The derived identifiers of these intents are all different. -/
structure Distinct (intents : List OrderIntent) : Prop where
  orders : ∀ a ∈ intents, ∀ b ∈ intents,
    desk.orderId a.intentId = desk.orderId b.intentId → a.intentId = b.intentId
  pendings : ∀ a ∈ intents, ∀ b ∈ intents,
    desk.pendingId a.intentId = desk.pendingId b.intentId → a.intentId = b.intentId
  apart : ∀ a ∈ intents, ∀ b ∈ intents, desk.pendingId a.intentId ≠ desk.orderId b.intentId

instance (intents : List OrderIntent) : Decidable (desk.Distinct intents) :=
  decidable_of_iff ((∀ a ∈ intents, ∀ b ∈ intents,
      desk.orderId a.intentId = desk.orderId b.intentId → a.intentId = b.intentId) ∧
    (∀ a ∈ intents, ∀ b ∈ intents,
      desk.pendingId a.intentId = desk.pendingId b.intentId → a.intentId = b.intentId) ∧
    ∀ a ∈ intents, ∀ b ∈ intents, desk.pendingId a.intentId ≠ desk.orderId b.intentId)
    ⟨fun ⟨orders, pendings, apart⟩ => ⟨orders, pendings, apart⟩,
      fun ⟨orders, pendings, apart⟩ => ⟨orders, pendings, apart⟩⟩

/-- The quotes of a ledger are for listed contracts. -/
def Lists (catalog : String → OptionContract) (s : ShadowLedger) : Prop :=
  ∀ i quote, s.quotes.get? i = some quote → catalog i = quote.contract

/-! ### The ledger -/

/-- A ledger whose orders were all placed for durable intents. -/
structure Orderly (catalog : String → OptionContract) (now : Time) (intents : List OrderIntent)
    (s : ShadowLedger) : Prop where
  booked : Booked desk.cfg s
  follows : ∀ w t, Follows w t catalog s
  ordered : s.fills.Pairwise fun a b => a.createdAt ≤ b.createdAt
  past : ∀ fill ∈ s.fills, fill.createdAt ≤ now
  placed : ∀ key item, s.orders.get? key = some item → item.published.createdAt ≤ now ∧
    ∃ intent ∈ intents, intent.intentId = item.published.intentId
  keyed : ∀ key id, s.orderByIdempotency.get? key = some id →
    ∃ intent ∈ intents, intent.idempotencyKey = key

section Ledger

variable {desk} {catalog : String → OptionContract} {now now' : Time}
  {intents intents' : List OrderIntent} {s s' : ShadowLedger}

theorem Distinct.of_subset (distinct : desk.Distinct intents') (subset : intents ⊆ intents') :
    desk.Distinct intents where
  orders a inA b inB := distinct.orders a (subset inA) b (subset inB)
  pendings a inA b inB := distinct.pendings a (subset inA) b (subset inB)
  apart a inA b inB := distinct.apart a (subset inA) b (subset inB)

theorem Orderly.later (orderly : desk.Orderly catalog now intents s) (later : now ≤ now')
    (subset : intents ⊆ intents') : desk.Orderly catalog now' intents' s where
  booked := orderly.booked
  follows := orderly.follows
  ordered := orderly.ordered
  past fill member := le_trans (orderly.past fill member) later
  placed key item found := by
    obtain ⟨before, intent, member, same⟩ := orderly.placed key item found
    exact ⟨le_trans before later, intent, subset member, same⟩
  keyed key id found := by
    obtain ⟨intent, member, same⟩ := orderly.keyed key id found
    exact ⟨intent, subset member, same⟩

theorem Orderly.quiet (orderly : desk.Orderly catalog now intents s) (quiet : ShadowLedger.Quiet s s') :
    desk.Orderly catalog now intents s' := by
  constructor
  · exact orderly.booked.quiet quiet
  · exact fun w t => (orderly.follows w t).quiet quiet
  · rw [quiet.fills]
    exact orderly.ordered
  · rw [quiet.fills]
    exact orderly.past
  · rw [quiet.orders]
    exact orderly.placed
  · rw [quiet.keys]
    exact orderly.keyed

theorem Orderly.record {command : BrokerCommandIntent} {item : LedgerOrder} {intent : OrderIntent}
    (orderly : desk.Orderly catalog now intents s)
    (recorded : ShadowLedger.Recorded desk.cfg command item s s')
    (early : item.published.createdAt ≤ now) (member : intent ∈ intents)
    (own : item.published.intentId = intent.intentId)
    (key : command.idempotencyKey = intent.idempotencyKey) :
    desk.Orderly catalog now intents s' := by
  constructor
  · exact orderly.booked.record recorded
  · exact fun w t => (orderly.follows w t).record recorded
  · rw [recorded.fills]
    exact orderly.ordered
  · rw [recorded.fills]
    exact orderly.past
  · intro k item' found
    rw [recorded.orders, Dict.get?_set] at found
    split at found
    · cases found
      exact ⟨early, intent, member, own.symm⟩
    · exact orderly.placed k item' found
  · intro k id found
    rw [recorded.keys, Dict.get?_set] at found
    split at found
    next same => exact ⟨intent, member, key.symm.trans same⟩
    · exact orderly.keyed k id found

theorem Orderly.trade {key : UUID} {item : LedgerOrder} {fill : Fill}
    (solvent : Solvent desk.cfg catalog s) (orderly : desk.Orderly catalog now intents s)
    (stamped : fill.createdAt = now) (traded : Traded key item fill s s') :
    desk.Orderly catalog now intents s' := by
  constructor
  · exact orderly.booked.trade traded
  · exact fun w t => (orderly.follows w t).trade orderly.booked solvent.orders_ok traded
  · rw [traded.fills, List.pairwise_append]
    refine ⟨orderly.ordered, List.pairwise_singleton _ _, ?_⟩
    intro old member new single
    rw [List.mem_singleton.mp single, stamped]
    exact orderly.past old member
  · intro f member
    rw [traded.fills, List.mem_append, List.mem_singleton] at member
    rcases member with old | rfl
    · exact orderly.past f old
    · exact le_of_eq stamped
  · intro k item' found
    rw [traded.orders, Dict.get?_set] at found
    split at found
    · cases found
      exact orderly.placed key item traded.found
    · exact orderly.placed k item' found
  · rw [traded.keys]
    exact orderly.keyed

theorem orderly_fresh : desk.Orderly catalog now intents (fresh desk.cfg) := by
  constructor
  · exact booked_fresh desk.cfg
  · exact fun w t => follows_fresh desk.cfg
  · exact List.Pairwise.nil
  · intro fill member
    cases member
  · intro key item found
    cases found
  · intro key id found
    cases found

end Ledger

/-! ### The journal beside it -/

/-- A row of the journal: the order that stood for an intent, or a snapshot of an order of the
ledger that claims no more than the recorded fills. -/
structure Accounted (b : Books) (row : BrokerOrder) : Prop where
  environment : row.environment = .demo
  known : (∃ intent ∈ b.rows.orderIntents, row.orderId = desk.pendingId intent.intentId ∧
      row.filledQuantity = 0) ∨
    ∃ item, b.ledger.orders.get? row.orderId = some item ∧ Snapshot row item ∧
      row.filledQuantity ≤ filledBy row.orderId b.fills

/-- The ledger at the last synchronisation: everything of it is in the journal. -/
structure Synced (catalog : String → OptionContract) (b : Books) (s : ShadowLedger) : Prop where
  ok : OrdersOk desk.cfg catalog s
  booked : Booked desk.cfg s
  follows : ∀ w t, Follows w t catalog s
  grown : Grown s b.ledger
  fills : s.fills = b.fills
  recorded : ∀ key item, s.orders.get? key = some item → item.published ∈ b.rows.orders

structure Healthy (catalog : String → OptionContract) (now : Time) (b : Books) : Prop where
  solvent : Solvent desk.cfg catalog b.ledger
  orderly : desk.Orderly catalog now b.rows.orderIntents b.ledger
  rows : ∀ row ∈ b.rows.orders, desk.Accounted b row
  consistent : ∀ row ∈ b.rows.orders, ∀ other ∈ b.rows.orders,
    row.orderId = other.orderId → orderTerms row = orderTerms other
  earlier : b.fills <+: b.ledger.fills
  synced : ∃ s, desk.Synced catalog b s

section Books

variable {desk} {catalog : String → OptionContract} {now now' : Time} {b b' : Books}

/-- Under distinct identifiers a pending order is no order of the ledger. -/
theorem pending_ne {intents : List OrderIntent} {s : ShadowLedger} {key : UUID} {item : LedgerOrder}
    (distinct : desk.Distinct intents) (orderly : desk.Orderly catalog now intents s)
    (found : s.orders.get? key = some item) {intent : OrderIntent} (member : intent ∈ intents) :
    desk.pendingId intent.intentId ≠ key := by
  obtain ⟨-, owner, inside, own⟩ := orderly.placed key item found
  rw [orderly.booked.named key item found, ← own]
  exact distinct.apart intent member owner inside

/-- What a review at any later time needs. -/
theorem Healthy.evidence (healthy : desk.Healthy catalog now b)
    (distinct : desk.Distinct b.rows.orderIntents)
    (identified : (b.ledger.fills.map Fill.fillId).Nodup) {w : ReviewWorker}
    (environment : w.environment = .demo) {t : Time} (later : now ≤ t)
    {orderRows : List (EvidenceRow BrokerOrder)} {fillRows : List (EvidenceRow Fill)}
    (ownOrders : ∀ row ∈ orderRows, OwnRow w BrokerOrder.createdAt row)
    (ownFills : ∀ row ∈ fillRows, OwnRow w Fill.createdAt row)
    (orders : (orderRows.map EvidenceRow.payload).Perm b.rows.orders)
    (numbered : Numbered b.fills fillRows) {s : ShadowLedger} (synced : desk.Synced catalog b s) :
    Evidence w t s orderRows fillRows := by
  have inRows : ∀ row ∈ orderRows, row.payload ∈ b.rows.orders := fun row member =>
    orders.mem_iff.mp (List.mem_map_of_mem member)
  have sublist : s.fills.Sublist b.ledger.fills := synced.fills ▸ healthy.earlier.sublist
  constructor
  · exact ownOrders
  · exact ownFills
  · intro row member
    rw [environment]
    exact (healthy.rows _ (inRows row member)).environment
  · intro row member other inside
    exact healthy.consistent _ (inRows row member) _ (inRows other inside)
  · intro row member
    rw [synced.fills]
    rcases (healthy.rows _ (inRows row member)).known with ⟨-, -, -, none_⟩ | ⟨-, -, -, bounded⟩
    · rw [none_, ← synced.fills]
      exact synced.booked.filledBy_nonneg _
    · exact bounded
  · intro row member item₀ found₀
    obtain ⟨item, found, terms, created, submitted, -⟩ := synced.grown _ item₀ found₀
    rcases (healthy.rows _ (inRows row member)).known with
      ⟨intent, inside, named, -⟩ | ⟨item', found', snapshot, -⟩
    · exact absurd named.symm (pending_ne distinct healthy.orderly found inside)
    · rw [found] at found'
      cases found'
      exact ⟨snapshot.terms.trans terms.symm, snapshot.createdAt.trans created.symm,
        snapshot.submittedAt.trans submitted.symm⟩
  · intro key item₀ found₀
    obtain ⟨item, found, -, created, -⟩ := synced.grown key item₀ found₀
    refine ⟨?_, ?_⟩
    · rw [created]
      exact le_trans (healthy.orderly.placed key item found).1 later
    · have there := orders.mem_iff.mpr (synced.recorded key item₀ found₀)
      obtain ⟨row, member, same⟩ := List.mem_map.mp there
      exact ⟨row, member, same⟩
  · rw [synced.fills]
    exact numbered
  · intro fill made
    exact le_trans (healthy.orderly.past fill (sublist.subset made)) later
  · exact identified.sublist (sublist.map _)
  · exact healthy.orderly.ordered.sublist sublist

/-! ### Steps -/

theorem Accounted.carried {row : BrokerOrder} (accounted : desk.Accounted b row)
    (grown : Grown b.ledger b'.ledger) (intents : b.rows.orderIntents ⊆ b'.rows.orderIntents)
    (fills : filledBy row.orderId b.fills ≤ filledBy row.orderId b'.fills) :
    desk.Accounted b' row := by
  refine ⟨accounted.environment, ?_⟩
  rcases accounted.known with ⟨intent, member, named, none_⟩ | ⟨item, found, snapshot, bounded⟩
  · exact Or.inl ⟨intent, intents member, named, none_⟩
  · obtain ⟨item', found', terms, created, submitted, -⟩ := grown _ item found
    refine Or.inr ⟨item', found', ?_, le_trans bounded fills⟩
    exact ⟨snapshot.terms.trans terms, snapshot.createdAt.trans created,
      snapshot.submittedAt.trans submitted⟩

theorem Synced.carried {s : ShadowLedger} (synced : desk.Synced catalog b s)
    (grown : Grown b.ledger b'.ledger) (fills : b'.fills = b.fills)
    (rows : b.rows.orders ⊆ b'.rows.orders) : desk.Synced catalog b' s where
  ok := synced.ok
  booked := synced.booked
  follows := synced.follows
  grown := synced.grown.trans grown
  fills := synced.fills.trans fills.symm
  recorded key item found := rows (synced.recorded key item found)

theorem Healthy.waited (healthy : desk.Healthy catalog now b) (later : now ≤ now') :
    desk.Healthy catalog now' b :=
  { healthy with orderly := healthy.orderly.later later (List.Subset.refl _) }

theorem healthy_fresh : desk.Healthy catalog now { ledger := fresh desk.cfg } := by
  constructor
  · exact fresh_solvent
  · exact orderly_fresh
  · intro row member
    cases member
  · intro row member
    cases member
  · exact List.prefix_refl _
  · refine ⟨fresh desk.cfg, fresh_solvent.orders_ok, booked_fresh _, fun _ _ => follows_fresh _,
      Grown.refl _, rfl, ?_⟩
    intro key item found
    cases found

/-- A quote only adds trades. -/
theorem Healthy.quoted (healthy : desk.Healthy catalog now b) (ids : FreshIds)
    (quote : OptionQuote) :
    desk.Healthy catalog now
      { b with ledger := (b.ledger.observeQuote .exact desk.cfg now ids quote).2 } := by
  have traded : desk.Orderly catalog now b.rows.orderIntents
      (b.ledger.observeQuote .exact desk.cfg now ids quote).2 ∧
      Grown b.ledger (b.ledger.observeQuote .exact desk.cfg now ids quote).2 ∧
      b.ledger.fills <+: (b.ledger.observeQuote .exact desk.cfg now ids quote).2.fills := by
    refine observeQuote_trades (J := fun s =>
      desk.Orderly catalog now b.rows.orderIntents s ∧ Grown b.ledger s ∧
        b.ledger.fills <+: s.fills) ?_ ?_ healthy.solvent
      ⟨healthy.orderly, Grown.refl _, List.prefix_refl _⟩
    · rintro s s' ⟨orderly, grown, earlier⟩ quiet
      exact ⟨orderly.quiet quiet, grown.trans (.quiet quiet), quiet.fills ▸ earlier⟩
    · rintro s s' key item fill solvent ⟨orderly, grown, earlier⟩ stamped traded
      refine ⟨orderly.trade solvent stamped traded, grown.trans (.trade traded), ?_⟩
      rw [traded.fills]
      exact earlier.trans (List.prefix_append _ _)
  obtain ⟨orderly, grown, earlier⟩ := traded
  obtain ⟨s, synced⟩ := healthy.synced
  constructor
  · exact (observeQuote_kept now ids quote healthy.solvent).1
  · exact orderly
  · intro row member
    exact (healthy.rows row member).carried grown (List.Subset.refl _) (le_refl _)
  · exact healthy.consistent
  · exact healthy.earlier.trans earlier
  · exact ⟨s, synced.carried grown rfl (List.Subset.refl _)⟩

/-- A submission under a key that stands for nothing records a new order. -/
theorem submit_new {s s' : ShadowLedger} {t : Time} {command : BrokerCommandIntent}
    {contract : OptionContract} {order : BrokerOrder}
    (unused : s.orderByIdempotency.get? command.idempotencyKey = none)
    (submitted : s.submit .exact desk.cfg t command contract = (.ok order, s')) :
    Bound desk.cfg command contract .placeOptionOrder ∧
      recordSubmission .exact desk.cfg t command contract s = (order, s') := by
  have new : duplicateOrder desk.cfg command s = .ok none := by
    rw [duplicateOrder, unused]
  rw [submit, new] at submitted
  split at submitted
  · cases submitted
  next valid =>
    rw [Prod.mk.injEq] at submitted
    exact ⟨bound_of_validateCommand valid, Prod.ext (Except.ok.inj submitted.1) submitted.2⟩

/-- What the order of a new intent does to the ledger. -/
theorem Orderly.execute {intents : List OrderIntent} {intent : OrderIntent} {s s' : ShadowLedger}
    {t : Time} {command : BrokerCommandIntent} {contract : OptionContract} {order : BrokerOrder}
    (orderly : desk.Orderly catalog now intents s) (solvent : Solvent desk.cfg catalog s)
    (distinct : desk.Distinct (intents ++ [intent]))
    (apart : ∀ other ∈ intents, Rows.Apart other intent)
    (own : command.orderIntentId = intent.intentId)
    (key : command.idempotencyKey = intent.idempotencyKey) (later : now ≤ now') (early : t ≤ now')
    (listed : catalog contract.instrumentId = contract)
    (submitted : s.submit .exact desk.cfg t command contract = (.ok order, s')) :
    Solvent desk.cfg catalog s' ∧ desk.Orderly catalog now' (intents ++ [intent]) s' ∧
      ∃ item, ShadowLedger.Recorded desk.cfg command item s s' ∧ item.published = order ∧
        order.orderId = desk.orderId intent.intentId ∧ order.environment = .demo ∧
        order.filledQuantity = 0 := by
  have unused : s.orderByIdempotency.get? command.idempotencyKey = none := by
    cases taken : s.orderByIdempotency.get? command.idempotencyKey with
    | none => rfl
    | some id =>
      obtain ⟨other, member, same⟩ := orderly.keyed _ id taken
      exact absurd (same.trans key) (apart other member).2.2
  obtain ⟨bound, recorded⟩ := submit_new unused submitted
  have unplaced : s.orders.get? (orderIdFor desk.cfg command) = none := by
    cases taken : s.orders.get? (orderIdFor desk.cfg command) with
    | none => rfl
    | some item =>
      obtain ⟨-, owner, member, named⟩ := orderly.placed _ item taken
      have same := orderly.booked.named _ item taken
      rw [orderIdFor, own, ← named] at same
      have equal := distinct.orders intent (List.mem_append_right _ List.mem_cons_self) owner
        (List.mem_append_left _ member) same
      exact absurd equal.symm (apart owner member).1
  have added := recordSubmission_recorded t command contract unplaced
  have solvent' : Solvent desk.cfg catalog (recordSubmission .exact desk.cfg t command contract s).2 :=
    recordSubmission_solvent bound listed solvent
  rw [recorded] at added solvent'
  have same : order = newOrder desk.cfg t command contract
      (rejectionReasonsFor .exact desk.cfg t command contract s) :=
    (congrArg Prod.fst recorded).symm
  refine ⟨solvent', ?_, _, added, same.symm, ?_, ?_, ?_⟩
  · exact (orderly.later later (List.subset_append_left _ _)).record added early
      (List.mem_append_right _ List.mem_cons_self) own key
  · rw [same]
    exact congrArg desk.orderId own
  · rw [same, newOrder]
  · rw [same, newOrder]

theorem quiet_review {s : ShadowLedger} {t : Time} {ids : FreshIds} {p : TradeProposal} :
    ShadowLedger.Quiet s (s.review .exact desk.cfg t ids p).2 :=
  ⟨rfl, rfl, rfl, fun _ => rfl, fun _ => rfl, fun _ => rfl⟩

/-- An execution adds an order the ledger did not have, and the two rows that are its own. -/
theorem Healthy.executed {p : TradeProposal} {d d' : Time × Books} {intent : OrderIntent}
    {command : BrokerCommandIntent} {pending order : BrokerOrder}
    (healthy : desk.Healthy catalog d.1 d.2) (demo : desk.svc.environment = .demo)
    (distinct : desk.Distinct d'.2.rows.orderIntents) (lists : Lists catalog d.2.ledger)
    (executed : desk.Executed p d d' intent command pending order) :
    desk.Healthy catalog d'.1 d'.2 := by
  obtain ⟨held, found, contract⟩ := executed.quoted
  obtain ⟨ids, reviewed, placed, early, submitted⟩ := executed.placed
  have listed : catalog p.contract.instrumentId = p.contract := (lists _ held found).trans contract
  have rows := executed.rows
  have intents := executed.intents
  rw [intents] at distinct
  obtain ⟨solvent, orderly, item, recorded, rfl, named, environment, none_⟩ :=
    (healthy.orderly.quiet quiet_review).execute
      (review_kept reviewed ids p healthy.solvent).1 distinct executed.new executed.commandIntent
      executed.commandKey executed.later early listed submitted
  have grown : Grown d.2.ledger d'.2.ledger := (Grown.quiet quiet_review).trans (.record recorded)
  have new : intent ∈ d.2.rows.orderIntents ++ [intent] :=
    List.mem_append_right _ List.mem_cons_self
  have placedAs : item.published.orderId = orderIdFor desk.cfg command := by
    rw [named, ← executed.commandIntent]
    rfl
  have there : d'.2.ledger.orders.get? item.published.orderId = some item := by
    rw [placedAs, recorded.orders, Dict.get?_set_self]
  -- neither of the new rows has an identifier that was used before
  have unusedPending : ∀ row ∈ d.2.rows.orders, row.orderId ≠ pending.orderId := by
    intro row member same
    rw [executed.pendingId] at same
    rcases (healthy.rows row member).known with ⟨other, inside, pendingId, -⟩ | ⟨old, inBook, -⟩
    · have equal := distinct.pendings other (List.mem_append_left _ inside) intent new
        (pendingId.symm.trans same)
      exact (executed.new other inside).1 equal
    · have inBook' := inBook
      rw [same] at inBook'
      refine pending_ne distinct (healthy.orderly.later (le_refl _)
        (List.subset_append_left _ [intent])) inBook' new rfl
  have unusedOrder : ∀ row ∈ d.2.rows.orders, row.orderId ≠ item.published.orderId := by
    intro row member same
    rcases (healthy.rows row member).known with ⟨other, inside, pendingId, -⟩ | ⟨old, inBook, -⟩
    · rw [same, named] at pendingId
      exact distinct.apart other (List.mem_append_left _ inside) intent new pendingId.symm
    · have unused : d.2.ledger.orders.get? (orderIdFor desk.cfg command) = none := recorded.unused
      rw [same, placedAs, unused] at inBook
      cases inBook
  have apartIds : pending.orderId ≠ item.published.orderId := by
    rw [executed.pendingId, named]
    exact distinct.apart intent new intent new
  obtain ⟨s, synced⟩ := healthy.synced
  have kept : d.2.rows.orders ⊆ d'.2.rows.orders := fun row member => (rows row).mpr (Or.inl member)
  constructor
  · exact solvent
  · rw [intents]
    exact orderly
  · intro row member
    rcases (rows row).mp member with old | rfl | rfl
    · refine (healthy.rows row old).carried grown ?_ (by rw [executed.fills])
      rw [intents]
      exact List.subset_append_left _ _
    · refine ⟨executed.pendingEnvironment.trans demo,
        Or.inl ⟨intent, ?_, executed.pendingId, executed.pendingFilled⟩⟩
      rw [intents]
      exact new
    · refine ⟨environment, Or.inr ⟨item, there, ⟨rfl, rfl, rfl⟩, ?_⟩⟩
      rw [none_, executed.fills, ← synced.fills]
      exact synced.booked.filledBy_nonneg _
  · intro row member other inside same
    rcases (rows row).mp member with old | rfl | rfl
    · rcases (rows other).mp inside with old' | rfl | rfl
      · exact healthy.consistent row old other old' same
      · exact absurd same (unusedPending row old)
      · exact absurd same (unusedOrder row old)
    · rcases (rows other).mp inside with old' | rfl | rfl
      · exact absurd same.symm (unusedPending other old')
      · rfl
      · exact absurd same apartIds
    · rcases (rows other).mp inside with old' | rfl | rfl
      · exact absurd same.symm (unusedOrder other old')
      · exact absurd same.symm apartIds
      · rfl
  · rw [executed.fills, recorded.fills]
    exact healthy.earlier
  · exact ⟨s, synced.carried grown executed.fills kept⟩

theorem filledBy_le {fills later : List Fill} (earlier : fills <+: later)
    (positive : ∀ fill ∈ later, 0 < fill.quantity) (key : UUID) :
    filledBy key fills ≤ filledBy key later := by
  obtain ⟨rest, rfl⟩ := earlier
  have nonneg : 0 ≤ filledBy key rest := by
    apply List.sum_nonneg
    intro amount member
    obtain ⟨fill, inside, rfl⟩ := List.mem_map.mp member
    exact le_of_lt (positive fill (List.mem_append_right _ (List.mem_of_mem_filter inside)))
  simp only [filledBy, List.filter_append, List.map_append, List.sum_append] at nonneg ⊢
  omega

/-- A synchronisation brings the journal up to the ledger. -/
theorem Healthy.sync (healthy : desk.Healthy catalog now b)
    (distinct : desk.Distinct b.rows.orderIntents)
    (identified : (b.ledger.fills.map Fill.fillId).Nodup)
    (completed : OfflineRuntime.syncExecutionJournal desk.svc.hashing b = .ok b') :
    desk.Healthy catalog now b' := by
  obtain ⟨ledger, fills, intents, rows⟩ :=
    OfflineRuntime.syncExecutionJournal_ok identified healthy.earlier completed
  have ok := healthy.solvent.orders_ok
  have booked := healthy.orderly.booked
  -- a row that was there before and one that is the order as it stands
  have agree : ∀ row ∈ b.rows.orders, ∀ key item, b.ledger.orders.get? key = some item →
      row.orderId = item.published.orderId → orderTerms row = orderTerms item.published := by
    intro row member key item found same
    rw [(ok key item found).key_eq] at same
    subst same
    rcases (healthy.rows row member).known with ⟨intent, inside, named, -⟩ | ⟨item', found', snapshot, -⟩
    · exact absurd named.symm (pending_ne distinct healthy.orderly found inside)
    · rw [found] at found'
      cases found'
      exact snapshot.terms
  constructor
  · rw [ledger]
    exact healthy.solvent
  · rw [ledger, intents]
    exact healthy.orderly
  · intro row member
    rcases (rows row).mp member with old | ⟨item, inside, rfl⟩
    · refine (healthy.rows row old).carried ?_ ?_ ?_
      · rw [ledger]
        exact Grown.refl _
      · rw [intents]
        exact List.Subset.refl _
      · rw [fills]
        exact filledBy_le healthy.earlier (fun fill made => (booked.positive fill made).1) _
    · obtain ⟨key, found⟩ := Dict.mem_values.mp inside
      refine ⟨(ok key item found).environment, Or.inr ⟨item, ?_, ⟨rfl, rfl, rfl⟩, ?_⟩⟩
      · rw [ledger, (ok key item found).key_eq, found]
      · rw [fills, (ok key item found).key_eq, booked.totals key item found]
  · intro row member other inside same
    rcases (rows row).mp member with old | ⟨item, within, rfl⟩
    · rcases (rows other).mp inside with old' | ⟨item', within', rfl⟩
      · exact healthy.consistent row old other old' same
      · obtain ⟨key, found⟩ := Dict.mem_values.mp within'
        exact agree row old key item' found same
    · obtain ⟨key, found⟩ := Dict.mem_values.mp within
      rcases (rows other).mp inside with old' | ⟨item', within', rfl⟩
      · exact (agree other old' key item found same.symm).symm
      · obtain ⟨key', found'⟩ := Dict.mem_values.mp within'
        rw [(ok key item found).key_eq, (ok key' item' found').key_eq] at same
        rw [same, found'] at found
        cases found
        rfl
  · rw [fills, ledger]
  · refine ⟨b.ledger, ok, booked, healthy.orderly.follows, ?_, fills.symm, ?_⟩
    · rw [ledger]
      exact Grown.refl _
    · intro key item found
      exact (rows _).mpr (Or.inr ⟨item, Dict.mem_values.mpr ⟨key, found⟩, rfl⟩)

end Books

/-! ### Whole runs -/

section Runs

variable {desk} {catalog : String → OptionContract} {steps : List Step} {g : Ambient Books}

theorem submit_frame {s s' : ShadowLedger} {t : Time} {command : BrokerCommandIntent}
    {contract : OptionContract} {r : Except Exc BrokerOrder}
    (submitted : s.submit .exact desk.cfg t command contract = (r, s')) :
    s'.quotes = s.quotes ∧ s'.fills = s.fills := by
  have result : (s.submit .exact desk.cfg t command contract).2 = s' := congrArg Prod.snd submitted
  rcases submit_cases .exact t command contract with same | ⟨-, -, recorded⟩
  · rw [← result, same]
    exact ⟨rfl, rfl⟩
  · rw [← result, recorded, recordSubmission_frame]
    exact ⟨rfl, rfl⟩

/-- A quote that the ledger takes is for the contract it knows the instrument by. -/
theorem contract_of_observeQuote {s s' : ShadowLedger} {t : Time} {ids : FreshIds}
    {quote prior : OptionQuote} {fills : List Fill}
    (observed : s.observeQuote .exact desk.cfg t ids quote = (.ok fills, s'))
    (found : s.quotes.get? quote.contract.instrumentId = some prior) :
    prior.contract = quote.contract := by
  by_contra other
  have refused : ∃ e, admitQuote t quote s = .error e := by
    unfold admitQuote
    split
    · exact ⟨_, rfl⟩
    · rw [found]
      dsimp only
      split
      · have changed : prior ≠ quote := by
          rintro rfl
          exact other rfl
        rw [if_pos changed]
        exact ⟨_, rfl⟩
      · split
        · exact ⟨_, rfl⟩
        · exact ⟨_, rfl⟩
  obtain ⟨e, refused⟩ := refused
  rw [observeQuote, observeQuoteLog, refused] at observed
  cases observed

/-- The ledger never changes the contract of an instrument it has seen a quote of. -/
theorem lists_of_observeQuote {s s' : ShadowLedger} {t : Time} {ids : FreshIds}
    {quote : OptionQuote} {fills : List Fill}
    (observed : s.observeQuote .exact desk.cfg t ids quote = (.ok fills, s'))
    (lists : Lists catalog s') : Lists catalog s := by
  intro i prior found
  have result : (s.observeQuote .exact desk.cfg t ids quote).2 = s' := congrArg Prod.snd observed
  rcases observeQuote_indexes .exact desk.cfg t ids quote s with same | ⟨-, -, same⟩
  · apply lists
    rw [← result, same.quotes, found]
  · have quotes : s'.quotes = s.quotes.set quote.contract.instrumentId quote := by
      rw [← result, same.quotes]
    by_cases own : quote.contract.instrumentId = i
    · subst own
      have listed := lists quote.contract.instrumentId quote (by rw [quotes, Dict.get?_set_self])
      rw [listed, contract_of_observeQuote observed found]
    · apply lists
      rw [quotes, Dict.get?_set_of_ne _ _ own, found]

/-- What an execution leaves of the ledger's quotes and fills, and of the intents. -/
theorem Executed.frame {p : TradeProposal} {d d' : Time × Books} {intent : OrderIntent}
    {command : BrokerCommandIntent} {pending order : BrokerOrder}
    (executed : desk.Executed p d d' intent command pending order) :
    d'.2.ledger.quotes = d.2.ledger.quotes ∧ d'.2.ledger.fills = d.2.ledger.fills ∧
      d.2.rows.orderIntents ⊆ d'.2.rows.orderIntents := by
  obtain ⟨ids, reviewed, placed, -, submitted⟩ := executed.placed
  obtain ⟨quotes, fills⟩ := submit_frame submitted
  refine ⟨quotes, fills, ?_⟩
  rw [executed.intents]
  exact List.subset_append_left _ _

/-- No step of these is a cancellation. -/
def Uncancelled (steps : List Step) : Prop := ∀ target, Step.cancelled target ∉ steps

theorem Uncancelled.before {step : Step} (uncancelled : Uncancelled (steps ++ [step])) :
    Uncancelled steps :=
  fun target member => uncancelled target (List.mem_append_left _ member)

theorem Uncancelled.last {target : BrokerOrder} :
    ¬Uncancelled (steps ++ [.cancelled target]) :=
  fun uncancelled => uncancelled target (List.mem_append_right _ List.mem_cons_self)

/-- The fills of a run have distinct identifiers. -/
theorem Run.identified (run : desk.Run steps g) (uncancelled : Uncancelled steps) :
    (g.broker.ledger.fills.map Fill.fillId).Nodup := by
  induction run with
  | start fresh =>
    rw [fresh]
    exact List.nodup_nil
  | executed _ passes ih =>
    obtain ⟨_, _, _, _, executed⟩ := executed_of_passes passes
    have fills := executed.frame.2.1
    simp only [view] at fills
    rw [fills]
    exact ih uncancelled.before
  | cancelled _ _ _ => exact absurd uncancelled Uncancelled.last
  | quoted _ _ drawn _ => exact drawn
  | synced _ completed ih =>
    simp only [Ambient.adapt]
    rw [(OfflineRuntime.syncExecutionJournal_frame completed).1]
    exact ih uncancelled.before
  | waited _ _ same ih =>
    rw [same]
    exact ih uncancelled.before

/-- Runs without cancellations keep their journals healthy, whatever contracts the quotes of
the ledger are for. -/
theorem Run.healthy (demo : desk.svc.environment = .demo) (run : desk.Run steps g)
    (uncancelled : Uncancelled steps) (distinct : desk.Distinct g.broker.rows.orderIntents)
    (lists : Lists catalog g.broker.ledger) : desk.Healthy catalog g.now g.broker := by
  induction run with
  | start fresh =>
    rw [fresh]
    exact healthy_fresh
  | @executed _ g₀ _ _ _ _ _ _ earlier passes ih =>
    obtain ⟨_, _, _, _, executed⟩ := executed_of_passes passes
    obtain ⟨quotes, -, intents⟩ := executed.frame
    have lists₀ : Lists catalog g₀.broker.ledger := by
      intro i quote found
      apply lists
      simp only [view] at quotes
      rw [quotes, found]
    exact (ih uncancelled.before (distinct.of_subset intents) lists₀).executed demo distinct lists₀
      executed
  | cancelled _ _ _ => exact absurd uncancelled Uncancelled.last
  | @quoted _ _ ids quote _ _ earlier observed drawn ih =>
    have quoted := (ih uncancelled.before distinct
      (lists_of_observeQuote observed lists)).quoted ids quote
    rw [observed] at quoted
    exact quoted
  | synced earlier completed ih =>
    obtain ⟨ledger, intents⟩ := OfflineRuntime.syncExecutionJournal_frame completed
    simp only [Ambient.adapt] at distinct lists
    rw [intents] at distinct
    rw [ledger] at lists
    exact (ih uncancelled.before distinct lists).sync distinct
      (earlier.identified uncancelled.before) completed
  | waited earlier later same ih =>
    rw [same] at distinct lists ⊢
    exact (ih uncancelled.before distinct lists).waited later

/-- Every ledger has a catalog of the contracts it has seen. -/
theorem exists_lists (s : ShadowLedger) : ∃ catalog, Lists catalog s := by
  refine ⟨fun i => (s.quotes.get? i).elim sampleContract OptionQuote.contract, ?_⟩
  intro i quote found
  simp only [found, Option.elim_some]

/-- What a worker reads of the journal: every order row, and every fill numbered in the order
in which the fills were appended. The rows come in any order. -/
structure Scanned (w : ReviewWorker) (b : Books) (orderRows : List (EvidenceRow BrokerOrder))
    (fillRows : List (EvidenceRow Fill)) : Prop where
  ownOrders : ∀ row ∈ orderRows, OwnRow w BrokerOrder.createdAt row
  ownFills : ∀ row ∈ fillRows, OwnRow w Fill.createdAt row
  orders : (orderRows.map EvidenceRow.payload).Perm b.rows.orders
  fills : Numbered b.fills fillRows

/-- One way to read a journal: in the order in which its rows were appended. -/
def readOrders (w : ReviewWorker) (b : Books) : List (EvidenceRow BrokerOrder) :=
  b.rows.orders.zipIdx.map fun entry =>
    ⟨w.environment, w.namespace_, entry.1.createdAt, entry.2 + 1, entry.1⟩

def readFills (w : ReviewWorker) (b : Books) : List (EvidenceRow Fill) :=
  b.fills.zipIdx.map fun entry =>
    ⟨w.environment, w.namespace_, entry.1.createdAt, entry.2 + 1, entry.1⟩

theorem scanned_read (w : ReviewWorker) (b : Books) :
    Scanned w b (readOrders w b) (readFills w b) := by
  constructor
  · intro row member
    obtain ⟨entry, -, rfl⟩ := List.mem_map.mp member
    exact ⟨rfl, rfl, rfl⟩
  · intro row member
    obtain ⟨entry, -, rfl⟩ := List.mem_map.mp member
    exact ⟨rfl, rfl, rfl⟩
  · rw [readOrders, List.map_map]
    exact List.Perm.of_eq (List.zipIdx_map_fst 0 _)
  · refine ⟨_, List.Perm.refl _, ?_, ?_⟩
    · rw [readFills, List.map_map]
      exact List.zipIdx_map_fst 0 _
    · rw [readFills, List.pairwise_map, List.pairwise_iff_getElem]
      intro i j boundI boundJ less
      simpa using less

end Runs

/-- The reviewer accepts every journal of a run without cancellations, at any later time. -/
theorem derive_accepts_uncancelled (desk : PaperDesk) (demo : desk.svc.environment = .demo)
    (steps : List Step) (g : Ambient Books) (run : desk.Run steps g)
    (uncancelled : Uncancelled steps) (distinct : desk.Distinct g.broker.rows.orderIntents)
    (w : ReviewWorker) (environment : w.environment = .demo) (now : Time) (later : g.now ≤ now)
    (orderRows : List (EvidenceRow BrokerOrder)) (fillRows : List (EvidenceRow Fill))
    (scanned : Scanned w g.broker orderRows fillRows) :
    ∃ outcomes, w.derive .exact now orderRows fillRows = .ok outcomes := by
  obtain ⟨catalog, lists⟩ := exists_lists g.broker.ledger
  have healthy := run.healthy demo uncancelled distinct lists
  obtain ⟨s, synced⟩ := healthy.synced
  have evidence := healthy.evidence distinct (run.identified uncancelled) environment later
    scanned.ownOrders scanned.ownFills scanned.orders scanned.fills synced
  obtain ⟨outcomes, -, -, derived, -⟩ :=
    derive_accepts evidence synced.booked (synced.follows w now) synced.ok
  exact ⟨outcomes, derived⟩

end PaperDesk

/-! ### An order that is filled, and one that is cancelled -/

namespace PaperSample

open Coroutine PaperDesk
open DeskSample (service limitsOf quote proposal)

/-- A stand-in for the digest with short texts, one for each kind of document. -/
def hashing : Hashing :=
  { DeskSample.hashing with
    sha256Json := fun document => match document with
      | .obj [_, _, (_, .str action)] => action
      | .obj [_, _, _, _] => "cancellation"
      | _ => "placement" }

def ledgerConfig : LedgerConfig := { DeskSample.ledgerConfig with hashing := hashing }

def desk : PaperDesk where
  svc := { service .exact (limitsOf 2) with hashing := hashing }
  cfg := ledgerConfig

/-- A broker over the ledger of the books and a store over its rows. -/
def handler (op : Op) (g : Ambient Books) : Except Exc (Ans op) × Ambient Books :=
  match op with
  | .getEffectiveExecutionAccountState =>
    (.ok (g.broker.ledger.accountSnapshot .exact ledgerConfig g.now ⟨4⟩), g)
  | .getOptionQuote instrumentId =>
    match g.broker.ledger.quotes.get? instrumentId with
    | some quote =>
      if quote.contract.instrumentId = instrumentId then (.ok quote, g) else (.error .connection, g)
    | none => (.error .connection, g)
  | .getCapabilities =>
    (.ok {
      descriptors := [
        ⟨"place_option_order", "place_option_order", "v1", "schema", false, .obj [], true⟩,
        ⟨"cancel_option_order", "cancel_option_order", "v1", "schema", false, .obj [], true⟩]
      cancelOptionOrders := true
      executionReady := true }, g)
  | .reviewOptionOrder p =>
    let reviewed := g.broker.ledger.review .exact ledgerConfig g.now sampleIds p
    (.ok reviewed.1, g.adapt fun b => { b with ledger := reviewed.2 })
  | .placeOptionOrder command contract =>
    let placed := g.broker.ledger.submit .exact ledgerConfig g.now command contract
    (placed.1, g.adapt fun b => { b with ledger := placed.2 })
  | .cancelOptionOrder command id =>
    let canceled := g.broker.ledger.cancel ledgerConfig command (.text id)
    (canceled.1, g.adapt fun b => { b with ledger := canceled.2 })
  | .recordTransition record =>
    (.ok (), g.adapt fun b => { b with transitions := b.transitions ++ [record] })
  | .saveOrder order =>
    match PostgresExecutionStore.saveOrder order g.broker.rows with
    | .error e => (.error e, g)
    | .ok rows => (.ok (), g.adapt fun b => { b with rows := rows })
  | op =>
    let stored := InMemoryExecutionStore.perform Sample.answers op g.broker.rows
    (stored.1, g.adapt fun b => { b with rows := stored.2 })

theorem handler_relied (op : Op) (g : Ambient Books) :
    desk.rely op g (handler op g).1 (handler op g).2 := by
  have stored : ∀ op, performs op g.broker.rows
      (InMemoryExecutionStore.perform Sample.answers op g.broker.rows).1
      (InMemoryExecutionStore.perform Sample.answers op g.broker.rows).2 :=
    fun op => InMemoryExecutionStore.perform_performs Sample.answers op g.broker.rows
  cases op with
  | getOptionQuote instrumentId =>
    simp only [handler]
    split
    next quote found =>
      split
      next own =>
        refine ⟨g.now, le_refl _, le_refl _, rfl, ?_⟩
        intro held there _
        have there' : g.broker.ledger.quotes.get? instrumentId = some held := own ▸ there
        rw [found] at there'
        exact (Option.some.inj there').symm
      · exact ⟨g.now, le_refl _, le_refl _, trivial⟩
    · exact ⟨g.now, le_refl _, le_refl _, trivial⟩
  | reviewOptionOrder p => exact ⟨g.now, le_refl _, le_refl _, sampleIds, rfl, rfl⟩
  | placeOptionOrder command contract =>
    refine ⟨g.now, le_refl _, le_refl _, ?_⟩
    cases placed : g.broker.ledger.submit .exact ledgerConfig g.now command contract with
    | mk r s' =>
      simp only [handler, placed, view, Ambient.adapt]
      cases r with
      | error e => trivial
      | ok order => exact ⟨placed, rfl⟩
  | cancelOptionOrder command id =>
    refine ⟨g.now, le_refl _, le_refl _, ?_⟩
    cases canceled : g.broker.ledger.cancel ledgerConfig command (.text id) with
    | mk r s' =>
      simp only [handler, canceled, view, Ambient.adapt]
      cases r with
      | error e => trivial
      | ok order => exact ⟨canceled, rfl⟩
  | recordTransition record => exact ⟨g.now, le_refl _, le_refl _, rfl⟩
  | saveOrder order =>
    simp only [handler]
    split
    · exact ⟨g.now, le_refl _, le_refl _, trivial⟩
    next rows saved =>
      exact ⟨g.now, le_refl _, le_refl _, PostgresExecutionStore.saveOrder_performs saved, rfl⟩
  | saveOrderIntent intent =>
    have saved := stored (.saveOrderIntent intent)
    refine ⟨g.now, le_refl _, le_refl _, ?_⟩
    simp only [handler, view, Ambient.adapt]
    cases r : (InMemoryExecutionStore.perform Sample.answers (.saveOrderIntent intent)
        g.broker.rows).1 with
    | error e => trivial
    | ok _ => exact ⟨r ▸ saved, rfl⟩
  | saveCommandIntent command =>
    have saved := stored (.saveCommandIntent command)
    refine ⟨g.now, le_refl _, le_refl _, ?_⟩
    simp only [handler, view, Ambient.adapt]
    cases r : (InMemoryExecutionStore.perform Sample.answers (.saveCommandIntent command)
        g.broker.rows).1 with
    | error e => trivial
    | ok _ => exact ⟨r ▸ saved, rfl⟩
  | getEffectiveExecutionAccountState => exact ⟨g.now, le_refl _, le_refl _, rfl, rfl⟩
  | getCapabilities => exact ⟨g.now, le_refl _, le_refl _, rfl, rfl⟩
  | _ => exact ⟨g.now, le_refl _, le_refl _, stored _, rfl⟩

def start : Ambient Books where
  tradingMode := .auto
  killSwitchActive := false
  healthy := true
  now := 20
  safety := Sample.surroundings.safety
  interruptedWriteIntents := []
  broker := { ledger := .fresh ledgerConfig }

def observe (q : OptionQuote) (g : Ambient Books) : Ambient Books :=
  g.adapt fun b => { b with ledger := (b.ledger.observeQuote .exact ledgerConfig g.now sampleIds q).2 }

/-- One execution without interruption. -/
def execution (p : TradeProposal) (g : Ambient Books) : Except Exc ExecutionResult × Ambient Books :=
  run handler (desk.svc.execute p none ⟨⟨100⟩, ⟨101⟩, ⟨102⟩⟩) g

def cancellation (target : BrokerOrder) (limitPrice : Decimal)
    (written : limitPrice.val = target.limitPrice) (g : Ambient Books) :
    Except Exc CancellationResult × Ambient Books :=
  run handler (desk.svc.cancelOrder target limitPrice written) g

variable {steps : List Step} {g : Ambient Books}

theorem run_execution (p : TradeProposal) (earlier : desk.Run steps g)
    (succeeded : (execution p g).1.isOk = true) :
    desk.Run (steps ++ [.executed p]) (execution p g).2 := by
  obtain ⟨h, passes⟩ := passes_run handler handler_relied
    (desk.svc.execute p none ⟨⟨100⟩, ⟨101⟩, ⟨102⟩⟩) g
  cases result : (execution p g).1 with
  | error e =>
    rw [result] at succeeded
    cases succeeded
  | ok answer =>
    unfold execution at result
    rw [result] at passes
    exact .executed earlier passes

theorem run_cancellation (target : BrokerOrder) (limitPrice : Decimal)
    (written : limitPrice.val = target.limitPrice) (earlier : desk.Run steps g)
    (succeeded : (cancellation target limitPrice written g).1.isOk = true) :
    desk.Run (steps ++ [.cancelled target]) (cancellation target limitPrice written g).2 := by
  obtain ⟨h, passes⟩ := passes_run handler handler_relied
    (desk.svc.cancelOrder target limitPrice written) g
  cases result : (cancellation target limitPrice written g).1 with
  | error e =>
    rw [result] at succeeded
    cases succeeded
  | ok answer =>
    unfold cancellation at result
    rw [result] at passes
    exact .cancelled earlier passes

theorem run_observe (q : OptionQuote) (earlier : desk.Run steps g)
    (succeeded : (g.broker.ledger.observeQuote .exact ledgerConfig g.now sampleIds q).1.isOk = true)
    (drawn : ((observe q g).broker.ledger.fills.map Fill.fillId).Nodup) :
    desk.Run (steps ++ [.quoted q]) (observe q g) := by
  cases observed : g.broker.ledger.observeQuote .exact ledgerConfig g.now sampleIds q with
  | mk r s' =>
    rw [observed] at succeeded
    cases r with
    | error e => cases succeeded
    | ok fills =>
      have same : observe q g = g.adapt fun b => { b with ledger := s' } := by
        simp only [observe, Ambient.adapt, observed]
      rw [same] at drawn ⊢
      exact .quoted earlier observed drawn

def wait (elapsed : ℤ) (g : Ambient Books) : Ambient Books := { g with now := g.now + elapsed }

/-- A quote, and an order placed on it. -/
def placed : Ambient Books := (execution (proposal 3 10 1 ⟨150, -2⟩) (observe (quote 5 10 1) start)).2

/-- The same after the order was filled and the journal synchronised. -/
def filled : Ambient Books := observe (quote 6 25 1) (wait 10 placed)

def synchronise (g : Ambient Books) : Ambient Books :=
  match OfflineRuntime.syncExecutionJournal desk.svc.hashing g.broker with
  | .ok b => g.adapt fun _ => b
  | .error _ => g

theorem run_synchronise (earlier : desk.Run steps g)
    (succeeded : (OfflineRuntime.syncExecutionJournal desk.svc.hashing g.broker).isOk = true) :
    desk.Run (steps ++ [.synced]) (synchronise g) := by
  unfold synchronise
  cases completed : OfflineRuntime.syncExecutionJournal desk.svc.hashing g.broker with
  | error e =>
    rw [completed] at succeeded
    cases succeeded
  | ok b => exact .synced earlier completed

theorem placed_evaluated :
    (start.broker.ledger.observeQuote .exact ledgerConfig start.now sampleIds
        (quote 5 10 1)).1.isOk = true ∧
      ((observe (quote 5 10 1) start).broker.ledger.fills.map Fill.fillId).Nodup ∧
      (execution (proposal 3 10 1 ⟨150, -2⟩) (observe (quote 5 10 1) start)).1.isOk = true := by
  decide +kernel

theorem run_placed : desk.Run [.quoted (quote 5 10 1), .executed (proposal 3 10 1 ⟨150, -2⟩)] placed :=
  run_execution _ (run_observe _ (.start rfl) placed_evaluated.1 placed_evaluated.2.1)
    placed_evaluated.2.2

/-- The order as its execution has saved it. -/
def target : BrokerOrder := placed.broker.rows.orders.getLast (by decide +kernel)

def canceled : Ambient Books := (cancellation target ⟨150, -2⟩ (by decide +kernel) placed).2

/-- Whether a computation has raised this exception. -/
def raised {α : Type} (e : Exc) : Except Exc α → Bool
  | .error e' => e' = e
  | .ok _ => false

theorem canceled_evaluated :
    (cancellation target ⟨150, -2⟩ (by decide +kernel) placed).1.isOk = true ∧
      desk.Distinct canceled.broker.rows.orderIntents ∧
      raised (.dataInvalid "broker order identity has inconsistent exact terms")
        (sampleReviewer.derive .exact 50 (readOrders sampleReviewer canceled.broker)
          (readFills sampleReviewer canceled.broker)) = true := by
  decide +kernel

theorem run_canceled : desk.Run
    [.quoted (quote 5 10 1), .executed (proposal 3 10 1 ⟨150, -2⟩), .cancelled target] canceled :=
  run_cancellation target _ _ run_placed canceled_evaluated.1

theorem run_waited : desk.Run [.quoted (quote 5 10 1), .executed (proposal 3 10 1 ⟨150, -2⟩),
    .waited] (wait 10 placed) :=
  .waited run_placed (le_add_of_nonneg_right (by decide)) rfl

/-- The run up to the fill and its synchronisation, evaluated once. -/
theorem filled_evaluated :
    ((wait 10 placed).broker.ledger.observeQuote .exact ledgerConfig (wait 10 placed).now sampleIds
        (quote 6 25 1)).1.isOk = true ∧
      (filled.broker.ledger.fills.map Fill.fillId).Nodup ∧
      (OfflineRuntime.syncExecutionJournal desk.svc.hashing filled.broker).isOk = true ∧
      desk.Distinct (synchronise filled).broker.rows.orderIntents ∧
      (synchronise filled).broker.fills.length = 1 ∧ (synchronise filled).now ≤ 50 := by
  decide +kernel

theorem run_filled : desk.Run [.quoted (quote 5 10 1), .executed (proposal 3 10 1 ⟨150, -2⟩),
    .waited, .quoted (quote 6 25 1), .synced] (synchronise filled) :=
  run_synchronise (run_observe _ run_waited filled_evaluated.1 filled_evaluated.2.1)
    filled_evaluated.2.2.1

theorem error_of_raised {α : Type} {e : Exc} {r : Except Exc α} (failed : raised e r = true) :
    r = .error e := by
  cases r with
  | ok a => cases failed
  | error e' => rw [of_decide_eq_true failed]

end PaperSample

open PaperSample PaperDesk in
/-- After one order was placed and cancelled, every review fails. -/
theorem PaperDesk.derive_rejects_cancelled :
    (∃ steps, PaperSample.desk.Run steps canceled) ∧
    PaperSample.desk.Distinct canceled.broker.rows.orderIntents ∧
    Scanned sampleReviewer canceled.broker (readOrders sampleReviewer canceled.broker)
      (readFills sampleReviewer canceled.broker) ∧
    sampleReviewer.derive .exact 50 (readOrders sampleReviewer canceled.broker)
      (readFills sampleReviewer canceled.broker) =
        .error (.dataInvalid "broker order identity has inconsistent exact terms") := by
  obtain ⟨-, distinct, failed⟩ := canceled_evaluated
  exact ⟨⟨_, run_canceled⟩, distinct, scanned_read _ _, error_of_raised failed⟩

open PaperSample PaperDesk in
theorem PaperDesk.derive_accepts_filled :
    (synchronise filled).broker.fills.length = 1 ∧
    ∃ outcomes, sampleReviewer.derive .exact 50 (readOrders sampleReviewer (synchronise filled).broker)
      (readFills sampleReviewer (synchronise filled).broker) = .ok outcomes := by
  obtain ⟨-, -, -, distinct, one, later⟩ := filled_evaluated
  have uncancelled : Uncancelled [.quoted (DeskSample.quote 5 10 1),
      .executed (DeskSample.proposal 3 10 1 ⟨150, -2⟩), .waited,
      .quoted (DeskSample.quote 6 25 1), .synced] := by
    intro target member
    simp at member
  exact ⟨one, derive_accepts_uncancelled PaperSample.desk rfl _ _ run_filled uncancelled distinct
    sampleReviewer rfl 50 later _ _ (scanned_read _ _)⟩

end Sentry
