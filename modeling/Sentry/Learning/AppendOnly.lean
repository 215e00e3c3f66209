import Sentry.Learning.ListedRows
import Sentry.Learning.Matching
import Sentry.Learning.SameEvidence

/-!
# Reviews of a growing journal

Fills are reviewed in the order of their times and numbers, so what comes after all fills of a
journal cannot change what was derived from it. Listing the rows in another order changes
nothing either, as long as the rows that are read last say the same where rows of one order or
one fill may differ. A tick leaves nothing to append for the one right after it.
-/
namespace Sentry

open Support ReviewWorker

namespace JournalReviewer

variable {svc : JournalReviewer} {D : Decimal.Context} {now now' : Time}

/-- The rows of orders and fills, as they are listed. -/
structure Listing where
  orders : List (EvidenceRow WrittenOrder)
  fills : List (EvidenceRow WrittenFill)

/-! ### What is derived -/

/-- Time first, then the number. -/
def fillKey (entry : Fill × ℕ) : Time ×ₗ ℕ := toLex (entry.1.createdAt, entry.2)

theorem mergeSort_fillOrder (xs : List (Fill × ℕ)) :
    xs.mergeSort fillOrder = ranking fillKey xs := by
  have same : fillOrder = fun a b => decide (fillKey a ≤ fillKey b) := by
    funext a b
    rw [fillOrder, fillKey, fillKey, decide_eq_decide]
    exact (Prod.Lex.toLex_le_toLex (x := (a.1.createdAt, a.2)) (y := (b.1.createdAt, b.2))).symm
  rw [same, ranking]

/-- The fills as they are reviewed. -/
def replayed (fills : Dict UUID (WrittenFill × ℕ)) : List Fill :=
  (ranking fillKey (readFills fills)).map Prod.fst

/-- A derivation, with what its steps have come to. -/
structure Derives (svc : JournalReviewer) (D : Decimal.Context) (now : Time) (J : Listing)
    (orders : Dict UUID (WrittenOrder × ℤ)) (fills : Dict UUID (WrittenFill × ℕ))
    (review : Review) : Prop where
  scanned : svc.scanOrders now J.orders = .ok orders
  collected : svc.scanFills now J.fills = .ok fills
  matched : Reconciles (seenOrders orders) ((readFills fills).map Prod.fst)
  review : (replayed fills).foldlM ((svc.worker orders fills).reviewFill D now (readOrders orders))
    {} = .ok review

variable {J J' : Listing} {orders others : Dict UUID (WrittenOrder × ℤ)}
  {fills more : Dict UUID (WrittenFill × ℕ)} {review review' : Review}

theorem keyed_of_scan (scanned : svc.scanOrders now J.orders = .ok orders) :
    Keyed (readOrders orders) := by
  intro id order found
  rw [readOrders, Dict.get?_mapValues] at found
  obtain ⟨entry, read, rfl⟩ := Option.map_eq_some_iff.mp found
  obtain ⟨row, -, -, own⟩ := order_of_read scanned read
  exact own

theorem derive_iff {outs : List ClosedTradeOutcome} :
    svc.derive D now J.orders J.fills = .ok outs ↔
      ∃ orders fills review, Derives svc D now J orders fills review ∧ review.completed = outs := by
  constructor
  · intro derived
    obtain ⟨orders, readOrders_, derived⟩ := bind_ok derived
    obtain ⟨fills, readFills_, derived⟩ := bind_ok derived
    obtain ⟨m, matched, derived⟩ := bind_ok derived
    obtain ⟨⟨⟩, reconciled, derived⟩ := bind_ok derived
    obtain ⟨review, reviewed_, derived⟩ := bind_ok derived
    cases derived
    rw [mergeSort_fillOrder] at reviewed_
    have keyed := keyed_of_scan readOrders_
    exact ⟨orders, fills, review, ⟨readOrders_, readFills_,
      (reconciles_iff (seenOrders orders) keyed).mp ⟨m, matched, reconciled⟩,
      reviewed_⟩, rfl⟩
  · rintro ⟨orders, fills, review, ⟨readOrders_, readFills_, reconciles, reviewed_⟩, rfl⟩
    have keyed := keyed_of_scan readOrders_
    obtain ⟨m, matched, reconciled⟩ :=
      (reconciles_iff (seenOrders orders) keyed).mpr reconciles
    rw [derive, readOrders_]
    change (svc.scanFills now J.fills >>= _) = _
    rw [readFills_]
    change (matchFills (readOrders orders) _ >>= _) = _
    rw [show matchFills (readOrders orders) _ = _ from matched]
    change (reconcile (seenOrders orders) m >>= _) = _
    rw [reconciled]
    change ((svc.worker orders fills).reviewFills D now (readOrders orders) _ >>= _) = _
    rw [replayed] at reviewed_
    rw [mergeSort_fillOrder, reviewFills, reviewed_]
    rfl

/-- The fills that are reviewed are those that were read. -/
theorem known_of_replayed (scanned : svc.scanFills now J.fills = .ok fills) :
    ∀ fill ∈ replayed fills, ∃ entry, fills.get? fill.fillId = some entry := by
  intro fill member
  obtain ⟨pair, ranked, rfl⟩ := List.mem_map.mp member
  obtain ⟨entry, value, rfl⟩ := List.mem_map.mp ((ranking_perm _ _).mem_iff.mp ranked)
  obtain ⟨id, found⟩ := Dict.mem_values.mp value
  obtain ⟨row, -, -, own⟩ := fill_of_read scanned found
  exact ⟨entry, own ▸ found⟩

theorem allWithin_start (fills : Dict UUID (WrittenFill × ℕ)) : AllWithin fills {} := by
  intro i cycle found
  cases found

/-- Every row of a fill has a number of its own. -/
def OwnNumbers (rows : List (EvidenceRow WrittenFill)) : Prop :=
  (rows.map EvidenceRow.appendSequence).Nodup

theorem distinguished_readFills (scanned : svc.scanFills now J.fills = .ok fills)
    (numbers : OwnNumbers J.fills) : Distinguished fillKey (readFills fills) := by
  have apart : fills.entries.Pairwise fun a b => a.2.2 ≠ b.2.2 := by
    have keys : fills.entries.Pairwise fun a b => a.1 ≠ b.1 := List.pairwise_map.mp fills.distinct
    refine keys.imp_of_mem fun {a b} inA inB differ same => differ ?_
    obtain ⟨row, member, is⟩ := number_of_read scanned (Dict.mem_entries.mp inA)
    obtain ⟨other, member', is'⟩ := number_of_read scanned (Dict.mem_entries.mp inB)
    obtain ⟨inside, -, own⟩ := mem_listed.mp member
    obtain ⟨inside', -, own'⟩ := mem_listed.mp member'
    have one : row = other :=
      List.inj_on_of_nodup_map numbers inside inside' (is.trans (same.trans is'.symm))
    rw [← own, ← own', one]
  rw [readFills, Dict.values, List.map_map]
  refine List.pairwise_map.mpr (apart.imp fun {a b} differ same => differ ?_)
  exact congrArg (fun key => (ofLex key).2) same

/-! ### A journal that grew -/

/-- The time of a fill, then the number of its row. -/
def rowKey (row : EvidenceRow WrittenFill) : Time ×ₗ ℕ :=
  toLex (row.payload.fill.createdAt, row.appendSequence)

/-- `J'` at `now'` lists the rows of `J`, with fills that come to be read after all that `J` reads
at `now`; fills are listed newest first. -/
structure Extends (now now' : Time) (J J' : Listing) : Prop where
  later : now ≤ now'
  orders : J.orders ⊆ J'.orders
  fills : J.fills.Sublist J'.fills
  newest : J'.fills.Pairwise fun a b => b.appendSequence < a.appendSequence
  after_ : ∀ row ∈ J'.fills, fillVisible now' row = true →
    (row ∈ J.fills ∧ fillVisible now row = true) ∨
      ∀ old ∈ J.fills, fillVisible now old = true → rowKey old < rowKey row

theorem orderVisible_later (later : now ≤ now') {row : EvidenceRow WrittenOrder}
    (shown : orderVisible now row = true) : orderVisible now' row = true := by
  simp only [orderVisible, Bool.and_eq_true, decide_eq_true_eq] at shown ⊢
  refine ⟨⟨shown.1.1.trans later, shown.1.2.trans later⟩, ?_⟩
  cases at_ : row.payload.order.submittedAt with
  | none => rfl
  | some time =>
    have submitted : time ≤ now := by simpa [at_] using shown.2
    simpa using submitted.trans later

theorem fillVisible_later (later : now ≤ now') {row : EvidenceRow WrittenFill}
    (shown : fillVisible now row = true) : fillVisible now' row = true := by
  simp only [fillVisible, Bool.and_eq_true, decide_eq_true_eq] at shown ⊢
  exact ⟨shown.1.trans later, shown.2.trans later⟩

theorem Extends.ownNumbers (extends_ : Extends now now' J J') : OwnNumbers J'.fills :=
  List.pairwise_map.mpr (extends_.newest.imp fun less => less.ne')

/-- The terms of an order stay. -/
theorem Extends.terms (extends_ : Extends now now' J J')
    (scanned : svc.scanOrders now J.orders = .ok orders)
    (scanned' : svc.scanOrders now' J'.orders = .ok others) {id : UUID} {entry : WrittenOrder × ℤ}
    (found : orders.get? id = some entry) :
    ∃ other, others.get? id = some other ∧ other.1.terms = entry.1.terms := by
  obtain ⟨row, member, is, -⟩ := order_of_read scanned found
  obtain ⟨inside, shown, own⟩ := mem_listed.mp member
  have there : row ∈ listed orderCollector (orderVisible now') id J'.orders :=
    mem_listed.mpr ⟨extends_.orders inside, orderVisible_later extends_.later shown, own⟩
  obtain ⟨other, found'⟩ := order_of_listed scanned' there
  obtain ⟨row', member', is', -⟩ := order_of_read scanned' found'
  have agree := (scanOrders_exists_iff.mp ⟨others, scanned'⟩).2 id
  refine ⟨other, found', ?_⟩
  rw [← is, ← is']
  exact agree.terms row' member' row there

/-- A fill that was read stays as it is: its oldest row is listed last. -/
theorem Extends.fill (extends_ : Extends now now' J J')
    (scanned : svc.scanFills now J.fills = .ok fills)
    (scanned' : svc.scanFills now' J'.fills = .ok more) {id : UUID} {entry : WrittenFill × ℕ}
    (found : fills.get? id = some entry) : more.get? id = some entry := by
  obtain ⟨row, member, lowest, rfl⟩ :=
    oldest_of_read (extends_.newest.sublist extends_.fills) scanned found
  obtain ⟨inside, shown, own⟩ := mem_listed.mp member
  have there : row ∈ listed fillCollector (fillVisible now') id J'.fills :=
    mem_listed.mpr ⟨extends_.fills.subset inside, fillVisible_later extends_.later shown, own⟩
  obtain ⟨other, found'⟩ := fill_of_listed scanned' there
  obtain ⟨row', member', lowest', rfl⟩ := oldest_of_read extends_.newest scanned' found'
  obtain ⟨inside', shown', own'⟩ := mem_listed.mp member'
  have below : row'.appendSequence ≤ row.appendSequence := lowest' row there
  rcases extends_.after_ row' inside' shown' with ⟨old, shownOld⟩ | after_
  · have above : row.appendSequence ≤ row'.appendSequence :=
      lowest row' (mem_listed.mpr ⟨old, shownOld, own'⟩)
    have same : row = row' := List.inj_on_of_nodup_map extends_.ownNumbers
      (extends_.fills.subset inside) inside' (le_antisymm above below)
    rw [found', same]
  · -- a fresh row of the fill would have its time and a larger number
    have agree := (scanFills_exists_iff.mp ⟨more, scanned'⟩).2 id
    have content : row.payload.fill = row'.payload.fill := agree row there row' member'
    have less := after_ row inside shown
    rw [rowKey, rowKey, content, Prod.Lex.toLex_lt_toLex] at less
    rcases less with earlier | ⟨-, more_⟩
    · exact absurd earlier (lt_irrefl _)
    · exact absurd below (not_le.mpr more_)

theorem Extends.knows (extends_ : Extends now now' J J')
    (derives : Derives svc D now J orders fills review)
    (derives' : Derives svc D now' J' others more review') : Knows orders others fills more where
  keyed := by
    intro id entry found
    obtain ⟨row, -, -, own⟩ := order_of_read derives.scanned found
    exact own
  terms _ _ := extends_.terms derives.scanned derives'.scanned
  fills id entry found :=
    ⟨entry, extends_.fill derives.collected derives'.collected found, rfl⟩

/-- The fills that were read before are replayed before the others. -/
theorem Extends.replayed (extends_ : Extends now now' J J')
    (scanned : svc.scanFills now J.fills = .ok fills)
    (scanned' : svc.scanFills now' J'.fills = .ok more) :
    ∃ rest, replayed more = replayed fills ++ rest := by
  let pair (entry : UUID × WrittenFill × ℕ) : Fill × ℕ := (entry.2.1.fill, entry.2.2)
  let fresh := more.entries.filter fun e => (fills.get? e.1).isNone
  have paired (read : Dict UUID (WrittenFill × ℕ)) : readFills read = read.entries.map pair := by
    rw [readFills, Dict.values, List.map_map]
    rfl
  have parts : (readFills more).Perm (readFills fills ++ fresh.map pair) := by
    rw [paired, paired, ← List.map_append]
    exact (Dict.entries_split fun id entry => extends_.fill scanned scanned').map pair
  have before : ∀ x ∈ readFills fills, ∀ y ∈ fresh.map pair, fillKey x < fillKey y := by
    rw [paired]
    intro x inX y inY
    obtain ⟨⟨id, entry⟩, member, rfl⟩ := List.mem_map.mp inX
    obtain ⟨⟨id', entry'⟩, member', rfl⟩ := List.mem_map.mp inY
    obtain ⟨found', absent⟩ := List.mem_filter.mp member'
    obtain ⟨row, listed_, -, rfl⟩ := oldest_of_read (extends_.newest.sublist extends_.fills)
      scanned (Dict.mem_entries.mp member)
    obtain ⟨row', listed', -, rfl⟩ :=
      oldest_of_read extends_.newest scanned' (Dict.mem_entries.mp found')
    obtain ⟨inside, shown, -⟩ := mem_listed.mp listed_
    obtain ⟨inside', shown', own'⟩ := mem_listed.mp listed'
    rcases extends_.after_ row' inside' shown' with ⟨old, shownOld⟩ | after_
    · obtain ⟨entry, there⟩ := fill_of_listed scanned (mem_listed.mpr ⟨old, shownOld, own'⟩)
      simp [there] at absent
    · exact after_ row inside shown
  refine ⟨(ranking fillKey (fresh.map pair)).map Prod.fst, ?_⟩
  rw [JournalReviewer.replayed, JournalReviewer.replayed,
    ranking_eq_append (distinguished_readFills scanned' extends_.ownNumbers) parts before,
    List.map_append]

/-- What was derived before is derived again. -/
theorem Extends.prefix_ (extends_ : Extends now now' J J')
    (derives : Derives svc D now J orders fills review)
    (derives' : Derives svc D now' J' others more review') :
    review.completed.map (reviewed now') <+: review'.completed := by
  obtain ⟨rest, split⟩ := extends_.replayed derives.collected derives'.collected
  have went := derives'.review
  rw [split, List.foldlM_append] at went
  obtain ⟨middle, first, second⟩ := bind_ok went
  have same := (extends_.knows derives derives').reviewFills svc now' (allWithin_start fills) (known_of_replayed derives.collected) derives.review
  have start : again now' {} = ({} : Review) := rfl
  rw [start, first] at same
  cases same
  exact completed_grows second

/-! ### Another listing -/

/-- The times of the order of a row. -/
def orderTimes (row : EvidenceRow WrittenOrder) : Time × Option Time :=
  (row.payload.order.createdAt, row.payload.order.submittedAt)

/-- The rows in another order, where the row of an order that is read last has the same times
and the row of a fill that is read last is written the same. -/
structure Relisted (now : Time) (J J' : Listing) : Prop where
  orders : J.orders.Perm J'.orders
  fills : J.fills.Perm J'.fills
  numbers : OwnNumbers J.fills
  lastOrder : ∀ id,
    (listed orderCollector (orderVisible now) id J.orders).getLast?.map orderTimes =
      (listed orderCollector (orderVisible now) id J'.orders).getLast?.map orderTimes
  lastFill : ∀ id,
    (listed fillCollector (fillVisible now) id J.fills).getLast?.map EvidenceRow.payload =
      (listed fillCollector (fillVisible now) id J'.fills).getLast?.map EvidenceRow.payload

theorem Relisted.symm (relisted : Relisted now J J') : Relisted now J' J where
  orders := relisted.orders.symm
  fills := relisted.fills.symm
  numbers := (relisted.fills.map _).nodup_iff.mp relisted.numbers
  lastOrder id := (relisted.lastOrder id).symm
  lastFill id := (relisted.lastFill id).symm

theorem mem_listed_perm {α ν : Type} {c : Collector (EvidenceRow α) UUID ν Exc}
    {visible : EvidenceRow α → Bool} {rows rows' : List (EvidenceRow α)} (perm : rows.Perm rows')
    {id : UUID} {row : EvidenceRow α} :
    row ∈ listed c visible id rows ↔ row ∈ listed c visible id rows' := by
  rw [mem_listed, mem_listed, perm.mem_iff]

/-- What a review takes from the rows of an order. -/
def orderView (entry : WrittenOrder × ℤ) : WrittenTerms × (Time × Option Time) × ℤ :=
  (entry.1.terms, (entry.1.order.createdAt, entry.1.order.submittedAt), entry.2)

theorem Relisted.scanOrders (relisted : Relisted now J J')
    (scanned : svc.scanOrders now J.orders = .ok orders) :
    ∃ others, svc.scanOrders now J'.orders = .ok others := by
  obtain ⟨own, agree⟩ := scanOrders_exists_iff.mp ⟨orders, scanned⟩
  refine scanOrders_exists_iff.mpr ⟨fun row member => own row ?_, fun id => ⟨?_, ?_⟩⟩
  · exact relisted.orders.mem_iff.mpr member
  · intro row member
    exact (agree id).possible row ((mem_listed_perm relisted.orders).mpr member)
  · intro a inA b inB
    exact (agree id).terms a ((mem_listed_perm relisted.orders).mpr inA) b
      ((mem_listed_perm relisted.orders).mpr inB)

theorem Relisted.scanFills (relisted : Relisted now J J')
    (scanned : svc.scanFills now J.fills = .ok fills) :
    ∃ more, svc.scanFills now J'.fills = .ok more := by
  obtain ⟨own, agree⟩ := scanFills_exists_iff.mp ⟨fills, scanned⟩
  refine scanFills_exists_iff.mpr ⟨fun row member => own row ?_, fun id => ?_⟩
  · exact relisted.fills.mem_iff.mpr member
  · intro a inA b inB
    exact agree id a ((mem_listed_perm relisted.fills).mpr inA) b
      ((mem_listed_perm relisted.fills).mpr inB)

theorem Relisted.order (relisted : Relisted now J J')
    (scanned : svc.scanOrders now J.orders = .ok orders)
    (scanned' : svc.scanOrders now J'.orders = .ok others) (id : UUID) (entry : WrittenOrder × ℤ)
    (found : orders.get? id = some entry) :
    (others.get? id).map orderView = some (orderView entry) := by
  have read := scanOrders_read scanned id
  rw [found] at read
  obtain ⟨⟨row, ends, is⟩, greatest⟩ := read
  have there := (mem_listed_perm relisted.orders).mp (List.mem_of_getLast? ends)
  obtain ⟨other, found'⟩ := order_of_listed scanned' there
  have read' := scanOrders_read scanned' id
  rw [found'] at read'
  obtain ⟨⟨row', ends', is'⟩, greatest'⟩ := read'
  have agree := (scanOrders_exists_iff.mp ⟨others, scanned'⟩).2 id
  have terms : row'.payload.terms = row.payload.terms :=
    agree.terms row' (List.mem_of_getLast? ends') row there
  have times : orderTimes row = orderTimes row' := by
    have last := relisted.lastOrder id
    rw [ends, ends', Option.map_some, Option.map_some] at last
    exact Option.some.inj last
  have filled : other.2 = entry.2 := by
    simp only [← mem_listed_perm relisted.orders] at greatest'
    exact greatest'.unique greatest
  rw [found', Option.map_some, orderView, orderView, ← is, ← is', terms, filled]
  exact congrArg (fun times => some (row.payload.terms, times, entry.2)) times.symm

theorem Relisted.fill (relisted : Relisted now J J')
    (scanned : svc.scanFills now J.fills = .ok fills)
    (scanned' : svc.scanFills now J'.fills = .ok more) (id : UUID) (entry : WrittenFill × ℕ)
    (found : fills.get? id = some entry) :
    (more.get? id).map (fun entry => entry) = some entry := by
  have read := scanFills_read scanned id
  rw [found] at read
  obtain ⟨⟨row, ends, is⟩, least⟩ := read
  have there := (mem_listed_perm relisted.fills).mp (List.mem_of_getLast? ends)
  obtain ⟨other, found'⟩ := fill_of_listed scanned' there
  have read' := scanFills_read scanned' id
  rw [found'] at read'
  obtain ⟨⟨row', ends', is'⟩, least'⟩ := read'
  have written : row.payload = row'.payload := by
    have last := relisted.lastFill id
    rw [ends, ends', Option.map_some, Option.map_some] at last
    exact Option.some.inj last
  have number : other.2 = entry.2 := by
    simp only [← mem_listed_perm relisted.fills] at least'
    exact least'.unique least
  rw [found', Option.map_some]
  exact congrArg some (Prod.ext (is'.symm.trans (written.symm.trans is)) number)

theorem Derives.knows (derives : Derives svc D now J orders fills review) :
    Knows orders orders fills fills where
  keyed := by
    intro id entry found
    obtain ⟨row, -, -, own⟩ := order_of_read derives.scanned found
    exact own
  terms _ entry found := ⟨entry, found, rfl⟩
  fills _ entry found := ⟨entry, found, rfl⟩

/-- What is derived carries the time of the review. -/
theorem Derives.again_eq (derives : Derives svc D now J orders fills review) :
    again now review = review := by
  have same := derives.knows.reviewFills svc now (allWithin_start fills)
    (known_of_replayed derives.collected) derives.review
  have start : again now {} = ({} : Review) := rfl
  rw [start, derives.review] at same
  exact (Except.ok.inj same).symm

/-- Another listing derives the same. -/
theorem Relisted.derives (relisted : Relisted now J J')
    (derives : Derives svc D now J orders fills review) :
    ∃ others more, Derives svc D now J' others more review := by
  obtain ⟨others, scanned'⟩ := relisted.scanOrders derives.scanned
  obtain ⟨more, collected'⟩ := relisted.scanFills derives.collected
  have views : ∀ id, (orders.get? id).map orderView = (others.get? id).map orderView :=
    Dict.map_get?_congr (relisted.order derives.scanned scanned')
      (relisted.symm.order scanned' derives.scanned)
  have same : ∀ id, fills.get? id = more.get? id := by
    intro id
    have here := Dict.map_get?_congr (relisted.fill derives.collected collected')
      (relisted.symm.fill collected' derives.collected) id
    rwa [Option.map_id', Option.map_id'] at here
  have read : (readFills fills).Perm (readFills more) :=
    ((Dict.entries_perm same).map Prod.snd).map _
  have replay : replayed more = replayed fills := by
    rw [replayed, replayed,
      ranking_eq_of_perm (distinguished_readFills derives.collected relisted.numbers) read]
  have knows : Knows orders others fills more :=
    { derives.knows with
      terms := by
        intro id entry found
        have here := views id
        rw [found, Option.map_some] at here
        obtain ⟨other, there, is⟩ := Option.map_eq_some_iff.mp here.symm
        exact ⟨other, there, congrArg Prod.fst is⟩
      fills := fun id entry found => ⟨entry, same id ▸ found, rfl⟩ }
  have reviewed_ := knows.reviewFills svc now (allWithin_start fills)
    (known_of_replayed derives.collected) derives.review
  have start : again now {} = ({} : Review) := rfl
  rw [start, derives.again_eq, ← replay] at reviewed_
  refine ⟨others, more, scanned', collected', derives.matched.relisted ?_ ?_ (read.map Prod.fst),
    reviewed_⟩
  · intro id
    have here := congrArg (Option.map fun view : WrittenTerms × (Time × Option Time) × ℤ =>
      (view.1.terms, view.2.1)) (views id)
    rw [Option.map_map, Option.map_map] at here
    simp only [seenOrders, readOrders, Dict.get?_mapValues, Option.map_map]
    exact here
  · intro id
    have here := congrArg
      (Option.map fun view : WrittenTerms × (Time × Option Time) × ℤ => view.2.2) (views id)
    rw [Option.map_map, Option.map_map] at here
    simp only [SeenOrders.filled, seenOrders, Dict.get?_mapValues]
    exact congrArg (Option.getD · 0) here

/-! ### The tick after a tick -/

variable {t t' : ReviewTables} {rows rows' : List (EvidenceRow ClosedTradeOutcome)}
  {stored : Dict String ClosedTradeOutcome} {outcomes appended done : List ClosedTradeOutcome}
  {id : String}

/-- An outcome with the identifier is stored. -/
def Stored (id : String) (rows : List (EvidenceRow ClosedTradeOutcome)) : Prop :=
  ∃ row ∈ rows, row.payload.outcomeId = id

/-- No row comes to be read between two times. -/
structure Quiet (now now' : Time) (J : Listing) : Prop where
  orders : ∀ row ∈ J.orders, orderVisible now row = orderVisible now' row
  fills : ∀ row ∈ J.fills, fillVisible now row = fillVisible now' row

theorem Derives.later (derives : Derives svc D now J orders fills review)
    (quiet : Quiet now now' J) : Derives svc D now' J orders fills (again now' review) where
  scanned := by
    have scanned := derives.scanned
    rw [scanOrders, scanRows_iff] at scanned ⊢
    rwa [← List.filter_congr quiet.orders]
  collected := by
    have collected := derives.collected
    rw [scanFills, scanRows_iff] at collected ⊢
    rwa [← List.filter_congr quiet.fills]
  matched := derives.matched
  review := derives.knows.reviewFills svc now' (allWithin_start fills)
    (known_of_replayed derives.collected) derives.review

/-- A scan that comes to its end lists all rows, the newest first. -/
theorem scan_ok {α : Type} {table : String} {named : α → NamedBinding}
    {rows listed : List (EvidenceRow α)} (scanned : svc.scan table named rows = .ok listed) :
    listed = rows.reverse := by
  rw [scan] at scanned
  split at scanned
  next => cases scanned
  next bounded =>
    obtain ⟨sequences, -, scanned⟩ := bind_ok scanned
    cases scanned
    rw [not_lt, List.length_take, List.length_reverse] at bounded
    exact List.take_of_length_le (by rw [List.length_reverse]; omega)

theorem payload_ok {α : Type} {named : α → NamedBinding} {row : EvidenceRow α} {content : α}
    (read : svc.payload named row = .ok content) : content = row.payload := by
  obtain ⟨content', read, rest⟩ := bind_ok read
  rw [ReviewWorker.payload] at read
  split at read
  · cases read
  · split at read
    · cases read
    · cases read
      split at rest
      · cases rest
      · cases rest
        rfl

theorem existing_ok (ok : svc.existing rows = .ok stored) (id : String) :
    (stored.get? id).isSome ↔ Stored id rows := by
  refine foldlM_kept (P := fun done stored => ∀ id, (stored.get? id).isSome ↔ Stored id done) ok
    (by simp [Stored]) ?_ id
  intro done row rest stored stored' _ holds step id
  obtain ⟨outcome, read, step⟩ := bind_ok step
  have own : outcome = row.payload := payload_ok read
  have written : stored' = stored.set outcome.outcomeId outcome := by
    cases found : stored.get? outcome.outcomeId with
    | none =>
      rw [found] at step
      cases step
      rfl
    | some previous =>
      rw [found] at step
      obtain ⟨⟨⟩, -, step⟩ := bind_ok step
      cases step
      rfl
  rw [written, Dict.get?_set]
  subst own
  by_cases here : row.payload.outcomeId = id
  · simp [here, Stored]
  · rw [if_neg here, holds id]
    simp [Stored, here]

theorem gather_ok (gathered : svc.gather D now t = .ok (outcomes, stored)) :
    svc.derive D now t.orders.reverse t.fills.reverse = .ok outcomes ∧
      svc.existing t.outcomes.reverse = .ok stored := by
  obtain ⟨orderRows, scannedOrders, gathered⟩ := bind_ok gathered
  obtain ⟨fillRows, scannedFills, gathered⟩ := bind_ok gathered
  obtain ⟨outcomeRows, scannedOutcomes, gathered⟩ := bind_ok gathered
  obtain rfl := scan_ok scannedOrders
  obtain rfl := scan_ok scannedFills
  obtain rfl := scan_ok scannedOutcomes
  cases validated : svc.validate D now t.orders.reverse t.fills.reverse t.outcomes.reverse with
  | error e =>
    rw [validated] at gathered
    cases gathered
  | ok both =>
    rw [validated] at gathered
    cases gathered
    obtain ⟨outs, derived, validated⟩ := bind_ok validated
    obtain ⟨kept, read, validated⟩ := bind_ok validated
    obtain ⟨-, -, validated⟩ := bind_ok validated
    split at validated
    · cases validated
    · cases validated
      exact ⟨derived, read⟩

theorem appendOutcome_ok {outcome : ClosedTradeOutcome}
    {new : Option (EvidenceRow ClosedTradeOutcome)}
    (went : svc.appendOutcome outcome rows = .ok new) :
    Stored outcome.outcomeId (rows ++ new.toList) := by
  rw [appendOutcome] at went
  cases found : findOutcome outcome.outcomeId rows with
  | none =>
    rw [found] at went
    cases went
    exact ⟨_, List.mem_append_right _ (List.mem_singleton_self _), rfl⟩
  | some row =>
    refine ⟨row, List.mem_append_left _ ?_, ?_⟩
    · exact List.mem_reverse.mp (List.mem_of_find?_eq_some found)
    · simpa using List.find?_some found

/-- After the appends of a tick every outcome is stored, and nothing was removed. -/
theorem appendAll_ok (went : svc.appendAll stored outcomes appended rows = (.ok done, rows'))
    (held : ∀ id, (stored.get? id).isSome → Stored id rows) :
    rows ⊆ rows' ∧ ∀ outcome ∈ outcomes, Stored outcome.outcomeId rows' := by
  induction outcomes generalizing appended rows with
  | nil =>
    cases went
    exact ⟨List.Subset.refl _, by simp⟩
  | cons outcome rest ih =>
    rw [appendAll] at went
    split at went
    next known =>
      obtain ⟨kept, every⟩ := ih went held
      refine ⟨kept, List.forall_mem_cons.mpr ⟨?_, every⟩⟩
      obtain ⟨row, member, is⟩ := held _ known
      exact ⟨row, kept member, is⟩
    next =>
      cases tried : svc.appendOutcome outcome rows with
      | error e =>
        rw [tried] at went
        cases went
      | ok new =>
        -- with or without a new row, the rest goes on from `rows ++ new.toList`
        have now_ := appendOutcome_ok tried
        obtain ⟨appended', went⟩ : ∃ appended', svc.appendAll stored rest appended'
            (rows ++ new.toList) = (.ok done, rows') := by
          rw [tried] at went
          cases new with
          | none => exact ⟨appended, by simpa using went⟩
          | some row => exact ⟨appended ++ [outcome], went⟩
        obtain ⟨kept, every⟩ := ih went fun id known => by
          obtain ⟨row, member, is⟩ := held id known
          exact ⟨row, List.mem_append_left _ member, is⟩
        refine ⟨fun row member => kept (List.mem_append_left _ member),
          List.forall_mem_cons.mpr ⟨?_, every⟩⟩
        obtain ⟨row, member, is⟩ := now_
        exact ⟨row, kept member, is⟩

theorem appendAll_stored (held : ∀ outcome ∈ outcomes, (stored.get? outcome.outcomeId).isSome) :
    svc.appendAll stored outcomes appended rows = (.ok appended, rows) := by
  induction outcomes with
  | nil => rfl
  | cons outcome rest ih =>
    obtain ⟨here, later⟩ := List.forall_mem_cons.mp held
    rw [appendAll, if_pos here]
    exact ih later

/-- Where no row comes to be read in between, a tick after a tick appends nothing. -/
theorem tick_again (ticked : svc.tick D now t = (.ok appended, t'))
    (quiet : Quiet now now' ⟨t.orders.reverse, t.fills.reverse⟩) : (svc.tick D now' t').2 = t' := by
  rw [tick] at ticked
  cases gathered : svc.gather D now t with
  | error e =>
    rw [gathered] at ticked
    cases ticked
  | ok both =>
    obtain ⟨outcomes, stored⟩ := both
    rw [gathered] at ticked
    obtain ⟨done, rows', went⟩ : ∃ result rows', svc.appendAll stored outcomes [] t.outcomes =
      (result, rows') := ⟨_, _, rfl⟩
    simp only [went, Prod.mk.injEq] at ticked
    obtain ⟨rfl, rfl⟩ := ticked
    obtain ⟨derived, read⟩ := gather_ok gathered
    obtain ⟨kept, every⟩ := appendAll_ok went fun id known => by
      obtain ⟨row, member, is⟩ := (existing_ok read id).mp known
      exact ⟨row, List.mem_reverse.mp member, is⟩
    rw [tick]
    cases gathered' : svc.gather D now' { t with outcomes := rows' } with
    | error e => rfl
    | ok both =>
      obtain ⟨outcomes', stored'⟩ := both
      obtain ⟨derived', read'⟩ := gather_ok gathered'
      obtain ⟨orders, fills, review, derives, rfl⟩ :=
        derive_iff (J := ⟨t.orders.reverse, t.fills.reverse⟩).mp derived
      have again_ : svc.derive D now' t.orders.reverse t.fills.reverse =
          .ok (again now' review).completed :=
        derive_iff (J := ⟨t.orders.reverse, t.fills.reverse⟩).mpr
          ⟨orders, fills, _, derives.later quiet, rfl⟩
      rw [show svc.derive D now' t.orders.reverse t.fills.reverse = _ from derived'] at again_
      obtain rfl := Except.ok.inj again_
      have held : ∀ outcome ∈ (again now' review).completed,
          (stored'.get? outcome.outcomeId).isSome := by
        intro outcome member
        obtain ⟨before, derived_, rfl⟩ := List.mem_map.mp member
        obtain ⟨row, inside, is⟩ := every before derived_
        exact (existing_ok read' _).mpr ⟨row, List.mem_reverse.mpr inside, is⟩
      simp only [appendAll_stored held]

/-- What was derived from a journal is derived again, up to the time of the review, from one that
grew by fills after all fills of it; a listing in another order derives the same, where the rows
that are read last agree; and a tick leaves nothing to append for the next one. -/
theorem derivation_append_only (svc : JournalReviewer) (D : Decimal.Context) :
    (∀ now now' J J' outs outs', Extends now now' J J' →
      svc.derive D now J.orders J.fills = .ok outs →
      svc.derive D now' J'.orders J'.fills = .ok outs' → outs.map (reviewed now') <+: outs') ∧
    (∀ now J J' outs, Relisted now J J' →
      (svc.derive D now J.orders J.fills = .ok outs ↔
        svc.derive D now J'.orders J'.fills = .ok outs)) ∧
    ∀ now now' t t' appended, Quiet now now' ⟨t.orders.reverse, t.fills.reverse⟩ →
      svc.tick D now t = (.ok appended, t') → (svc.tick D now' t').2 = t' := by
  refine ⟨?_, ?_, fun now now' t t' appended quiet ticked => tick_again ticked quiet⟩
  · intro now now' J J' outs outs' extends_ derived derived'
    obtain ⟨orders, fills, review, derives, rfl⟩ := derive_iff.mp derived
    obtain ⟨others, more, review', derives', rfl⟩ := derive_iff.mp derived'
    exact extends_.prefix_ derives derives'
  · intro now J J' outs relisted
    have one {J J' : Listing} (relisted : Relisted now J J')
        (derived : svc.derive D now J.orders J.fills = .ok outs) :
        svc.derive D now J'.orders J'.fills = .ok outs := by
      obtain ⟨orders, fills, review, derives, rfl⟩ := derive_iff.mp derived
      obtain ⟨others, more, derives'⟩ := relisted.derives derives
      exact derive_iff.mpr ⟨others, more, review, derives', rfl⟩
    exact ⟨one relisted, one relisted.symm⟩

namespace ListingSample

open ShadowLedger

theorem strike_is : (⟨500, 0⟩ : Decimal).val = 500 := by norm_num [Decimal.val]

theorem limit_is : (⟨2, 0⟩ : Decimal).val = 2 := by norm_num [Decimal.val]

theorem price_is : (⟨15, -1⟩ : Decimal).val = 3 / 2 := by norm_num [Decimal.val]

def reviewer : JournalReviewer where
  environment := .demo
  namespace_ := "demo"
  hashing := sampleHashing
  evidenceHash := fun _ _ => ""
  maximumRecords := 100
  namespace_ne := demo_named

/-- An order for one contract, as it is known at a time. -/
def order (id : Nat) (side : OrderSide) (at_ : Time) (filled : ℤ) : WrittenOrder where
  order :=
    { createdAt := at_
      orderId := ⟨id⟩
      intentId := ⟨id + 10⟩
      environment := .demo
      state := .filled
      contract := sampleContract
      side := side
      quantity := 1
      filledQuantity := filled
      limitPrice := 2
      quantity_pos := count_pos (nat_lit 1)
      limitPrice_pos := amount_pos (nat_lit 2) }
  strike := ⟨500, 0⟩
  limitPrice := ⟨2, 0⟩
  strike_val := strike_is
  limitPrice_val := limit_is

def orderRow (number id : Nat) (side : OrderSide) (at_ : Time) (filled : ℤ) :
    EvidenceRow WrittenOrder where
  environment := .demo
  namespace_ := "demo"
  createdAt := at_
  appendSequence := number
  payload := order id side at_ filled

/-- A fill of the order with the same number. -/
def fill (id : Nat) (at_ : Time) : WrittenFill where
  fill :=
    { createdAt := at_
      fillId := ⟨id + 20⟩
      orderId := ⟨id⟩
      quantity := 1
      price := 3 / 2
      marketEventIds := []
      fillModelVersion := "demo-v1"
      deterministicSeed := 0
      reason := "" }
  price := ⟨15, -1⟩
  price_val := price_is

def fillRow (number id : Nat) (at_ : Time) : EvidenceRow WrittenFill where
  environment := .demo
  namespace_ := "demo"
  createdAt := at_
  appendSequence := number
  payload := fill id at_

/-- What is derived where the fills, in the order of their keys, are known. -/
theorem derive_of_ranked (svc : JournalReviewer) (J : Listing) (orders : Dict UUID (WrittenOrder × ℤ))
    (fills : Dict UUID (WrittenFill × ℕ)) {xs : List (Fill × ℕ)}
    (scanned : svc.scanOrders now J.orders = .ok orders)
    (collected : svc.scanFills now J.fills = .ok fills)
    (perm : (readFills fills).Perm xs) (sorted : xs.Pairwise fun a b => fillKey a < fillKey b)
    (matched : ∃ m, matchFills (readOrders orders) ((readFills fills).map Prod.fst) = .ok m ∧
      reconcile (seenOrders orders) m = .ok ())
    (went : (xs.map Prod.fst).foldlM
      ((svc.worker orders fills).reviewFill .exact now (readOrders orders)) {} = .ok review) :
    svc.derive .exact now J.orders J.fills = .ok review.completed := by
  refine derive_iff.mpr ⟨orders, fills, review, ⟨scanned, collected, ?_, ?_⟩, rfl⟩
  · exact (reconciles_iff (seenOrders orders) (keyed_of_scan scanned)).mp matched
  · have distinct : Distinguished fillKey xs := sorted.imp fun less => less.ne
    rw [replayed, ← ranking_eq_of_perm distinct perm.symm,
      ranking_of_pairwise (sorted.imp fun less => less.le)]
    exact went

/-- An order that was recorded again after its fill. -/
def repeated : Listing where
  orders := [orderRow 3 1 .buyToOpen 30 1, orderRow 1 1 .buyToOpen 10 0]
  fills := [fillRow 2 1 20]

theorem repeated_derived :
    reviewer.derive .exact 40 repeated.orders repeated.fills = .ok [] :=
  derive_of_ranked reviewer repeated (Dict.empty.set ⟨1⟩ (order 1 .buyToOpen 10 0, 1))
    (Dict.empty.set ⟨21⟩ (fill 1 20, 2)) rfl rfl (List.Perm.refl _)
    (List.pairwise_singleton _ _) ⟨_, rfl, rfl⟩ rfl

/-- One contract is bought and sold. -/
def roundTrip : Listing where
  orders := [orderRow 2 2 .sellToClose 25 1, orderRow 1 1 .buyToOpen 10 1]
  fills := [fillRow 2 2 30, fillRow 1 1 20]

/-- Another one is bought later. -/
def grown : Listing where
  orders := orderRow 3 3 .buyToOpen 45 1 :: roundTrip.orders
  fills := fillRow 3 3 50 :: roundTrip.fills

theorem ok_of_checked {α : Type} {r : Except Exc α} {p : α → Bool}
    (checked : (match r with | .ok a => p a | .error _ => false) = true) :
    ∃ a, r = .ok a ∧ p a = true := by
  cases r with
  | error e => cases checked
  | ok a => exact ⟨a, rfl, checked⟩

def roundTripOrders : Dict UUID (WrittenOrder × ℤ) :=
  (Dict.empty.set ⟨2⟩ (order 2 .sellToClose 25 1, 1)).set ⟨1⟩ (order 1 .buyToOpen 10 1, 1)

def roundTripFills : Dict UUID (WrittenFill × ℕ) :=
  (Dict.empty.set ⟨22⟩ (fill 2 30, 2)).set ⟨21⟩ (fill 1 20, 1)

theorem roundTrip_sorted : [((fill 1 20).fill, 1), ((fill 2 30).fill, 2)].Pairwise
    fun a b => fillKey a < fillKey b := by
  simp [fillKey, fill, Prod.Lex.toLex_lt_toLex]

theorem roundTrip_derived : ∃ closed,
    reviewer.derive .exact 40 roundTrip.orders roundTrip.fills = .ok [closed] := by
  obtain ⟨review, went, one⟩ := ok_of_checked (p := fun review : Review =>
      review.completed.length == 1)
    (r := [(fill 1 20).fill, (fill 2 30).fill].foldlM
      ((reviewer.worker roundTripOrders roundTripFills).reviewFill .exact 40
        (readOrders roundTripOrders)) {}) (by decide +kernel)
  obtain ⟨closed, is⟩ := List.length_eq_one_iff.mp (beq_iff_eq.mp one)
  exact ⟨closed, is ▸ derive_of_ranked reviewer roundTrip roundTripOrders roundTripFills rfl rfl
    (List.Perm.swap _ _ _) roundTrip_sorted ⟨_, rfl, rfl⟩ went⟩

/-- A reviewer whose hash shows the digits of the prices. -/
def digits : JournalReviewer :=
  { reviewer with
    evidenceHash := fun fills _ => toString (fills.map fun fill => fill.price.coefficient) }

theorem cents_are : (⟨150, -2⟩ : Decimal).val = 3 / 2 := by norm_num [Decimal.val]

/-- The purchase with one digit more. -/
def rewritten : WrittenFill := { fill 1 20 with price := ⟨150, -2⟩, price_val := cents_are }

/-- The round trip, in which the purchase is recorded again with other digits. -/
def reprinted : Listing where
  orders := roundTrip.orders
  fills := { fillRow 3 1 20 with payload := rewritten } :: roundTrip.fills

/-- The fills that are read where the purchase was read last in some writing. -/
def bought (last : WrittenFill) : Dict UUID (WrittenFill × ℕ) :=
  (Dict.empty.set ⟨21⟩ (last, 1)).set ⟨22⟩ (fill 2 30, 2)

/-- What is derived where the purchase was read last in some writing. -/
theorem bought_derived (J : Listing) (last : WrittenFill) {hash : String}
    (scanned : digits.scanOrders 40 J.orders = .ok roundTripOrders)
    (collected : digits.scanFills 40 J.fills = .ok (bought last)) (same : last.fill = (fill 1 20).fill)
    (shown : (match [(fill 1 20).fill, (fill 2 30).fill].foldlM
        ((digits.worker roundTripOrders (bought last)).reviewFill .exact 40
          (readOrders roundTripOrders)) {} with
      | .ok review => review.completed.map ClosedTradeOutcome.sourceEvidenceHash == [hash]
      | .error _ => false) = true) :
    ∃ closed, digits.derive .exact 40 J.orders J.fills = .ok [closed] ∧
      closed.sourceEvidenceHash = hash := by
  have read : readFills (bought last) = [((fill 1 20).fill, 1), ((fill 2 30).fill, 2)] := by
    rw [← same]
    rfl
  cases went : [(fill 1 20).fill, (fill 2 30).fill].foldlM
      ((digits.worker roundTripOrders (bought last)).reviewFill .exact 40
        (readOrders roundTripOrders)) {} with
  | error e =>
    rw [went] at shown
    cases shown
  | ok review =>
    rw [went] at shown
    obtain ⟨closed, is, hashed⟩ := List.map_eq_singleton_iff.mp (beq_iff_eq.mp shown)
    exact ⟨closed, is ▸ derive_of_ranked digits J roundTripOrders (bought last) scanned collected
      (read ▸ List.Perm.refl _) roundTrip_sorted (read ▸ ⟨_, rfl, rfl⟩) went, hashed⟩

theorem reprinted_derived :
    (∃ closed, digits.derive .exact 40 reprinted.orders reprinted.fills = .ok [closed] ∧
      closed.sourceEvidenceHash = "[15, 15]") ∧
    ∃ closed, digits.derive .exact 40 reprinted.orders reprinted.fills.reverse = .ok [closed] ∧
      closed.sourceEvidenceHash = "[150, 15]" :=
  ⟨bought_derived reprinted (fill 1 20) rfl (by with_unfolding_all rfl) rfl (by decide +kernel),
    bought_derived ⟨reprinted.orders, reprinted.fills.reverse⟩ rewritten rfl
      (by with_unfolding_all rfl) rfl (by decide +kernel)⟩

def grownOrders : Dict UUID (WrittenOrder × ℤ) :=
  ((Dict.empty.set ⟨3⟩ (order 3 .buyToOpen 45 1, 1)).set ⟨2⟩ (order 2 .sellToClose 25 1, 1)).set
    ⟨1⟩ (order 1 .buyToOpen 10 1, 1)

def grownFills : Dict UUID (WrittenFill × ℕ) :=
  ((Dict.empty.set ⟨23⟩ (fill 3 50, 3)).set ⟨22⟩ (fill 2 30, 2)).set ⟨21⟩ (fill 1 20, 1)

theorem grown_derived : ∃ outs, reviewer.derive .exact 60 grown.orders grown.fills = .ok outs := by
  obtain ⟨review, went, -⟩ := ok_of_checked (p := fun review : Review =>
      review.completed.length == 1)
    (r := [(fill 1 20).fill, (fill 2 30).fill, (fill 3 50).fill].foldlM
      ((reviewer.worker grownOrders grownFills).reviewFill .exact 60 (readOrders grownOrders)) {})
    (by decide +kernel)
  have sorted : [((fill 1 20).fill, 1), ((fill 2 30).fill, 2), ((fill 3 50).fill, 3)].Pairwise
      fun a b => fillKey a < fillKey b := by
    simp [fillKey, fill, Prod.Lex.toLex_lt_toLex]
  exact ⟨_, derive_of_ranked reviewer grown grownOrders grownFills rfl rfl (List.reverse_perm _).symm
    sorted ⟨_, rfl, rfl⟩ went⟩

theorem roundTrip_grown : Extends 40 60 roundTrip grown where
  later := by decide
  orders := List.subset_cons_self _ _
  fills := List.sublist_cons_self _ _
  newest := by simp [grown, roundTrip, fillRow]
  after_ := by
    intro row member shown
    rcases List.mem_cons.mp member with rfl | old
    · refine Or.inr fun old member _ => ?_
      simp only [roundTrip, List.mem_cons, List.not_mem_nil, or_false] at member
      rcases member with rfl | rfl <;> simp [rowKey, fillRow, fill, Prod.Lex.toLex_lt_toLex]
    · refine Or.inl ⟨old, ?_⟩
      simp only [roundTrip, List.mem_cons, List.not_mem_nil, or_false] at old
      rcases old with rfl | rfl <;> decide

/-- Every order and every fill of the round trip has one row. -/
theorem roundTrip_relisted :
    Relisted 40 roundTrip ⟨roundTrip.orders.reverse, roundTrip.fills.reverse⟩ where
  orders := (List.reverse_perm _).symm
  fills := (List.reverse_perm _).symm
  numbers := by simp [OwnNumbers, roundTrip, fillRow]
  lastOrder id := by
    by_cases first : (⟨1⟩ : UUID) = id
    · subst first
      rfl
    · by_cases second : (⟨2⟩ : UUID) = id
      · subst second
        rfl
      · simp [listed, Collector.under, orderCollector, roundTrip, orderRow, order, first, second]
  lastFill id := by
    by_cases first : (⟨21⟩ : UUID) = id
    · subst first
      rfl
    · by_cases second : (⟨22⟩ : UUID) = id
      · subst second
        rfl
      · simp [listed, Collector.under, fillCollector, roundTrip, fillRow, fill, first, second]

def tables : ReviewTables where
  orders := roundTrip.orders.reverse
  fills := roundTrip.fills.reverse
  outcomes := []

theorem tables_ticked {closed : ClosedTradeOutcome}
    (derived : reviewer.derive .exact 40 roundTrip.orders roundTrip.fills = .ok [closed]) :
    reviewer.tick .exact 40 tables =
      (.ok [closed], { tables with outcomes := [reviewer.outcomeRow 1 closed] }) := by
  have gathered : reviewer.gather .exact 40 tables = .ok ([closed], .empty) := by
    change (reviewer.validate .exact 40 roundTrip.orders roundTrip.fills []).mapError _ = _
    rw [validate, derived]
    rfl
  rw [tick, gathered]
  rfl

theorem tables_quiet : Quiet 40 45 ⟨tables.orders.reverse, tables.fills.reverse⟩ where
  orders := by
    intro row member
    simp only [tables, roundTrip, List.reverse_reverse, List.mem_cons, List.not_mem_nil,
      or_false] at member
    rcases member with rfl | rfl <;> rfl
  fills := by
    intro row member
    simp only [tables, roundTrip, List.reverse_reverse, List.mem_cons, List.not_mem_nil,
      or_false] at member
    rcases member with rfl | rfl <;> rfl

end ListingSample

open ListingSample in
/-- The same rows, listed the other way around, are refused: the order that is read last was
recorded after its fill. And the evidence of an outcome shows a fill as it is read last. -/
theorem derivation_depends_on_listing :
    (reviewer.derive .exact 40 repeated.orders repeated.fills = .ok [] ∧
      reviewer.derive .exact 40 repeated.orders.reverse repeated.fills.reverse =
        .error (.dataInvalid "fill precedes its broker order")) ∧
    ∃ one other, digits.derive .exact 40 reprinted.orders reprinted.fills = .ok [one] ∧
      digits.derive .exact 40 reprinted.orders reprinted.fills.reverse = .ok [other] ∧
      one.sourceEvidenceHash ≠ other.sourceEvidenceHash := by
  obtain ⟨⟨one, derived, hash⟩, other, derived', hash'⟩ := reprinted_derived
  refine ⟨⟨repeated_derived, rfl⟩, one, other, derived, derived', ?_⟩
  rw [hash, hash']
  decide

open ListingSample in
theorem derivation_append_only_round_trip : ∃ closed outs,
    reviewer.derive .exact 40 roundTrip.orders roundTrip.fills = .ok [closed] ∧
      reviewer.derive .exact 60 grown.orders grown.fills = .ok outs ∧
      [reviewed 60 closed] <+: outs ∧
      reviewer.derive .exact 40 roundTrip.orders.reverse roundTrip.fills.reverse = .ok [closed] ∧
      reviewer.tick .exact 40 tables =
        (.ok [closed], { tables with outcomes := [reviewer.outcomeRow 1 closed] }) ∧
      (reviewer.tick .exact 45 { tables with outcomes := [reviewer.outcomeRow 1 closed] }).2 =
        { tables with outcomes := [reviewer.outcomeRow 1 closed] } := by
  obtain ⟨closed, derived⟩ := roundTrip_derived
  obtain ⟨outs, derived'⟩ := grown_derived
  obtain ⟨grows, relists, again_⟩ := derivation_append_only reviewer .exact
  exact ⟨closed, outs, derived, derived', grows 40 60 _ _ _ _ roundTrip_grown derived derived',
    (relists 40 _ _ _ roundTrip_relisted).mp derived, tables_ticked derived,
    again_ 40 45 _ _ _ tables_quiet (tables_ticked derived)⟩

end JournalReviewer

end Sentry
