import Mathlib.Order.Bounds.Basic
import Sentry.Learning.Journals

/-!
# What listed rows come to

A scan reads the rows of each order and of each fill by themselves. It comes to its end where
the rows of each agree, and what it leaves of an order or a fill is the row that was read last,
with the largest filled quantity or the smallest number.
-/
namespace Sentry

open Support

namespace JournalReviewer

variable {svc : JournalReviewer} {now : Time}

/-! ### Scans -/

section Scan

variable {α ν : Type} {named : α → NamedBinding} {visible : EvidenceRow α → Bool}
  {c : Collector (EvidenceRow α) UUID ν Exc} {rows : List (EvidenceRow α)} {read : Dict UUID ν}

/-- The row belongs to the binding of the worker. -/
def Own (svc : JournalReviewer) (named : α → NamedBinding) (row : EvidenceRow α) :
    Prop :=
  ∃ payload, svc.payload named row = .ok payload

/-- Every row has to be one of the worker; what is collected are the visible ones. -/
theorem scanRows_iff : svc.scanRows named visible c rows = .ok read ↔
    (∀ row ∈ rows, svc.Own named row) ∧ c.collect (rows.filter visible) = .ok read := by
  have loop : ∀ start : Dict UUID ν,
      rows.foldlM (fun read row => do
          let _ ← svc.payload named row
          if visible row then c.step read row else pure read) start = .ok read ↔
        (∀ row ∈ rows, svc.Own named row) ∧
          (rows.filter visible).foldlM c.step start = .ok read := by
    induction rows with
    | nil => simp
    | cons row rows ih =>
      intro start
      rw [List.foldlM_cons, List.forall_mem_cons]
      cases own : svc.payload named row with
      | error e => simp [Own, own, bind, Except.bind]
      | ok payload =>
        have here : svc.Own named row := ⟨payload, own⟩
        by_cases shown : visible row = true
        · rw [List.filter_cons_of_pos shown, List.foldlM_cons]
          simp only [here, shown, if_true, true_and]
          cases stepped : c.step start row with
          | error e => simp [bind, Except.bind]
          | ok next =>
            have rest := ih next
            simpa [bind, Except.bind, stepped] using rest
        · rw [List.filter_cons_of_neg shown]
          have rest := ih start
          simpa [bind, Except.bind, here, shown, pure, Except.pure] using rest
  exact loop .empty

/-- The visible rows of one identifier, as they are listed. -/
def listed (c : Collector (EvidenceRow α) UUID ν Exc) (visible : EvidenceRow α → Bool) (id : UUID)
    (rows : List (EvidenceRow α)) : List (EvidenceRow α) :=
  c.under id (rows.filter visible)

theorem mem_listed {id : UUID} {row : EvidenceRow α} :
    row ∈ listed c visible id rows ↔ row ∈ rows ∧ visible row = true ∧ c.key row = id := by
  rw [listed, Collector.mem_under, List.mem_filter, and_assoc]

/-- A scan of rows comes to its end where the scan of every identifier does. -/
theorem scanRows_exists_iff : (∃ read, svc.scanRows named visible c rows = .ok read) ↔
    (∀ row ∈ rows, svc.Own named row) ∧
      ∀ id, ∃ v, (listed c visible id rows).foldlM c.one none = .ok v := by
  simp only [scanRows_iff, exists_and_left, Collector.exists_collect_iff, Collector.single, listed]

end Scan

/-! ### The rows of one order -/

section Orders

variable {rows done : List (EvidenceRow WrittenOrder)} {row : EvidenceRow WrittenOrder}
  {v u : Option (WrittenOrder × ℤ)} {orders : Dict UUID (WrittenOrder × ℤ)} {id : UUID}

def filledOf (row : EvidenceRow WrittenOrder) : ℤ := row.payload.order.filledQuantity

/-- The rows of an order agree on its terms, and none has more filled than ordered. -/
structure OrderRowsAgree (rows : List (EvidenceRow WrittenOrder)) : Prop where
  possible : ∀ row ∈ rows, filledOf row ≤ row.payload.order.quantity
  terms : ∀ a ∈ rows, ∀ b ∈ rows, a.payload.terms = b.payload.terms

/-- The last of the rows, and the largest filled quantity. -/
def OrderRead (rows : List (EvidenceRow WrittenOrder)) : Option (WrittenOrder × ℤ) → Prop
  | none => rows = []
  | some entry => (∃ row, rows.getLast? = some row ∧ row.payload = entry.1) ∧
    IsGreatest (insert 0 {n | ∃ row ∈ rows, filledOf row = n}) entry.2

theorem orderNext_iff {w : WrittenOrder × ℤ} : orderCollector.next u row = .ok w ↔
    filledOf row ≤ row.payload.order.quantity ∧
      (∀ previous, u = some previous → previous.1.terms = row.payload.terms) ∧
      w = (row.payload, max ((u.map Prod.snd).getD 0) (filledOf row)) := by
  simp only [orderCollector, filledOf]
  split
  next impossible => simp [not_le.mpr impossible]
  next possible =>
    split
    next differs =>
      cases u with
      | none => simp at differs
      | some previous =>
        simp only [Option.any_some, decide_eq_true_eq] at differs
        simp [differs]
    next same =>
      have agree : ∀ previous, u = some previous → previous.1.terms = row.payload.terms := by
        rintro previous rfl
        simpa using same
      simp only [Except.ok.injEq, not_lt.mp possible, true_and]
      exact ⟨fun is => ⟨agree, is.symm⟩, fun is => is.2.symm⟩

theorem insert_filled (rows : List (EvidenceRow WrittenOrder)) (row : EvidenceRow WrittenOrder) :
    insert (0 : ℤ) {n | ∃ other ∈ rows ++ [row], filledOf other = n} =
      insert (filledOf row) (insert 0 {n | ∃ other ∈ rows, filledOf other = n}) := by
  ext n
  simp only [Set.mem_insert_iff, Set.mem_ofPred_eq, List.mem_append, List.mem_singleton]
  constructor
  · rintro (zero | ⟨other, earlier | rfl, is⟩)
    · exact Or.inr (Or.inl zero)
    · exact Or.inr (Or.inr ⟨other, earlier, is⟩)
    · exact Or.inl is.symm
  · rintro (is | zero | ⟨other, earlier, is⟩)
    · exact Or.inr ⟨row, Or.inr rfl, is.symm⟩
    · exact Or.inl zero
    · exact Or.inr ⟨other, Or.inl earlier, is⟩

/-- One row more is read. -/
theorem OrderRead.next (read : OrderRead done u) :
    OrderRead (done ++ [row])
      (some (row.payload, max ((u.map Prod.snd).getD 0) (filledOf row))) := by
  refine ⟨⟨row, by simp, rfl⟩, ?_⟩
  rw [insert_filled, max_comm]
  apply IsGreatest.insert
  cases u with
  | none =>
    obtain rfl : done = [] := read
    simp
  | some previous => exact read.2

theorem OrderRowsAgree.next (agree : OrderRowsAgree done) (read : OrderRead done u)
    (possible : filledOf row ≤ row.payload.order.quantity)
    (terms : ∀ previous, u = some previous → previous.1.terms = row.payload.terms) :
    OrderRowsAgree (done ++ [row]) := by
  have same : ∀ a ∈ done, a.payload.terms = row.payload.terms := by
    intro a member
    cases u with
    | none =>
      obtain rfl : done = [] := read
      simp at member
    | some previous =>
      obtain ⟨⟨last, ends, is⟩, -⟩ := read
      rw [← terms previous rfl, ← is]
      exact agree.terms a member last (List.mem_of_getLast? ends)
  constructor
  · intro a member
    rcases List.mem_append.mp member with earlier | here
    · exact agree.possible a earlier
    · rw [List.mem_singleton.mp here]
      exact possible
  · intro a inA b inB
    rcases List.mem_append.mp inA with earlierA | hereA <;>
      rcases List.mem_append.mp inB with earlierB | hereB
    · exact agree.terms a earlierA b earlierB
    · rw [List.mem_singleton.mp hereB]
      exact same a earlierA
    · rw [List.mem_singleton.mp hereA]
      exact (same b earlierB).symm
    · rw [List.mem_singleton.mp hereA, List.mem_singleton.mp hereB]

theorem orderCollector_ok (went : rows.foldlM orderCollector.one none = .ok v) :
    OrderRowsAgree rows ∧ OrderRead rows v := by
  refine foldlM_kept (P := fun done v => OrderRowsAgree done ∧ OrderRead done v) went
    ⟨⟨by simp, by simp⟩, rfl⟩ ?_
  rintro done row - u v - ⟨agree, read⟩ step
  obtain ⟨w, stepped, rfl⟩ := Collector.one_ok step
  obtain ⟨possible, terms, rfl⟩ := orderNext_iff.mp stepped
  exact ⟨agree.next read possible terms, read.next⟩

theorem orderCollector_exists (agree : OrderRowsAgree rows) :
    ∃ v, rows.foldlM orderCollector.one none = .ok v := by
  obtain ⟨v, went, -⟩ := foldlM_ok (P := OrderRead) (f := orderCollector.one) rows none rfl (by
    rintro done row rest u rfl read
    refine ⟨some (row.payload, max ((u.map Prod.snd).getD 0) (filledOf row)), ?_, read.next⟩
    refine Collector.one_of_next (orderNext_iff.mpr ⟨agree.possible row (by simp), ?_, rfl⟩)
    rintro previous rfl
    obtain ⟨⟨last, ends, is⟩, -⟩ := read
    rw [← is]
    exact agree.terms last (by simp [List.mem_of_getLast? ends]) row (by simp))
  exact ⟨v, went⟩

theorem scanOrders_exists_iff : (∃ orders, svc.scanOrders now rows = .ok orders) ↔
    (∀ row ∈ rows, svc.Own orderNamed row) ∧
      ∀ id, OrderRowsAgree (listed orderCollector (orderVisible now) id rows) := by
  rw [scanOrders, scanRows_exists_iff]
  refine and_congr_right fun _ => forall_congr' fun id => ?_
  exact ⟨fun ⟨v, went⟩ => (orderCollector_ok went).1, orderCollector_exists⟩

theorem scanOrders_read (scanned : svc.scanOrders now rows = .ok orders) (id : UUID) :
    OrderRead (listed orderCollector (orderVisible now) id rows) (orders.get? id) :=
  (orderCollector_ok (Collector.single_of_collect (scanRows_iff.mp scanned).2 id)).2

/-- What was read of an order was listed last, and has its identifier. -/
theorem order_of_read (scanned : svc.scanOrders now rows = .ok orders)
    {entry : WrittenOrder × ℤ} (found : orders.get? id = some entry) :
    ∃ row ∈ listed orderCollector (orderVisible now) id rows,
      row.payload = entry.1 ∧ entry.1.order.orderId = id := by
  have read := scanOrders_read scanned id
  rw [found] at read
  obtain ⟨⟨row, ends, is⟩, -⟩ := read
  have member := List.mem_of_getLast? ends
  exact ⟨row, member, is, is ▸ (mem_listed.mp member).2.2⟩

/-- An order with a row is read. -/
theorem order_of_listed (scanned : svc.scanOrders now rows = .ok orders)
    (member : row ∈ listed orderCollector (orderVisible now) id rows) :
    ∃ entry, orders.get? id = some entry := by
  have read := scanOrders_read scanned id
  cases found : orders.get? id with
  | none =>
    rw [found] at read
    rw [show listed _ _ _ _ = [] from read] at member
    simp at member
  | some entry => exact ⟨entry, rfl⟩

end Orders

/-! ### The rows of one fill -/

section Fills

variable {rows done : List (EvidenceRow WrittenFill)} {row : EvidenceRow WrittenFill}
  {v u : Option (WrittenFill × ℕ)} {fills : Dict UUID (WrittenFill × ℕ)} {id : UUID}

/-- The rows of a fill agree on its content. -/
def FillRowsAgree (rows : List (EvidenceRow WrittenFill)) : Prop :=
  ∀ a ∈ rows, ∀ b ∈ rows, a.payload.fill = b.payload.fill

/-- The last of the rows, and the smallest number. -/
def FillRead (rows : List (EvidenceRow WrittenFill)) : Option (WrittenFill × ℕ) → Prop
  | none => rows = []
  | some entry => (∃ row, rows.getLast? = some row ∧ row.payload = entry.1) ∧
    IsLeast {n | ∃ row ∈ rows, row.appendSequence = n} entry.2

/-- The number of a fill after one row more. -/
def earliest (row : EvidenceRow WrittenFill) : Option (WrittenFill × ℕ) → ℕ
  | none => row.appendSequence
  | some previous => min previous.2 row.appendSequence

theorem fillNext_iff {w : WrittenFill × ℕ} : fillCollector.next u row = .ok w ↔
    (∀ previous, u = some previous → previous.1.fill = row.payload.fill) ∧
      w = (row.payload, earliest row u) := by
  cases u with
  | none => simp [fillCollector, earliest, eq_comm]
  | some previous =>
    simp only [fillCollector, earliest, Option.some.injEq, forall_eq']
    split
    next differs => simp [differs]
    next same => simp [not_not.mp same, eq_comm]

/-- One row more is read. -/
theorem FillRead.next (read : FillRead done u) :
    FillRead (done ++ [row]) (some (row.payload, earliest row u)) := by
  refine ⟨⟨row, by simp, rfl⟩, ?_⟩
  have numbers : {n | ∃ other ∈ done ++ [row], other.appendSequence = n} =
      insert row.appendSequence {n | ∃ other ∈ done, other.appendSequence = n} := by
    ext n
    simp [or_and_right, exists_or, or_comm, eq_comm]
  rw [numbers]
  cases u with
  | none =>
    obtain rfl : done = [] := read
    simp [earliest]
  | some previous =>
    change IsLeast _ (min previous.2 row.appendSequence)
    rw [min_comm]
    exact read.2.insert _

theorem FillRowsAgree.next (agree : FillRowsAgree done) (read : FillRead done u)
    (same : ∀ previous, u = some previous → previous.1.fill = row.payload.fill) :
    FillRowsAgree (done ++ [row]) := by
  have every : ∀ a ∈ done, a.payload.fill = row.payload.fill := by
    intro a member
    cases u with
    | none =>
      obtain rfl : done = [] := read
      simp at member
    | some previous =>
      obtain ⟨⟨last, ends, is⟩, -⟩ := read
      rw [← same previous rfl, ← is]
      exact agree a member last (List.mem_of_getLast? ends)
  intro a inA b inB
  rcases List.mem_append.mp inA with earlierA | hereA <;>
    rcases List.mem_append.mp inB with earlierB | hereB
  · exact agree a earlierA b earlierB
  · rw [List.mem_singleton.mp hereB]
    exact every a earlierA
  · rw [List.mem_singleton.mp hereA]
    exact (every b earlierB).symm
  · rw [List.mem_singleton.mp hereA, List.mem_singleton.mp hereB]

theorem fillCollector_ok (went : rows.foldlM fillCollector.one none = .ok v) :
    FillRowsAgree rows ∧ FillRead rows v := by
  refine foldlM_kept (P := fun done v => FillRowsAgree done ∧ FillRead done v) went
    ⟨by simp [FillRowsAgree], rfl⟩ ?_
  rintro done row - u v - ⟨agree, read⟩ step
  obtain ⟨w, stepped, rfl⟩ := Collector.one_ok step
  obtain ⟨same, rfl⟩ := fillNext_iff.mp stepped
  exact ⟨agree.next read same, read.next⟩

theorem fillCollector_exists (agree : FillRowsAgree rows) :
    ∃ v, rows.foldlM fillCollector.one none = .ok v := by
  obtain ⟨v, went, -⟩ := foldlM_ok (P := FillRead) (f := fillCollector.one) rows none rfl (by
    rintro done row rest u rfl read
    refine ⟨some (row.payload, earliest row u), ?_, read.next⟩
    refine Collector.one_of_next (fillNext_iff.mpr ⟨?_, rfl⟩)
    rintro previous rfl
    obtain ⟨⟨last, ends, is⟩, -⟩ := read
    rw [← is]
    exact agree last (by simp [List.mem_of_getLast? ends]) row (by simp))
  exact ⟨v, went⟩

theorem scanFills_exists_iff : (∃ fills, svc.scanFills now rows = .ok fills) ↔
    (∀ row ∈ rows, svc.Own fillNamed row) ∧
      ∀ id, FillRowsAgree (listed fillCollector (fillVisible now) id rows) := by
  rw [scanFills, scanRows_exists_iff]
  refine and_congr_right fun _ => forall_congr' fun id => ?_
  exact ⟨fun ⟨v, went⟩ => (fillCollector_ok went).1, fillCollector_exists⟩

theorem scanFills_read (scanned : svc.scanFills now rows = .ok fills) (id : UUID) :
    FillRead (listed fillCollector (fillVisible now) id rows) (fills.get? id) :=
  (fillCollector_ok (Collector.single_of_collect (scanRows_iff.mp scanned).2 id)).2

/-- What was read of a fill was listed last, and has its identifier. -/
theorem fill_of_read (scanned : svc.scanFills now rows = .ok fills)
    {entry : WrittenFill × ℕ} (found : fills.get? id = some entry) :
    ∃ row ∈ listed fillCollector (fillVisible now) id rows,
      row.payload = entry.1 ∧ entry.1.fill.fillId = id := by
  have read := scanFills_read scanned id
  rw [found] at read
  obtain ⟨⟨row, ends, is⟩, -⟩ := read
  have member := List.mem_of_getLast? ends
  exact ⟨row, member, is, is ▸ (mem_listed.mp member).2.2⟩

theorem number_of_read (scanned : svc.scanFills now rows = .ok fills)
    {entry : WrittenFill × ℕ} (found : fills.get? id = some entry) :
    ∃ row ∈ listed fillCollector (fillVisible now) id rows, row.appendSequence = entry.2 := by
  have read := scanFills_read scanned id
  rw [found] at read
  exact read.2.1

/-- A fill with a row is read. -/
theorem fill_of_listed (scanned : svc.scanFills now rows = .ok fills)
    (member : row ∈ listed fillCollector (fillVisible now) id rows) :
    ∃ entry, fills.get? id = some entry := by
  have read := scanFills_read scanned id
  cases found : fills.get? id with
  | none =>
    rw [found] at read
    rw [show listed _ _ _ _ = [] from read] at member
    simp at member
  | some entry => exact ⟨entry, rfl⟩

theorem FillRead.oldest {entry : WrittenFill × ℕ}
    (newest : rows.Pairwise fun a b => b.appendSequence < a.appendSequence)
    (read : FillRead rows (some entry)) :
    ∃ row ∈ rows, (∀ other ∈ rows, row.appendSequence ≤ other.appendSequence) ∧
      entry = (row.payload, row.appendSequence) := by
  obtain ⟨⟨row, ends, is⟩, inside, least⟩ := read
  obtain ⟨before, rfl⟩ := List.getLast?_eq_some_iff.mp ends
  have lowest : ∀ other ∈ before ++ [row], row.appendSequence ≤ other.appendSequence := by
    intro other member
    rcases List.mem_append.mp member with earlier | last
    · exact ((List.pairwise_append.mp newest).2.2 other earlier row (by simp)).le
    · rw [List.mem_singleton.mp last]
  obtain ⟨numbered, member, number⟩ := inside
  have same : entry.2 = row.appendSequence :=
    le_antisymm (least ⟨row, by simp, rfl⟩) (number ▸ lowest numbered member)
  exact ⟨row, by simp, lowest, Prod.ext is.symm same⟩

/-- Where the newest rows are listed first, a fill is what its oldest row says. -/
theorem oldest_of_read (newest : rows.Pairwise fun a b => b.appendSequence < a.appendSequence)
    (scanned : svc.scanFills now rows = .ok fills) {entry : WrittenFill × ℕ}
    (found : fills.get? id = some entry) :
    ∃ row ∈ listed fillCollector (fillVisible now) id rows,
      (∀ other ∈ listed fillCollector (fillVisible now) id rows,
        row.appendSequence ≤ other.appendSequence) ∧
      entry = (row.payload, row.appendSequence) := by
  have read := scanFills_read scanned id
  rw [found] at read
  exact read.oldest (newest.sublist (List.filter_sublist.trans List.filter_sublist))

end Fills

end JournalReviewer

end Sentry
