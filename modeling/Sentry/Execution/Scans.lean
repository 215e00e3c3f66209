import Mathlib.Order.WithBot
import Sentry.Db.Repository
import Sentry.Execution.ImmutableJournal

/-!
# Bounded scans

`_scan` of `app/execution/postgres_store.py`: the rows of a table are read newest first, a page
at a time, until a page is empty. The loop ends on every repository, because it refuses a row
that is not before the last one. Over a table it returns all the rows that match, or raises
where there are more of them than its bound or one of them belongs to another binding.
-/
namespace Sentry

open ImmutableJournal (Binding Row readPayload)

namespace PostgresExecutionStore

/-- `list_payloads` of a repository: a limit and a cursor. -/
abbrev Pages := ℤ → Option ℕ → Except Exc (List (AuditRow Row))

/-- The repository over the rows of a table, in the order in which they were appended. -/
def tablePages (filter : Row → Bool) (rows : List (AuditRow Row)) : Pages := fun limit before =>
  if 1 ≤ limit ∧ limit ≤ 10000 then .ok (AuditRow.listPayloads filter limit.toNat before rows)
  else .error (.valueError "audit query limit must be between 1 and 10000")

section Scan

variable (binding : Binding) (maxRecords : ℤ)

/-- The rows of a page, after the records and the cursor there were before it. -/
def scanPage : List (AuditRow Row) → List (AuditRow Row) × Option ℕ →
    Except Exc (List (AuditRow Row) × Option ℕ)
  | [], state => .ok state
  | row :: rest, (records, cursor) => do
    let _ ← readPayload binding row.payload
    if cursor.any fun last => decide (last ≤ row.appendSequence) then
      .error (.safetyCritical "execution audit pagination is not strictly ordered")
    else if maxRecords < (records ++ [row]).length then
      .error (.safetyCritical "execution audit scan bound exceeded; reconciliation required")
    else scanPage rest (records ++ [row], some row.appendSequence)

/-- A cursor as a bound from above. -/
def reach (cursor : Option ℕ) : WithTop ℕ := cursor

variable {binding maxRecords}

theorem scanPage_reach {page : List (AuditRow Row)} {state state' : List (AuditRow Row) × Option ℕ}
    (scanned : scanPage binding maxRecords page state = .ok state') :
    reach state'.2 ≤ reach state.2 ∧ (page ≠ [] → reach state'.2 < reach state.2) := by
  induction page generalizing state with
  | nil =>
    cases scanned
    exact ⟨le_rfl, fun more => absurd rfl more⟩
  | cons row rest ih =>
    obtain ⟨records, cursor⟩ := state
    obtain ⟨_, -, scanned⟩ := bind_ok scanned
    split at scanned
    · cases scanned
    next ordered =>
    split at scanned
    · cases scanned
    -- the row is before the last one, and the others of the page are before the row
    have first : reach (some row.appendSequence) < reach cursor := by
      cases cursor with
      | none => exact WithTop.coe_lt_top _
      | some last =>
        simp only [Option.any_some, decide_eq_true_eq, not_le] at ordered
        exact WithTop.coe_lt_coe.mpr ordered
    have later := (ih scanned).1
    exact ⟨(later.trans_lt first).le, fun _ => later.trans_lt first⟩

variable (binding maxRecords)

local instance reachRelation : WellFoundedRelation (WithTop ℕ) := ⟨(· < ·), wellFounded_lt⟩

/-- The loop, from the records and the cursor of the pages before. -/
def scanFrom (pages : Pages) (records : List (AuditRow Row)) (cursor : Option ℕ) :
    Except Exc (List (AuditRow Row)) :=
  match pages (min 1000 (maxRecords + 1 - records.length)) cursor with
  | .error e => .error e
  | .ok [] => .ok records
  | .ok (row :: rest) =>
    match _scanned : scanPage binding maxRecords (row :: rest) (records, cursor) with
    | .error e => .error e
    | .ok (records', cursor') => scanFrom pages records' cursor'
termination_by reach cursor
decreasing_by exact (scanPage_reach _scanned).2 (List.cons_ne_nil _ _)

variable {binding maxRecords} {pages : Pages} {records : List (AuditRow Row)} {cursor : Option ℕ}

theorem scanFrom_empty (read : pages (min 1000 (maxRecords + 1 - records.length)) cursor = .ok []) :
    scanFrom binding maxRecords pages records cursor = .ok records := by
  rw [scanFrom, read]

theorem scanFrom_page {page : List (AuditRow Row)} (more : page ≠ [])
    (read : pages (min 1000 (maxRecords + 1 - records.length)) cursor = .ok page) :
    scanFrom binding maxRecords pages records cursor =
      match scanPage binding maxRecords page (records, cursor) with
      | .error e => .error e
      | .ok state => scanFrom binding maxRecords pages state.1 state.2 := by
  obtain ⟨row, rest, rfl⟩ := List.exists_cons_of_ne_nil more
  rw [scanFrom, read]
  dsimp only
  split
  next e raised => rw [raised]
  next records' cursor' scanned => rw [scanned]

variable (binding maxRecords) (pages)

/-- `_scan`. -/
def scan : Except Exc (List (AuditRow Row)) :=
  if maxRecords < 1 then .error (.valueError "max_records must be positive")
  else scanFrom binding maxRecords pages [] none

end Scan

/-! ### What a scan returns -/

/-- The row was written for the binding, in its columns and in its payload. -/
def Owned (binding : Binding) (row : Row) : Prop :=
  row.binding = binding ∧ ImmutableJournal.guard binding row.payload = .ok ()

section Table

variable {binding : Binding} {maxRecords : ℤ} {filter : Row → Bool} {rows : List (AuditRow Row)}
  {row : Row}

theorem readPayload_of_owned (owned : Owned binding row) :
    readPayload binding row = .ok row.payload := by
  unfold readPayload
  rw [if_neg (not_not.mpr owned.1), owned.2]
  rfl

theorem guard_error {payload : Json} (foreign : ImmutableJournal.guard binding payload ≠ .ok ()) :
    ∃ message, ImmutableJournal.guard binding payload = .error (.safetyCritical message) := by
  unfold ImmutableJournal.guard at foreign ⊢
  split
  · exact ⟨_, rfl⟩
  next environment =>
  rw [if_neg environment] at foreign
  split
  · exact ⟨_, rfl⟩
  next namespace_ =>
  rw [if_neg namespace_] at foreign
  exact absurd rfl foreign

theorem readPayload_of_foreign (foreign : ¬ Owned binding row) :
    ∃ message, readPayload binding row = .error (.safetyCritical message) := by
  unfold readPayload
  split
  · exact ⟨_, rfl⟩
  next same =>
  obtain ⟨message, raised⟩ := guard_error fun ok => foreign ⟨not_not.mp same, ok⟩
  exact ⟨message, by rw [raised]; rfl⟩

/-- The rows of a page in the order in which they were read, all of them before the cursor. -/
structure Descends (cursor : Option ℕ) (page : List (AuditRow Row)) : Prop where
  below : ∀ row ∈ page, AuditRow.precedes cursor row = true
  decreasing : page.Pairwise fun a b => b.appendSequence < a.appendSequence

theorem Descends.head {cursor : Option ℕ} {first : AuditRow Row} {rest : List (AuditRow Row)}
    (descends : Descends cursor (first :: rest)) :
    cursor.any (fun last => decide (last ≤ first.appendSequence)) = false := by
  have before := descends.below first List.mem_cons_self
  cases cursor with
  | none => rfl
  | some last =>
    simp only [AuditRow.precedes, decide_eq_true_eq] at before
    simpa using before

theorem Descends.tail {cursor : Option ℕ} {first : AuditRow Row} {rest : List (AuditRow Row)}
    (descends : Descends cursor (first :: rest)) : Descends (some first.appendSequence) rest := by
  obtain ⟨smaller, later⟩ := List.pairwise_cons.mp descends.decreasing
  exact ⟨fun row member => decide_eq_true (smaller row member), later⟩

/-- A page is read to its end while its rows are owned and within the bound. -/
theorem scanPage_ok {page records : List (AuditRow Row)} {cursor : Option ℕ}
    (descends : Descends cursor page) (room : ((records ++ page).length : ℤ) ≤ maxRecords)
    (owned : ∀ row ∈ page, Owned binding row.payload) :
    scanPage binding maxRecords page (records, cursor) =
      .ok (records ++ page, page.foldl (fun _ row => some row.appendSequence) cursor) := by
  induction page generalizing records cursor with
  | nil =>
    rw [List.append_nil]
    rfl
  | cons first rest ih =>
    have within : ¬ maxRecords < ((records ++ [first]).length : ℤ) := by
      simp only [List.length_append, List.length_cons, List.length_nil] at room ⊢
      omega
    have longer : (((records ++ [first]) ++ rest).length : ℤ) ≤ maxRecords := by
      rwa [List.append_assoc]
    have later := ih descends.tail longer fun row member =>
      owned row (List.mem_cons_of_mem _ member)
    rw [scanPage, readPayload_of_owned (owned first List.mem_cons_self)]
    change (if _ then _ else _) = _
    rw [descends.head, if_neg (by simp), if_neg within, later, List.append_assoc]
    rfl

/-- A row that is not owned, or one too many, ends the scan. -/
theorem scanPage_error {page records : List (AuditRow Row)} {cursor : Option ℕ}
    (descends : Descends cursor page) (room : (records.length : ℤ) ≤ maxRecords)
    (unfit : ¬ (((records ++ page).length : ℤ) ≤ maxRecords ∧
      ∀ row ∈ page, Owned binding row.payload)) :
    ∃ message,
      scanPage binding maxRecords page (records, cursor) = .error (.safetyCritical message) := by
  induction page generalizing records cursor with
  | nil => exact absurd ⟨by simpa using room, by simp⟩ unfit
  | cons first rest ih =>
    by_cases owned : Owned binding first.payload
    · by_cases within : maxRecords < ((records ++ [first]).length : ℤ)
      · refine ⟨"execution audit scan bound exceeded; reconciliation required", ?_⟩
        rw [scanPage, readPayload_of_owned owned]
        change (if _ then _ else _) = _
        rw [descends.head, if_neg (by simp), if_pos within]
      · have later : ∃ message, scanPage binding maxRecords rest
            (records ++ [first], some first.appendSequence) = .error (.safetyCritical message) := by
          refine ih descends.tail (not_lt.mp within) ?_
          rintro ⟨short, others⟩
          apply unfit
          rw [List.append_assoc] at short
          exact ⟨short, List.forall_mem_cons.mpr ⟨owned, others⟩⟩
        obtain ⟨message, raised⟩ := later
        refine ⟨message, ?_⟩
        rw [scanPage, readPayload_of_owned owned]
        change (if _ then _ else _) = _
        rw [descends.head, if_neg (by simp), if_neg within, raised]
    · obtain ⟨message, raised⟩ := readPayload_of_foreign owned
      refine ⟨message, ?_⟩
      rw [scanPage, raised]
      rfl

/-- What is left of the table below a cursor, the newest row first. -/
def remaining (filter : Row → Bool) (rows : List (AuditRow Row)) (cursor : Option ℕ) :
    List (AuditRow Row) :=
  (AuditRow.older filter cursor rows).reverse

/-- The whole of what is left fits, and is owned. -/
def Fits (binding : Binding) (maxRecords : ℤ) (records rest : List (AuditRow Row)) : Prop :=
  ((records ++ rest).length : ℤ) ≤ maxRecords ∧ ∀ row ∈ rest, Owned binding row.payload

theorem remaining_descends (increasing : AuditRow.Increasing rows) (cursor : Option ℕ) :
    Descends cursor (remaining filter rows cursor) where
  below row member := by
    have kept := (List.mem_filter.mp (List.mem_reverse.mp member)).2
    simp only [Bool.and_eq_true] at kept
    exact kept.1
  decreasing := List.pairwise_reverse.mpr (increasing.sublist List.filter_sublist)

theorem Descends.take {cursor : Option ℕ} {page : List (AuditRow Row)}
    (descends : Descends cursor page) (limit : ℕ) : Descends cursor (page.take limit) where
  below row member := descends.below row (List.mem_of_mem_take member)
  decreasing := descends.decreasing.sublist (List.take_sublist _ _)

/-- The next page: never beyond the limits of the repository, and not empty while rows are left. -/
theorem tablePages_eq {records : List (AuditRow Row)} {cursor : Option ℕ}
    (room : (records.length : ℤ) ≤ maxRecords) :
    ∃ limit : ℕ, 1 ≤ limit ∧ tablePages filter rows (min 1000 (maxRecords + 1 - records.length))
      cursor = .ok ((remaining filter rows cursor).take limit) := by
  refine ⟨(min 1000 (maxRecords + 1 - records.length)).toNat, by omega, ?_⟩
  rw [tablePages, if_pos (by omega), AuditRow.listPayloads_eq]
  rfl

/-- After a page the cursor stands at its last row, and the rest of the table is left. -/
theorem remaining_after (increasing : AuditRow.Increasing rows) {cursor : Option ℕ} {limit : ℕ}
    (more : (remaining filter rows cursor).take limit ≠ []) :
    (remaining filter rows cursor).take limit ++
        remaining filter rows (((remaining filter rows cursor).take limit).foldl
          (fun _ row => some row.appendSequence) cursor) =
      remaining filter rows cursor := by
  obtain ⟨last, ends⟩ := List.getLast?_isSome.mpr more |> Option.isSome_iff_exists.mp
  have stands : ((remaining filter rows cursor).take limit).foldl
      (fun _ row => some row.appendSequence) cursor = some last.appendSequence := by
    obtain ⟨front, split⟩ := List.getLast?_eq_some_iff.mp ends
    rw [split, List.foldl_append]
    rfl
  have paged : AuditRow.listPayloads filter limit cursor rows =
      (remaining filter rows cursor).take limit := AuditRow.listPayloads_eq
  rw [← paged] at ends stands ⊢
  rw [stands]
  exact AuditRow.page_append_older increasing ends

/-- The loop returns what is left if it fits, and raises otherwise. -/
theorem scanFrom_eq (increasing : AuditRow.Increasing rows) {records : List (AuditRow Row)}
    {cursor : Option ℕ} (room : (records.length : ℤ) ≤ maxRecords) :
    (Fits binding maxRecords records (remaining filter rows cursor) →
      scanFrom binding maxRecords (tablePages filter rows) records cursor =
        .ok (records ++ remaining filter rows cursor)) ∧
    (¬ Fits binding maxRecords records (remaining filter rows cursor) → ∃ message,
      scanFrom binding maxRecords (tablePages filter rows) records cursor =
        .error (.safetyCritical message)) := by
  induction left : (remaining filter rows cursor).length using Nat.strong_induction_on
    generalizing records cursor with
  | _ count ih =>
  obtain ⟨limit, positive, read⟩ : ∃ limit : ℕ, 1 ≤ limit ∧ tablePages filter rows
      (min 1000 (maxRecords + 1 - records.length)) cursor =
        .ok ((remaining filter rows cursor).take limit) := tablePages_eq room
  by_cases more : (remaining filter rows cursor).take limit = []
  · -- nothing is left
    have nothing : remaining filter rows cursor = [] := by
      rcases List.take_eq_nil_iff.mp more with zero | nothing
      · omega
      · exact nothing
    rw [more] at read
    rw [nothing, List.append_nil, scanFrom_empty read]
    refine ⟨fun _ => rfl, fun unfit => absurd ⟨?_, by simp⟩ unfit⟩
    rwa [List.append_nil]
  have whole := remaining_after increasing more
  have descends : Descends cursor ((remaining filter rows cursor).take limit) :=
    (remaining_descends increasing cursor).take limit
  rw [scanFrom_page more read]
  generalize (remaining filter rows cursor).take limit = page at more whole descends
  by_cases fits : Fits binding maxRecords records page
  · rw [scanPage_ok descends fits.1 fits.2]
    generalize page.foldl (fun _ row => some row.appendSequence) cursor = cursor' at whole
    have shorter : (remaining filter rows cursor').length < count := by
      have some_read := List.length_pos_of_ne_nil more
      rw [← left, ← whole, List.length_append]
      omega
    have same : Fits binding maxRecords records (remaining filter rows cursor) ↔
        Fits binding maxRecords (records ++ page) (remaining filter rows cursor') := by
      unfold Fits
      rw [← whole, List.append_assoc, List.forall_mem_append]
      exact ⟨fun all => ⟨all.1, all.2.2⟩, fun rest => ⟨rest.1, fits.2, rest.2⟩⟩
    rw [same, ← whole, ← List.append_assoc]
    exact ih _ shorter fits.1 rfl
  · obtain ⟨message, raised⟩ := scanPage_error descends room fits
    rw [raised]
    refine ⟨fun all => absurd ⟨?_, ?_⟩ fits, fun _ => ⟨message, rfl⟩⟩
    · have longer := all.1
      rw [← whole] at longer
      simp only [List.length_append] at longer ⊢
      omega
    · intro row member
      exact all.2 row (whole ▸ List.mem_append_left _ member)

/-- A scan returns every row that matches, the newest first and each once, if there are at most
`maxRecords` of them and all of them belong to the binding; otherwise it raises. -/
theorem scan_eq (binding : Binding) (filter : Row → Bool) (increasing : AuditRow.Increasing rows)
    (positive : 1 ≤ maxRecords) :
    (AuditRow.matching filter rows).reverse.Pairwise
        (fun a b => b.appendSequence < a.appendSequence) ∧
      (Fits binding maxRecords [] (AuditRow.matching filter rows) →
        scan binding maxRecords (tablePages filter rows) =
          .ok (AuditRow.matching filter rows).reverse) ∧
      (¬ Fits binding maxRecords [] (AuditRow.matching filter rows) → ∃ message,
        scan binding maxRecords (tablePages filter rows) = .error (.safetyCritical message)) := by
  have all : remaining filter rows none = (AuditRow.matching filter rows).reverse := rfl
  have same : Fits binding maxRecords [] (AuditRow.matching filter rows) ↔
      Fits binding maxRecords [] (remaining filter rows none) := by
    rw [all, Fits, Fits]
    simp
  have empty : (([] : List (AuditRow Row)).length : ℤ) ≤ maxRecords := by
    rw [List.length_nil]
    omega
  have loop : (Fits binding maxRecords [] (remaining filter rows none) → _) ∧
      (¬ Fits binding maxRecords [] (remaining filter rows none) → _) := scanFrom_eq increasing empty
  rw [scan, if_neg (not_lt.mpr positive), same]
  refine ⟨(remaining_descends increasing none).decreasing, ?_, loop.2⟩
  intro fits
  rw [loop.1 fits, List.nil_append, all]

end Table

section Samples

def demoBinding : Binding := ⟨.demo, "demo"⟩

/-- One row of the binding with this payload. -/
def single (payload : Json) : List (AuditRow Row) := [⟨1, ⟨demoBinding, "orders", payload⟩⟩]

def isOrder (row : Row) : Bool := row.table == "orders"

/-- Two and a half pages of orders, after a fill. -/
def severalOrders : List (AuditRow Row) :=
  (List.range' 1 2500).map fun n => ⟨n, ⟨demoBinding, "orders", .obj [("environment", .str "DEMO")]⟩⟩

def severalRows : List (AuditRow Row) := ⟨0, ⟨demoBinding, "fills", .obj []⟩⟩ :: severalOrders

theorem severalRows_increasing : AuditRow.Increasing severalRows := by
  refine List.pairwise_cons.mpr ⟨?_, ?_⟩
  · simp only [severalOrders, List.mem_map, List.mem_range'_1]
    rintro row ⟨n, ⟨positive, -⟩, rfl⟩
    exact positive
  · exact List.pairwise_map.mpr List.pairwise_lt_range'

theorem severalRows_matching : AuditRow.matching isOrder severalRows = severalOrders := by
  rw [AuditRow.matching, severalRows, List.filter_cons_of_neg (by decide), List.filter_eq_self]
  simp only [severalOrders, List.mem_map]
  rintro row ⟨n, -, rfl⟩
  rfl

theorem severalOrders_length : severalOrders.length = 2500 := by
  rw [severalOrders, List.length_map, List.length_range']

theorem severalOrders_owned : ∀ row ∈ severalOrders, Owned demoBinding row.payload := by
  simp only [severalOrders, List.mem_map]
  rintro row ⟨n, -, rfl⟩
  have permitted : ImmutableJournal.guard demoBinding (.obj [("environment", .str "DEMO")]) =
      .ok () := by decide +kernel
  exact ⟨rfl, permitted⟩

theorem scan_eq_severalRows :
    severalRows.length = 2501 ∧
      (severalOrders.reverse.Pairwise fun a b => b.appendSequence < a.appendSequence) ∧
      scan demoBinding 2500 (tablePages isOrder severalRows) = .ok severalOrders.reverse ∧
      ∃ message, scan demoBinding 2499 (tablePages isOrder severalRows) =
        .error (.safetyCritical message) := by
  obtain ⟨decreasing, whole, -⟩ :=
    scan_eq demoBinding isOrder severalRows_increasing (by norm_num : (1 : ℤ) ≤ 2500)
  obtain ⟨-, -, refused⟩ :=
    scan_eq demoBinding isOrder severalRows_increasing (by norm_num : (1 : ℤ) ≤ 2499)
  rw [severalRows_matching] at decreasing whole refused
  refine ⟨by rw [severalRows, List.length_cons, severalOrders_length], decreasing,
    whole ⟨?_, severalOrders_owned⟩, refused fun fits => ?_⟩
  · rw [List.nil_append, severalOrders_length]
    norm_num
  · have short := fits.1
    rw [List.nil_append, severalOrders_length] at short
    norm_num at short

/-- A single row whose environment is null ends a scan that has room for it. -/
theorem scan_foreign :
    (AuditRow.matching (fun _ => true)
        (single (.obj [("environment", .null)]))).length = 1 ∧
      scan demoBinding 1 (tablePages (fun _ => true)
        (single (.obj [("environment", .null)]))) =
          .error (.safetyCritical "cross-environment execution persistence attempt") := by
  constructor
  · rfl
  · rw [scan, if_neg (by norm_num), scanFrom_page (List.cons_ne_nil _ []) rfl]
    rfl

end Samples

end PostgresExecutionStore
end Sentry
