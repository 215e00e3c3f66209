import Sentry.Federal.Revisions
import Sentry.Federal.Snapshots

/-!
# Scans and pages of the federal registry

A scan returns every revision that it is asked for, the newest first, or raises the first error
it meets: a row that cannot be decoded on a page before it has found too many of them. Following
the cursor of a snapshot shows every relationship once, in the order of the identifiers.
-/
namespace Sentry

open Support

namespace RegistryReader

open FederalRegistryService (decode latestOf validateChain)

variable (svc : RegistryReader)

/-! ### Scans -/

theorem decodeRows_append (first rest : List (AuditRow Json)) :
    svc.decodeRows (first ++ rest) = do
      let decoded ← svc.decodeRows first
      let others ← svc.decodeRows rest
      return decoded ++ others :=
  List.mapM_append

/-- What a scan of the rows that are left comes to, with room for some more revisions. Pages are
decoded one by one until there is a page that has no room. -/
def outcome (room : ℕ) (rest : List (AuditRow Json)) : Except RegistryExc (List RegistryRevision) :=
  if rest.length ≤ room then svc.decodeRows rest
  else do
    let _ ← svc.decodeRows (rest.take (500 * (room / 500)))
    .error scanLimit

/-- The rows before a cursor, the newest first. -/
def left (table : RegistryTable) (relationshipId : Option UUID) (before : Option ℕ) :
    List (AuditRow Json) :=
  (AuditRow.older (matching relationshipId) before table.rows).reverse

variable {table : RegistryTable} {relationshipId : Option UUID} {before : Option ℕ} {room : ℕ}
  {page rest : List (AuditRow Json)} {decoded revisions : List RegistryRevision}

theorem page_eq (limit : ℕ) : RegistryReader.page table relationshipId limit before =
    (left table relationshipId before).take limit :=
  AuditRow.listPayloads_eq

/-- A page that cannot be decoded ends the scan. -/
theorem outcome_error {e : RegistryExc} (failed : svc.decodeRows page = .error e)
    (full : page.length = 500 ∨ rest = []) (fits : page.length ≤ room) :
    svc.outcome room (page ++ rest) = .error e := by
  unfold outcome
  split
  · rw [decodeRows_append, failed]
    rfl
  next more =>
    rcases full with full | rfl
    · have some_ : 500 ≤ 500 * (room / 500) := by omega
      obtain ⟨others, there⟩ : ∃ others, (page ++ rest).take (500 * (room / 500)) = page ++ others :=
        ⟨_, by rw [List.take_append, List.take_of_length_le (by omega)]⟩
      rw [there, decodeRows_append, failed]
      rfl
    · rw [List.append_nil] at more
      omega

/-- A full page leaves that much less room. -/
theorem outcome_page (read : svc.decodeRows page = .ok decoded) (full : page.length = 500)
    (fits : 500 ≤ room) :
    svc.outcome room (page ++ rest) = (svc.outcome (room - 500) rest).map (decoded ++ ·) := by
  unfold outcome
  rw [List.length_append]
  by_cases all : page.length + rest.length ≤ room
  · rw [if_pos all, if_pos (by omega), decodeRows_append, read]
    cases svc.decodeRows rest <;> rfl
  · rw [if_neg all, if_neg (by omega)]
    have shown : (page ++ rest).take (500 * (room / 500)) =
        page ++ rest.take (500 * ((room - 500) / 500)) := by
      rw [List.take_append, List.take_of_length_le (by omega)]
      congr 2
      omega
    rw [shown, decodeRows_append, read]
    cases svc.decodeRows (rest.take (500 * ((room - 500) / 500))) <;> rfl

/-- The rows behind the last one of a page are left. -/
theorem left_after {limit : ℕ} {last : AuditRow Json}
    (ends : ((left table relationshipId before).take limit).getLast? = some last) :
    (left table relationshipId before).take limit ++
        left table relationshipId (some last.appendSequence) =
      left table relationshipId before := by
  rw [left, ← AuditRow.listPayloads_eq] at ends ⊢
  exact AuditRow.page_append_older table.increasing ends

/-- The check of the cursor never fails over a table. -/
theorem cursor_advances {limit : ℕ} {last : AuditRow Json}
    (ends : ((left table relationshipId before).take limit).getLast? = some last) :
    ¬ (last.appendSequence = 0 ∨
      before.any (fun bound => decide (bound ≤ last.appendSequence)) = true) := by
  have member : last ∈ AuditRow.older (matching relationshipId) before table.rows :=
    List.mem_reverse.mp (List.mem_of_mem_take (List.mem_of_getLast? ends))
  obtain ⟨stored, kept⟩ := List.mem_filter.mp member
  have positive := table.numbered last stored
  rw [Bool.and_eq_true] at kept
  rintro (zero | behind)
  · omega
  · cases before with
    | none => simp at behind
    | some bound =>
      have early := kept.1
      simp only [AuditRow.precedes, decide_eq_true_eq, Option.any_some] at early behind
      omega

/-- One turn of the loop. -/
theorem scanFrom_page {pages : ℕ → Option ℕ → List (AuditRow Json)}
    (read : pages (min 500 (svc.maximumScanRecords - revisions.length + 1)) before = page) :
    svc.scanFrom pages revisions before =
      if svc.maximumScanRecords - revisions.length < page.length then .error scanLimit
      else
        match svc.decodeRows page with
        | .error e => .error e
        | .ok decoded =>
          match page.getLast? with
          | none => .ok (revisions ++ decoded)
          | some last =>
            if page.length < min 500 (svc.maximumScanRecords - revisions.length + 1) then
              .ok (revisions ++ decoded)
            else if last.appendSequence = 0 ∨
                before.any (fun bound => decide (bound ≤ last.appendSequence)) = true then
              .error (.integrity "registry pagination did not advance")
            else svc.scanFrom pages (revisions ++ decoded) (some last.appendSequence) := by
  subst read
  rw [scanFrom]
  split
  next => rfl
  next =>
  split
  next e failed => rw [failed]
  next decoded read =>
  rw [read]
  split
  next none_ => rw [none_]
  next last ends => rw [ends]

/-- A scan returns what is left of the table, or fails as its pages do. -/
theorem scanFrom_eq (table : RegistryTable) (relationshipId : Option UUID)
    (revisions : List RegistryRevision) (before : Option ℕ) :
    svc.scanFrom (RegistryReader.page table relationshipId) revisions before =
      (svc.outcome (svc.maximumScanRecords - revisions.length)
        (left table relationshipId before)).map (revisions ++ ·) := by
  induction count : (left table relationshipId before).length using Nat.strong_induction_on
    generalizing revisions before with
  | _ count ih =>
  rw [svc.scanFrom_page (page_eq _)]
  generalize room_eq : svc.maximumScanRecords - revisions.length = room
  have short : ((left table relationshipId before).take (min 500 (room + 1))).length =
      min (min 500 (room + 1)) (left table relationshipId before).length := List.length_take
  have whole := List.take_append_drop (min 500 (room + 1)) (left table relationshipId before)
  have spent (few : (left table relationshipId before).length ≤ min 500 (room + 1)) :
      (left table relationshipId before).drop (min 500 (room + 1)) = [] :=
    List.drop_eq_nil_of_le few
  by_cases many : room < ((left table relationshipId before).take (min 500 (room + 1))).length
  · -- the page has no room, and nothing more is decoded
    have less : room < 500 := by omega
    rw [if_pos many, outcome, if_neg (by omega), Nat.div_eq_of_lt less]
    rfl
  rw [if_neg many]
  cases read : svc.decodeRows ((left table relationshipId before).take (min 500 (room + 1))) with
  | error e =>
    have full : ((left table relationshipId before).take (min 500 (room + 1))).length = 500 ∨
        (left table relationshipId before).drop (min 500 (room + 1)) = [] := by
      by_cases few : (left table relationshipId before).length ≤ min 500 (room + 1)
      · exact Or.inr (spent few)
      · exact Or.inl (by omega)
    have failed := svc.outcome_error read full (not_lt.mp many)
    rw [whole] at failed
    rw [failed]
    rfl
  | ok decoded =>
    have finished (partly : ((left table relationshipId before).take
        (min 500 (room + 1))).length < min 500 (room + 1)) :
        .ok (revisions ++ decoded) =
          (svc.outcome room (left table relationshipId before)).map (revisions ++ ·) := by
      rw [spent (by omega), List.append_nil] at whole
      rw [outcome, if_pos (by omega), ← whole, read]
      rfl
    cases ends : ((left table relationshipId before).take (min 500 (room + 1))).getLast? with
    | none =>
      apply finished
      rw [List.getLast?_eq_none_iff.mp ends, List.length_nil]
      omega
    | some last =>
      dsimp only
      by_cases partly : ((left table relationshipId before).take
        (min 500 (room + 1))).length < min 500 (room + 1)
      · rw [if_pos partly]
        exact finished partly
      rw [if_neg partly, if_neg (cursor_advances ends)]
      -- a full page, which has room, is one of 500 rows
      have full : ((left table relationshipId before).take (min 500 (room + 1))).length = 500 := by
        omega
      have next := left_after ends
      have fewer : (left table relationshipId (some last.appendSequence)).length <
          (left table relationshipId before).length := by
        rw [← next, List.length_append]
        omega
      have decoded_length := svc.length_decodeRows read
      rw [ih _ (count ▸ fewer) _ _ rfl, ← next, svc.outcome_page read full (by omega),
        List.length_append, decoded_length, full, ← Nat.sub_sub, room_eq]
      cases svc.outcome (room - 500) (left table relationshipId (some last.appendSequence)) with
      | error e => rfl
      | ok others => exact congrArg Except.ok (List.append_assoc _ _ _)

/-- The rows that a query for revisions matches, the newest first. -/
def newest (table : RegistryTable) (relationshipId : Option UUID) : List (AuditRow Json) :=
  (AuditRow.matching (matching relationshipId) table.rows).reverse

theorem allRevisions_eq (table : RegistryTable) (relationshipId : Option UUID) :
    svc.allRevisions table relationshipId =
      svc.outcome svc.maximumScanRecords (newest table relationshipId) := by
  have scanned := svc.scanFrom_eq table relationshipId [] none
  have all : left table relationshipId none = newest table relationshipId := rfl
  rw [all, List.length_nil, Nat.sub_zero] at scanned
  rw [allRevisions, scanned]
  cases svc.outcome svc.maximumScanRecords (newest table relationshipId) <;> rfl

/-! ### Pages -/

section Following

variable {svc} {now instant : Time} {requested : Option Datetime} {ticker : Option String}
  {limit : ℤ} {items : List RegistryItem}

theorem snapshot_eq (read : svc.readItems table now requested ticker limit = .ok (instant, items))
    (cursor : Option UUID) : svc.snapshot table now requested ticker limit cursor =
      .ok (svc.pageOf instant limit.toNat cursor items) := by
  rw [snapshot, read]
  rfl

/-- The cursor of a page is the key of its last item. -/
theorem pageOf_cursor (svc : RegistryReader) (instant : Time) (items : List RegistryItem)
    (count : ℕ) (cursor : Option UUID) :
    (svc.pageOf instant count cursor items).nextAfterRelationshipId.map UUID.val =
      Keyset.next RegistryItem.key count
        (Keyset.after RegistryItem.key (cursor.map UUID.val) items) :=
  (Keyset.next_map RegistryItem.relationshipId UUID.val count _).symm

theorem follow_error {cursor : Option UUID} {e : RegistryExc}
    (failed : svc.snapshot table now requested ticker limit cursor = .error e) :
    svc.follow table now requested ticker limit cursor = .error e := by
  rw [follow]
  split
  next e' failed' =>
    cases failed.symm.trans failed'
    rfl
  next page shown => cases failed.symm.trans shown

theorem follow_last {cursor : Option UUID} {page : RegistryPage}
    (shown : svc.snapshot table now requested ticker limit cursor = .ok page)
    (nothing : page.nextAfterRelationshipId = none) :
    svc.follow table now requested ticker limit cursor = .ok [page] := by
  rw [follow]
  split
  next e failed => cases shown.symm.trans failed
  next other shown' =>
    cases shown.symm.trans shown'
    split
    next => rfl
    next last more => cases nothing.symm.trans more

theorem follow_more {cursor : Option UUID} {page : RegistryPage} {last : UUID}
    (shown : svc.snapshot table now requested ticker limit cursor = .ok page)
    (more : page.nextAfterRelationshipId = some last) :
    svc.follow table now requested ticker limit cursor = do
      let others ← svc.follow table now requested ticker limit (some last)
      return page :: others := by
  rw [follow]
  split
  next e failed => cases shown.symm.trans failed
  next other shown' =>
    cases shown.symm.trans shown'
    split
    next nothing => cases nothing.symm.trans more
    next last' more' =>
      cases more.symm.trans more'
      rfl

/-- Following the cursor shows the pages of the items. -/
theorem follow_pages (read : svc.readItems table now requested ticker limit = .ok (instant, items))
    (cursor : Option UUID) : ∃ pages, svc.follow table now requested ticker limit cursor = .ok pages ∧
      pages.map (fun page => page.items) =
        Keyset.pages RegistryItem.key limit.toNat items (cursor.map UUID.val) ∧
      ∀ page ∈ pages, page.asOf = instant ∧ page.totalRelationships = items.length := by
  induction cursor using follow.induct svc table now requested ticker limit with
  | case1 cursor e failed =>
    rw [snapshot_eq read] at failed
    cases failed
  | case2 cursor page shown nothing =>
    refine ⟨[page], follow_last shown nothing, ?_⟩
    rw [snapshot_eq read] at shown
    cases shown
    have cursor_eq := pageOf_cursor svc instant items limit.toNat cursor
    rw [nothing] at cursor_eq
    rw [Keyset.pages_last cursor_eq.symm]
    exact ⟨rfl, fun page listed => List.mem_singleton.mp listed ▸ ⟨rfl, rfl⟩⟩
  | case3 cursor page shown last more ih =>
    obtain ⟨others, followed, shown_, each⟩ := ih
    refine ⟨page :: others, ?_, ?_⟩
    · rw [follow_more shown more, followed]
      rfl
    rw [snapshot_eq read] at shown
    cases shown
    have cursor_eq := pageOf_cursor svc instant items limit.toNat cursor
    rw [more] at cursor_eq
    rw [Keyset.pages_more cursor_eq.symm, List.map_cons, shown_]
    exact ⟨rfl, List.forall_mem_cons.mpr ⟨⟨rfl, rfl⟩, each⟩⟩

end Following

/-! ### Items -/

/-- The revisions that were recorded by a time, in the order in which they were appended; the
revisions of a scan come newest first. -/
def recordedBy (instant : Time) (revisions : List RegistryRevision) : List RegistryRevision :=
  revisions.reverse.filter fun revision => decide (revision.createdAt ≤ instant)

theorem latestBy_get? (instant : Time) (revisions : List RegistryRevision) (id : UUID) :
    (latestBy instant revisions).get? id = latestOf id (recordedBy instant revisions) := by
  unfold latestBy recordedBy
  induction revisions.reverse using List.reverseRecOn with
  | nil => rfl
  | append_singleton earlier last ih =>
    rw [List.foldl_append, List.foldl_cons, List.foldl_nil, List.filter_append]
    by_cases recorded : last.createdAt ≤ instant
    · rw [if_pos recorded, Dict.get?_set, ih]
      simp [recorded, FederalRegistryService.latestOf_append]
    · rw [if_neg recorded, ih]
      simp [recorded]

theorem latestOf_some {id : UUID} {revision : RegistryRevision}
    (latest : latestOf id revisions = some revision) :
    revision ∈ revisions ∧ revision.relationshipId = id := by
  have member := List.mem_of_getLast? latest
  obtain ⟨listed, same⟩ := List.mem_filter.mp member
  exact ⟨listed, by simpa [FederalRegistryService.ofRelationship] using same⟩

/-- The relationships that a snapshot is to show. -/
def Shown (instant : Time) (ticker : Option String) (revisions : List RegistryRevision)
    (revision : RegistryRevision) : Prop :=
  latestOf revision.relationshipId (recordedBy instant revisions) = some revision ∧
    svc.hasTicker ticker revision = true

theorem mem_latestBy {instant : Time} {revision : RegistryRevision} :
    revision ∈ (latestBy instant revisions).values ↔
      latestOf revision.relationshipId (recordedBy instant revisions) = some revision := by
  rw [Dict.mem_values]
  constructor
  · rintro ⟨id, found⟩
    rw [latestBy_get?] at found
    rw [(latestOf_some found).2, found]
  · intro latest
    exact ⟨revision.relationshipId, by rw [latestBy_get?, latest]⟩

/-- No two relationships share an identifier. -/
theorem latestBy_distinct (instant : Time) (revisions : List RegistryRevision) :
    Distinguished (fun r : RegistryRevision => r.relationshipId.val)
      (latestBy instant revisions).values := by
  have keys : (latestBy instant revisions).values.map (fun r => r.relationshipId) =
      (latestBy instant revisions).keys := by
    rw [Dict.values, Dict.keys, List.map_map]
    refine List.map_congr_left fun entry listed => ?_
    have found := Dict.mem_entries.mp listed
    rw [latestBy_get?] at found
    exact (latestOf_some found).2
  have distinct : ((latestBy instant revisions).values.map (fun r => r.relationshipId)).Nodup :=
    keys ▸ (latestBy instant revisions).distinct
  exact (List.pairwise_map.mp distinct).imp fun differs same => differs (congrArg UUID.mk same)

variable {svc}

theorem items_distinct (instant : Time) (ticker : Option String)
    (revisions : List RegistryRevision) : Distinguished RegistryItem.key
      (((latestBy instant revisions).values.filter (svc.hasTicker ticker)).map (svc.item instant)) :=
  List.pairwise_map.mpr ((latestBy_distinct instant revisions).filter _)

theorem items_sorted (instant : Time) (ticker : Option String) (revisions : List RegistryRevision) :
    (svc.items instant ticker revisions).Pairwise fun x y => x.key < y.key :=
  ranking_strict (items_distinct instant ticker revisions)

theorem mem_items {instant : Time} {ticker : Option String} {item : RegistryItem} :
    item ∈ svc.items instant ticker revisions ↔
      svc.Shown instant ticker revisions item.revision ∧ item = svc.item instant item.revision := by
  rw [items, (ranking_perm _ _).mem_iff]
  simp only [List.mem_map, List.mem_filter, mem_latestBy]
  constructor
  · rintro ⟨revision, ⟨latest, fits⟩, rfl⟩
    exact ⟨⟨latest, fits⟩, rfl⟩
  · rintro ⟨⟨latest, fits⟩, same⟩
    exact ⟨item.revision, ⟨latest, fits⟩, same.symm⟩

/-! ### The results of scans and of pages -/

/-- The error of a stored revision that is not valid. -/
def invalidRevision : RegistryExc := .integrity "stored federal revision failed integrity validation"

theorem decodePayload_error {payload : Json} {e : RegistryExc}
    (failed : svc.decodePayload payload = .error e) : e = invalidRevision := by
  unfold decodePayload at failed
  split at failed
  · cases failed
    rfl
  · unfold FederalRegistryService.decode at failed
    dsimp only at failed
    split at failed
    · cases failed
      rfl
    · cases failed

theorem decodeRows_error {rows : List (AuditRow Json)} {e : RegistryExc}
    (failed : svc.decodeRows rows = .error e) :
    ∃ row ∈ rows, svc.decodePayload row.payload = .error e :=
  mapM_error failed

theorem decodeRows_ok {rows : List (AuditRow Json)} :
    (∃ revisions, svc.decodeRows rows = .ok revisions) ↔
      ∀ row ∈ rows, ∃ revision, svc.decodePayload row.payload = .ok revision := by
  constructor
  · rintro ⟨revisions, read⟩ row member
    obtain ⟨before, behind, rfl⟩ := List.append_of_mem member
    rw [decodeRows_append] at read
    obtain ⟨_, -, read⟩ := bind_ok read
    obtain ⟨_, read, -⟩ := bind_ok read
    rw [decodeRows, List.mapM_cons] at read
    obtain ⟨revision, decoded, -⟩ := bind_ok read
    exact ⟨revision, decoded⟩
  · intro each
    cases read : svc.decodeRows rows with
    | ok revisions => exact ⟨revisions, rfl⟩
    | error e =>
      obtain ⟨row, member, failed⟩ := decodeRows_error read
      obtain ⟨revision, decoded⟩ := each row member
      cases failed.symm.trans decoded

/-- A scan returns every matching revision once, the newest first, or refuses: for a row that is
not valid, or for too many rows once the pages before the last one are decoded. -/
structure ScanExact (svc : RegistryReader) (table : RegistryTable)
    (relationshipId : Option UUID) : Prop where
  newestFirst : (newest table relationshipId).Pairwise
    fun a b => b.appendSequence < a.appendSequence
  complete : ∀ row, row ∈ newest table relationshipId ↔
    row ∈ table.rows ∧ matching relationshipId row.payload = true
  returned : ∀ revisions, svc.allRevisions table relationshipId = .ok revisions ↔
    (newest table relationshipId).length ≤ svc.maximumScanRecords ∧
      List.Forall₂ (fun row revision => svc.decodePayload row.payload = .ok revision)
        (newest table relationshipId) revisions
  limited : svc.allRevisions table relationshipId = .error scanLimit ↔
    svc.maximumScanRecords < (newest table relationshipId).length ∧
      ∀ row ∈ (newest table relationshipId).take (500 * (svc.maximumScanRecords / 500)),
        ∃ revision, svc.decodePayload row.payload = .ok revision
  refused : ∀ e, svc.allRevisions table relationshipId = .error e → e = scanLimit ∨
    e = invalidRevision ∧ ∃ row ∈ newest table relationshipId,
      svc.decodePayload row.payload = .error e

theorem scanExact (svc : RegistryReader) (table : RegistryTable) (relationshipId : Option UUID) :
    svc.ScanExact table relationshipId := by
  have read := svc.allRevisions_eq table relationshipId
  have ordered : (newest table relationshipId).Pairwise
      fun a b => b.appendSequence < a.appendSequence :=
    List.pairwise_reverse.mpr (table.increasing.sublist List.filter_sublist)
  have complete : ∀ row, row ∈ newest table relationshipId ↔
      row ∈ table.rows ∧ matching relationshipId row.payload = true := by
    intro row
    rw [newest, List.mem_reverse, AuditRow.mem_matching]
  by_cases fits : (newest table relationshipId).length ≤ svc.maximumScanRecords
  · have all : svc.allRevisions table relationshipId =
        svc.decodeRows (newest table relationshipId) := by
      rw [read, outcome, if_pos fits]
    refine ⟨ordered, complete, fun revisions => ?_, ?_, fun e failed => ?_⟩
    · rw [all, and_iff_right fits]
      exact mapM_ok_iff
    · refine ⟨fun failed => ?_, fun many => absurd many.1 (not_lt.mpr fits)⟩
      obtain ⟨row, -, invalid⟩ := decodeRows_error (all ▸ failed)
      cases decodePayload_error invalid
    · obtain ⟨row, member, invalid⟩ := decodeRows_error (all ▸ failed)
      exact Or.inr ⟨decodePayload_error invalid, row, member, invalid⟩
  · have all : svc.allRevisions table relationshipId = (do
        let _ ← svc.decodeRows
          ((newest table relationshipId).take (500 * (svc.maximumScanRecords / 500)))
        .error scanLimit) := by
      rw [read, outcome, if_neg fits]
    refine ⟨ordered, complete, fun revisions => ?_, ?_, fun e failed => ?_⟩
    · constructor
      · intro returned
        obtain ⟨_, -, impossible⟩ := bind_ok (all ▸ returned)
        cases impossible
      · exact fun returned => absurd returned.1 fits
    · rw [and_iff_right (not_le.mp fits), ← decodeRows_ok, all]
      cases decoded : svc.decodeRows
          ((newest table relationshipId).take (500 * (svc.maximumScanRecords / 500))) with
      | ok revisions => exact ⟨fun _ => ⟨revisions, rfl⟩, fun _ => rfl⟩
      | error e =>
        obtain ⟨row, -, invalid⟩ := decodeRows_error decoded
        cases decodePayload_error invalid
        constructor
        · intro impossible
          cases impossible
        · rintro ⟨_, impossible⟩
          cases impossible
    · cases decoded : svc.decodeRows
          ((newest table relationshipId).take (500 * (svc.maximumScanRecords / 500))) with
      | ok revisions =>
        rw [all, decoded] at failed
        cases failed
        exact Or.inl rfl
      | error e' =>
        rw [all, decoded] at failed
        cases failed
        obtain ⟨row, member, invalid⟩ := decodeRows_error decoded
        exact Or.inr ⟨decodePayload_error invalid, row, List.mem_of_mem_take member, invalid⟩

/-- Items that are the relationships of a snapshot, each once, in the order of their keys. -/
structure Visits (svc : RegistryReader) (instant : Time) (ticker : Option String)
    (revisions : List RegistryRevision) (items : List RegistryItem) : Prop where
  sorted : items.Pairwise fun x y => x.key < y.key
  shown : ∀ revision, (∃ item ∈ items, item.revision = revision) ↔
    svc.Shown instant ticker revisions revision
  judged : ∀ item ∈ items, item = svc.item instant item.revision

theorem visits_items (instant : Time) (ticker : Option String)
    (revisions : List RegistryRevision) :
    svc.Visits instant ticker revisions (svc.items instant ticker revisions) where
  sorted := items_sorted instant ticker revisions
  shown revision := by
    constructor
    · rintro ⟨item, listed, rfl⟩
      exact (mem_items.mp listed).1
    · intro shown
      exact ⟨svc.item instant revision, mem_items.mpr ⟨shown, rfl⟩, rfl⟩
  judged item listed := (mem_items.mp listed).2

section Reading

variable {now : Time} {requested : Option Datetime} {ticker : Option String} {limit : ℤ}

theorem readItems_ok {instant : Time} {items : List RegistryItem}
    (read : svc.readItems table now requested ticker limit = .ok (instant, items)) :
    asOf requested now = .ok instant ∧ (1 ≤ limit ∧ limit ≤ 200) ∧
      ∃ revisions, svc.allRevisions table none = .ok revisions ∧
        validateChain revisions = .ok () ∧ items = svc.items instant ticker revisions := by
  obtain ⟨instant', timely, read⟩ := bind_ok read
  split at read
  · cases read
  next bounds =>
  obtain ⟨revisions, scanned, read⟩ := bind_ok read
  obtain ⟨⟨⟩, valid, read⟩ := bind_ok read
  cases read
  exact ⟨timely, not_not.mp bounds, revisions, scanned, valid, rfl⟩

/-- Following the cursor from the first page on shows all items. -/
theorem follow_visits {first : RegistryPage}
    (shown : svc.snapshot table now requested ticker limit none = .ok first) :
    ∃ revisions pages, svc.allRevisions table none = .ok revisions ∧
      svc.follow table now requested ticker limit none = .ok pages ∧
      svc.Visits first.asOf ticker revisions (pages.flatMap fun page => page.items) ∧
      ∀ page ∈ pages, page.asOf = first.asOf ∧
        page.totalRelationships = (pages.flatMap fun page => page.items).length := by
  obtain ⟨instant, items, read, rfl⟩ := snapshot_ok shown
  obtain ⟨pages, followed, split, each⟩ := follow_pages read none
  obtain ⟨-, bounds, revisions, scanned, -, rfl⟩ := readItems_ok read
  have all : (pages.flatMap fun page => page.items) = svc.items instant ticker revisions := by
    rw [List.flatMap_def, split, Keyset.pages_flatten (items_sorted instant ticker revisions)
      (by omega)]
    rfl
  refine ⟨revisions, pages, scanned, followed, ?_, ?_⟩
  · rw [all]
    exact visits_items instant ticker revisions
  · rw [all]
    exact each

theorem asOf_again {instant : Time} (timely : asOf requested now = .ok instant) :
    asOf (some (.aware instant)) now = .ok instant := by
  have before : instant ≤ now := by
    cases requested with
    | none =>
      cases timely
      exact le_rfl
    | some value =>
      cases value with
      | naive wall => cases timely
      | aware utc =>
        rw [asOf] at timely
        split at timely
        · cases timely
        next later =>
          cases timely
          exact not_lt.mp later
  rw [asOf, if_neg (not_lt.mpr before)]

theorem readItems_again {instant : Time} (timely : asOf requested now = .ok instant) :
    svc.readItems table now (some (.aware instant)) ticker limit =
      svc.readItems table now requested ticker limit := by
  rw [readItems, readItems, asOf_again timely, timely]

/-- A score that weighs each of some items once. -/
structure Weighs (svc : RegistryReader) (items : List RegistryItem) (score : RegistryScore) :
    Prop where
  included : score.includedRelationshipIds =
    (items.filter fun item => item.eligibleForResearchScore).map
      fun item => item.revision.relationshipId
  excluded : score.excludedRelationshipIds =
    (items.filter fun item => !item.eligibleForResearchScore).map
      fun item => item.revision.relationshipId
  value : score.score = FederalExposureScorer.score
    ((items.filter fun item => item.eligibleForResearchScore).map
      fun item => svc.detailsOf item.revision.relationship.details)

/-- A score is the one of all items of the snapshot. -/
theorem score_weighs {ticker : String} {first : RegistryPage}
    (shown : svc.snapshot table now requested (some ticker) 200 none = .ok first) :
    ∃ revisions items score, svc.allRevisions table none = .ok revisions ∧
      svc.score table now requested ticker = .ok score ∧ score.asOf = first.asOf ∧
      svc.Visits first.asOf (some ticker) revisions items ∧ svc.Weighs items score := by
  obtain ⟨instant, items, read, first_eq⟩ := snapshot_ok shown
  obtain ⟨timely, -⟩ := readItems_ok read
  have again : svc.snapshot table now (some (.aware instant)) (some ticker) 200 none =
      .ok first := by
    rw [snapshot, readItems_again timely]
    exact shown
  obtain ⟨revisions, pages, scanned, followed, visits, -⟩ := follow_visits again
  refine ⟨revisions, pages.flatMap fun page => page.items,
    svc.scoreOf instant ticker (pages.flatMap fun page => page.items), scanned, ?_, ?_, visits,
    ⟨rfl, rfl, rfl⟩⟩
  · rw [score, timely]
    change (svc.follow table now (some (.aware instant)) (some ticker) 200 none >>= _) = _
    rw [followed]
    rfl
  · rw [first_eq]
    rfl

end Reading

/-- Scans are exact, and following the cursor of a snapshot from its first page on, as a score
does, shows every relationship once. -/
theorem scans_and_pages_exact (svc : RegistryReader) (table : RegistryTable) :
    (∀ relationshipId, svc.ScanExact table relationshipId) ∧
    (∀ now requested ticker limit first,
      svc.snapshot table now requested ticker limit none = .ok first →
        ∃ revisions pages, svc.allRevisions table none = .ok revisions ∧
          svc.follow table now requested ticker limit none = .ok pages ∧
          svc.Visits first.asOf ticker revisions (pages.flatMap fun page => page.items) ∧
          ∀ page ∈ pages, page.asOf = first.asOf ∧
            page.totalRelationships = (pages.flatMap fun page => page.items).length) ∧
    ∀ now requested ticker first,
      svc.snapshot table now requested (some ticker) 200 none = .ok first →
        ∃ revisions items score, svc.allRevisions table none = .ok revisions ∧
          svc.score table now requested ticker = .ok score ∧ score.asOf = first.asOf ∧
          svc.Visits first.asOf (some ticker) revisions items ∧ svc.Weighs items score :=
  ⟨svc.scanExact table, fun _ _ _ _ _ shown => follow_visits shown,
    fun _ _ _ _ shown => score_weighs shown⟩

end RegistryReader

namespace RegistrySample

open RegistryReader

/-- A revision as it is stored under an identifier: its last digit is the relationship, and one
beyond ten replaces the revision ten before it. The relationship 9 was never verified. -/
def recorded (id : ℕ) : RegistryRevision where
  createdAt := id / 10
  revisionId := ⟨id⟩
  relationshipId := ⟨id % 10⟩
  previousRevisionId := if id < 10 then none else some ⟨id - 10⟩
  actor := "editor"
  reason := "new"
  relationship :=
    { createdAt := 0
      relationshipId := ⟨id % 10⟩
      details := .obj []
      announcementDate := 0
      primarySourceUrl := "energy.gov"
      sourcePublicationDate := 0
      lastVerifiedAt := if id = 9 then none else some 0
      sourceAvailableAt := some 0 }
  revisionHash := "new"

/-- A reader to whom a revision is the number of its identifier. -/
def reader : RegistryReader where
  toFederalRegistryService := service
  modelValidate := fun payload => match payload with
    | .int id => some (recorded id.toNat)
    | _ => none
  detailsOf := fun _ =>
    { ticker := "ABC", agency := "DOE", relationshipType := .majorFinancing, confidence := ⟨1, 0⟩ }
  policyVersion := "federal-reference-policy-v1"
  maximumVerificationAgeDays := 90

theorem one_numbered (payload : Json) :
    ∀ row ∈ [(⟨1, payload⟩ : AuditRow Json)], 0 < row.appendSequence := by
  intro row listed
  rw [List.mem_singleton.mp listed]
  exact Nat.one_pos

/-- A table of one row. -/
def oneRow (payload : Json) : RegistryTable where
  rows := [⟨1, payload⟩]
  increasing := List.pairwise_singleton _ _
  numbered := one_numbered payload

theorem several_numbered :
    ∀ row ∈ [(⟨1, .int 7⟩ : AuditRow Json), ⟨2, .int 9⟩, ⟨4, .int 17⟩, ⟨5, .int 8⟩],
      0 < row.appendSequence := by
  simp

/-- Three relationships, the first of them revised. -/
def severalRows : RegistryTable where
  rows := [⟨1, .int 7⟩, ⟨2, .int 9⟩, ⟨4, .int 17⟩, ⟨5, .int 8⟩]
  increasing := by simp [AuditRow.Increasing]
  numbered := several_numbered

theorem allRevisions_severalRows : reader.allRevisions severalRows none =
    .ok [recorded 8, recorded 17, recorded 9, recorded 7] := by
  rw [allRevisions_eq]
  rfl

/-- The items in the order of their relationships, whatever order they were recorded in. -/
theorem items_severalRows (ticker : Option String)
    (named : ∀ id, reader.hasTicker ticker (recorded id) = true) :
    reader.items 5 ticker [recorded 8, recorded 17, recorded 9, recorded 7] =
      [reader.item 5 (recorded 17), reader.item 5 (recorded 8), reader.item 5 (recorded 9)] := by
  have latest : (RegistryReader.latestBy 5 [recorded 8, recorded 17, recorded 9, recorded 7]).values =
      [recorded 17, recorded 9, recorded 8] := rfl
  have keys (id : ℕ) : RegistryItem.key (reader.item 5 (recorded id)) = id % 10 := rfl
  rw [items, latest]
  simp [named, ranking, List.mergeSort, List.MergeSort.Internal.splitInTwo, keys]

theorem snapshot_severalRows (ticker : Option String) (limit : ℤ) (cursor : Option UUID)
    (bounds : 1 ≤ limit ∧ limit ≤ 200)
    (named : ∀ id, reader.hasTicker ticker (recorded id) = true) :
    reader.snapshot severalRows 5 none ticker limit cursor =
      .ok (reader.pageOf 5 limit.toNat cursor
        [reader.item 5 (recorded 17), reader.item 5 (recorded 8), reader.item 5 (recorded 9)]) := by
  refine snapshot_eq ?_ cursor
  rw [readItems, ← items_severalRows ticker named, allRevisions_severalRows]
  change (if ¬ (1 ≤ limit ∧ limit ≤ 200) then _ else _) = _
  rw [if_neg (not_not.mpr bounds)]
  rfl

end RegistrySample

namespace RegistryReader

open RegistrySample

theorem scans_and_pages_exact_severalRows :
    (∃ revisions pages, reader.allRevisions severalRows none = .ok revisions ∧
      reader.follow severalRows 5 none none 2 none = .ok pages ∧
      pages.map (fun page => page.items.map RegistryItem.key) = [[7, 8], [9]] ∧
      reader.Visits 5 none revisions (pages.flatMap fun page => page.items) ∧
      ∀ page ∈ pages, page.asOf = 5 ∧
        page.totalRelationships = (pages.flatMap fun page => page.items).length) ∧
    ∃ revisions items score, reader.allRevisions severalRows none = .ok revisions ∧
      reader.score severalRows 5 none "ABC" = .ok score ∧ score.asOf = 5 ∧
      reader.Visits 5 (some "ABC") revisions items ∧ reader.Weighs items score := by
  obtain ⟨-, pages_exact, score_exact⟩ := reader.scans_and_pages_exact severalRows
  have first := snapshot_severalRows none 2 none (by norm_num) fun _ => rfl
  have second := snapshot_severalRows none 2 (some ⟨8⟩) (by norm_num) fun _ => rfl
  refine ⟨?_, score_exact 5 none "ABC" _
    (snapshot_severalRows (some "ABC") 200 none (by norm_num) fun _ => rfl)⟩
  obtain ⟨revisions, pages, scanned, followed, visits, each⟩ := pages_exact 5 none none 2 _ first
  refine ⟨revisions, pages, scanned, followed, ?_, visits, each⟩
  have cursor : (reader.pageOf 5 2 none [reader.item 5 (recorded 17), reader.item 5 (recorded 8),
      reader.item 5 (recorded 9)]).nextAfterRelationshipId = some ⟨8⟩ := rfl
  rw [follow_more first cursor, follow_last second rfl] at followed
  cases followed
  rfl

/-- A scan neither returns a row that is not valid nor calls it one too many. -/
theorem invalid_row_refused :
    ¬ ((∃ revisions, reader.allRevisions (oneRow .null) none = .ok revisions) ∨
      reader.allRevisions (oneRow .null) none = .error scanLimit) ∧
    (newest (oneRow .null) none).length ≤ reader.maximumScanRecords := by
  have refused : reader.allRevisions (oneRow .null) none = .error invalidRevision := by
    rw [allRevisions_eq]
    rfl
  refine ⟨?_, by decide⟩
  rw [refused]
  rintro (⟨revisions, returned⟩ | limited)
  · cases returned
  · cases limited

end RegistryReader

end Sentry
