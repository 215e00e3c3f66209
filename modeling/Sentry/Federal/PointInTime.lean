import Sentry.Federal.Pages

/-!
# The registry as of a time

A snapshot as of a time reads and validates every revision, those that were recorded later as
well, and shows what was recorded by then. In a valid chain the latest revision of that time is
the one that no other of that time names as its predecessor, so that tables which agree on the
revisions of that time have the same snapshots and scores.
-/
namespace Sentry

open Support

namespace RegistryReader

open FederalRegistryService (ChainState Fits Linked Validated latestOf latestOf_append validateChain)

variable {svc : RegistryReader}

/-! ### Valid chains -/

theorem decode_same {payload : Json} {revision : RegistryRevision}
    (decoded : svc.decodePayload payload = .ok revision) : svc.decode revision = .ok revision := by
  unfold decodePayload at decoded
  split at decoded
  · cases decoded
  next stored _ =>
    have same : stored = revision := by
      unfold FederalRegistryService.decode at decoded
      dsimp only at decoded
      split at decoded
      · cases decoded
      · cases decoded
        rfl
    rw [same] at decoded
    exact decoded

/-- A revision that the validation of a chain takes fits what came before it. -/
theorem fits_of_next {revisions : List RegistryRevision} {revision : RegistryRevision}
    {state state' : ChainState} (validated : Validated revisions state)
    (decoded : svc.decode revision = .ok revision)
    (next : ChainState.next revision state = .ok state') :
    Fits svc.toFederalRegistryService revisions revision ∧
      Validated (revisions ++ [revision]) state' := by
  unfold ChainState.next at next
  dsimp only at next
  rw [validated.latest, validated.seen] at next
  split at next
  · cases next
  next accepted =>
    cases next
    simp only [not_or, not_not] at accepted
    obtain ⟨fresh, parent, ordered⟩ := accepted
    refine ⟨⟨decoded, fresh, parent, fun previous latest => ?_⟩, fun id => ?_, ?_⟩
    · rw [latest] at ordered
      simpa using ordered
    · rw [Dict.get?_set, latestOf_append, validated.latest]
    · simp

theorem linked_of_foldlM {revisions : List RegistryRevision} {state : ChainState}
    (decoded : ∀ r ∈ revisions, svc.decode r = .ok r)
    (folded : revisions.foldlM (fun state revision => ChainState.next revision state) {} =
      .ok state) :
    Linked svc.toFederalRegistryService revisions ∧ Validated revisions state := by
  induction revisions using List.reverseRecOn generalizing state with
  | nil =>
    cases folded
    exact ⟨.nil, fun _ => rfl, rfl⟩
  | append_singleton earlier last ih =>
    rw [List.foldlM_append] at folded
    obtain ⟨before, folded, next⟩ := bind_ok folded
    obtain ⟨linked, validated⟩ := ih (fun r member => decoded r (List.mem_append_left _ member)) folded
    have next : ChainState.next last before = .ok state := by
      obtain ⟨after, next, same⟩ := bind_ok next
      cases same
      exact next
    obtain ⟨fits, validated'⟩ := fits_of_next validated (decoded last (by simp)) next
    exact ⟨.snoc linked fits, validated'⟩

theorem linked_of_validateChain {revisions : List RegistryRevision}
    (decoded : ∀ r ∈ revisions, svc.decode r = .ok r)
    (valid : validateChain revisions.reverse = .ok ()) :
    Linked svc.toFederalRegistryService revisions := by
  unfold FederalRegistryService.validateChain at valid
  rw [List.reverse_reverse] at valid
  obtain ⟨state, folded, -⟩ := bind_ok valid
  exact (linked_of_foldlM decoded folded).1

/-! ### The latest revision of a time -/

/-- The revisions that were recorded by a time, in the order in which they were appended. -/
def upTo (t : Time) (revisions : List RegistryRevision) : List RegistryRevision :=
  revisions.filter fun revision => decide (revision.createdAt ≤ t)

theorem upTo_append (t : Time) (revisions : List RegistryRevision) (last : RegistryRevision) :
    upTo t (revisions ++ [last]) =
      if last.createdAt ≤ t then upTo t revisions ++ [last] else upTo t revisions := by
  by_cases recorded : last.createdAt ≤ t
  · simp [upTo, recorded]
  · simp [upTo, recorded]

/-- What a revision names as its predecessor is an earlier one of the same relationship. -/
theorem linked_parent {revisions : List RegistryRevision}
    (linked : Linked svc.toFederalRegistryService revisions) :
    ∀ s ∈ revisions, ∀ id, s.previousRevisionId = some id →
      ∃ p ∈ revisions, p.revisionId = id ∧ p.relationshipId = s.relationshipId := by
  induction linked with
  | nil => simp
  | @snoc revisions revision _ fits ih =>
    intro s member id names
    rcases List.mem_append.mp member with earlier | last
    · obtain ⟨p, listed, same⟩ := ih s earlier id names
      exact ⟨p, List.mem_append_left _ listed, same⟩
    · obtain rfl := List.mem_singleton.mp last
      rw [fits.parent] at names
      obtain ⟨p, latest, same⟩ := Option.map_eq_some_iff.mp names
      obtain ⟨listed, relationship⟩ := latestOf_some latest
      exact ⟨p, List.mem_append_left _ listed, same, relationship⟩

/-- The latest revision of all is the latest of a time if it was recorded by then. -/
theorem latestOf_upTo {revisions : List RegistryRevision} {id : UUID} {p : RegistryRevision} {t : Time}
    (latest : latestOf id revisions = some p) (recorded : p.createdAt ≤ t) :
    latestOf id (upTo t revisions) = some p := by
  obtain ⟨front, split⟩ := List.getLast?_eq_some_iff.mp latest
  have narrowed : (upTo t revisions).filter (FederalRegistryService.ofRelationship id) =
      (revisions.filter (FederalRegistryService.ofRelationship id)).filter
        fun revision => decide (revision.createdAt ≤ t) := by
    rw [upTo, List.filter_filter, List.filter_filter]
    exact List.filter_congr fun _ _ => Bool.and_comm _ _
  rw [latestOf, narrowed, split, List.filter_append]
  simp [recorded]

/-- The latest revision of a time is the one that no revision of that time follows. -/
theorem latest_iff {revisions : List RegistryRevision}
    (linked : Linked svc.toFederalRegistryService revisions) (t : Time) (id : UUID)
    (r : RegistryRevision) : latestOf id (upTo t revisions) = some r ↔
      (r ∈ revisions ∧ r.relationshipId = id ∧ r.createdAt ≤ t) ∧
        ∀ s ∈ revisions, s.createdAt ≤ t → s.previousRevisionId ≠ some r.revisionId := by
  induction linked with
  | nil => simp [upTo, latestOf]
  | @snoc revisions last linked fits ih =>
    have parents := linked_parent linked
    have distinct := linked.distinct
    -- no revision names the last one, which is new
    have unnamed : ∀ s ∈ revisions ++ [last], s.previousRevisionId ≠ some last.revisionId := by
      intro s member names
      obtain ⟨p, listed, same⟩ : ∃ p ∈ revisions, p.revisionId = last.revisionId := by
        rcases List.mem_append.mp member with earlier | here
        · obtain ⟨p, listed, same, -⟩ := parents s earlier _ names
          exact ⟨p, listed, same⟩
        · rw [List.mem_singleton.mp here, fits.parent] at names
          obtain ⟨p, latest, same⟩ := Option.map_eq_some_iff.mp names
          exact ⟨p, (latestOf_some latest).1, same⟩
      exact fits.fresh (List.mem_map.mpr ⟨p, listed, same⟩)
    rw [upTo_append]
    by_cases recorded : last.createdAt ≤ t
    · rw [if_pos recorded, latestOf_append]
      by_cases same : last.relationshipId = id
      · rw [if_pos same]
        constructor
        · intro here
          cases here
          exact ⟨⟨by simp, same, recorded⟩, fun s member _ => unnamed s member⟩
        · rintro ⟨⟨member, relationship, timely⟩, followed⟩
          rcases List.mem_append.mp member with earlier | here
          · exfalso
            have found : r ∈ revisions.filter (FederalRegistryService.ofRelationship id) :=
              List.mem_filter.mpr ⟨earlier, by simp [FederalRegistryService.ofRelationship, relationship]⟩
            obtain ⟨p, latest⟩ : ∃ p, latestOf id revisions = some p :=
              ⟨_, List.getLast?_eq_some_getLast (List.ne_nil_of_mem found)⟩
            have before := fits.later p (same ▸ latest)
            have latest_r := ih.mpr ⟨⟨earlier, relationship, timely⟩, fun s listed =>
              followed s (List.mem_append_left _ listed)⟩
            rw [latestOf_upTo latest (before.trans recorded)] at latest_r
            cases latest_r
            refine followed last (by simp) recorded ?_
            rw [fits.parent, same, latest]
            rfl
          · rw [List.mem_singleton.mp here]
      · rw [if_neg same, ih]
        constructor
        · rintro ⟨⟨member, relationship, timely⟩, followed⟩
          refine ⟨⟨List.mem_append_left _ member, relationship, timely⟩, fun s listed early => ?_⟩
          rcases List.mem_append.mp listed with earlier | here
          · exact followed s earlier early
          · rw [List.mem_singleton.mp here, fits.parent]
            intro names
            obtain ⟨p, latest, named⟩ := Option.map_eq_some_iff.mp names
            obtain ⟨listed, other⟩ := latestOf_some latest
            -- identifiers are distinct, so that this is a revision of the same relationship
            have equal : p = r := List.inj_on_of_nodup_map distinct listed member named
            rw [equal, relationship] at other
            exact same other.symm
        · rintro ⟨⟨member, relationship, timely⟩, followed⟩
          rcases List.mem_append.mp member with earlier | here
          · exact ⟨⟨earlier, relationship, timely⟩, fun s listed =>
              followed s (List.mem_append_left _ listed)⟩
          · rw [List.mem_singleton.mp here] at relationship
            exact absurd relationship same
    · rw [if_neg recorded, ih]
      constructor
      · rintro ⟨⟨member, relationship, timely⟩, followed⟩
        refine ⟨⟨List.mem_append_left _ member, relationship, timely⟩, fun s listed early => ?_⟩
        rcases List.mem_append.mp listed with earlier | here
        · exact followed s earlier early
        · rw [List.mem_singleton.mp here] at early
          exact absurd early recorded
      · rintro ⟨⟨member, relationship, timely⟩, followed⟩
        rcases List.mem_append.mp member with earlier | here
        · exact ⟨⟨earlier, relationship, timely⟩, fun s listed =>
            followed s (List.mem_append_left _ listed)⟩
        · rw [List.mem_singleton.mp here] at timely
          exact absurd timely recorded

/-- The latest revision of its relationship that was recorded by a time: those behind it were
recorded later. -/
def IsLatestBy (t : Time) (revisions : List RegistryRevision) (r : RegistryRevision) : Prop :=
  r.createdAt ≤ t ∧ ∃ before behind, revisions = before ++ r :: behind ∧
    ∀ s ∈ behind, s.relationshipId = r.relationshipId → t < s.createdAt

theorem isLatestBy_of_latestOf {t : Time} {revisions : List RegistryRevision} {id : UUID}
    {r : RegistryRevision} (latest : latestOf id (upTo t revisions) = some r) :
    r.relationshipId = id ∧ IsLatestBy t revisions r := by
  induction revisions using List.reverseRecOn with
  | nil => simp [upTo, latestOf] at latest
  | append_singleton earlier last ih =>
    rw [upTo_append] at latest
    by_cases recorded : last.createdAt ≤ t
    · rw [if_pos recorded, latestOf_append] at latest
      split at latest
      next same =>
        cases latest
        exact ⟨same, recorded, earlier, [], rfl, by simp⟩
      next other =>
        obtain ⟨same, timely, before, behind, split, later⟩ := ih latest
        refine ⟨same, timely, before, behind ++ [last], by simp [split], fun s listed relationship => ?_⟩
        rcases List.mem_append.mp listed with there | here
        · exact later s there relationship
        · rw [List.mem_singleton.mp here, same] at relationship
          exact absurd relationship other
    · rw [if_neg recorded] at latest
      obtain ⟨same, timely, before, behind, split, later⟩ := ih latest
      refine ⟨same, timely, before, behind ++ [last], by simp [split], fun s listed relationship => ?_⟩
      rcases List.mem_append.mp listed with there | here
      · exact later s there relationship
      · rw [List.mem_singleton.mp here]
        exact not_le.mp recorded

/-! ### Tables that agree up to a time -/

/-- A table that a scan can read, whose revisions are a valid chain. -/
structure Valid (svc : RegistryReader) (table : RegistryTable) (revisions : List RegistryRevision) :
    Prop where
  decoded : svc.decodeRows table.rows = .ok revisions
  chain : validateChain revisions.reverse = .ok ()
  fits : table.rows.length ≤ svc.maximumScanRecords

variable {A B table : RegistryTable} {revisions revisionsA revisionsB : List RegistryRevision}
  {t nowA nowB : Time} {ticker : Option String} {limit : ℤ}

theorem Valid.linked (valid : svc.Valid table revisions) :
    Linked svc.toFederalRegistryService revisions := by
  refine linked_of_validateChain (fun r member => ?_) valid.chain
  obtain ⟨row, -, decoded⟩ := exists_of_forall₂ (mapM_ok_iff.mp valid.decoded) r member
  exact decode_same decoded

theorem Valid.scanned (valid : svc.Valid table revisions) :
    svc.allRevisions table none = .ok revisions.reverse := by
  have all : newest table none = table.rows.reverse := by
    have kept : AuditRow.matching (matching none) table.rows = table.rows :=
      List.filter_eq_self.mpr fun _ _ => rfl
    rw [newest, kept]
  refine ((svc.scanExact table none).returned _).mpr ?_
  rw [all, List.length_reverse]
  exact ⟨valid.fits, List.forall₂_reverse_iff.mpr (mapM_ok_iff.mp valid.decoded)⟩

theorem recordedBy_reverse (t : Time) (revisions : List RegistryRevision) :
    recordedBy t revisions.reverse = upTo t revisions := by
  rw [recordedBy, List.reverse_reverse, upTo]

/-- Tables that agree on the revisions of a time have the same latest ones. -/
theorem latest_eq (validA : svc.Valid A revisionsA) (validB : svc.Valid B revisionsB)
    (agree : ∀ r, r.createdAt ≤ t → (r ∈ revisionsA ↔ r ∈ revisionsB)) (id : UUID) :
    latestOf id (upTo t revisionsA) = latestOf id (upTo t revisionsB) := by
  apply Option.ext
  intro r
  rw [latest_iff validA.linked, latest_iff validB.linked]
  constructor
  · rintro ⟨⟨member, same, timely⟩, followed⟩
    exact ⟨⟨(agree r timely).mp member, same, timely⟩, fun s listed early =>
      followed s ((agree s early).mpr listed) early⟩
  · rintro ⟨⟨member, same, timely⟩, followed⟩
    exact ⟨⟨(agree r timely).mpr member, same, timely⟩, fun s listed early =>
      followed s ((agree s early).mp listed) early⟩

theorem items_eq (validA : svc.Valid A revisionsA) (validB : svc.Valid B revisionsB)
    (agree : ∀ r, r.createdAt ≤ t → (r ∈ revisionsA ↔ r ∈ revisionsB)) (ticker : Option String) :
    svc.items t ticker revisionsA.reverse = svc.items t ticker revisionsB.reverse := by
  have distinct (revisions : List RegistryRevision) : (latestBy t revisions).values.Nodup :=
    (latestBy_distinct t revisions).imp fun differs same =>
      differs (congrArg (fun r : RegistryRevision => r.relationshipId.val) same)
  have same : (latestBy t revisionsA.reverse).values.Perm (latestBy t revisionsB.reverse).values := by
    refine (List.perm_ext_iff_of_nodup (distinct _) (distinct _)).mpr fun r => ?_
    rw [mem_latestBy, mem_latestBy, recordedBy_reverse, recordedBy_reverse,
      latest_eq validA validB agree]
  exact ranking_eq_of_perm (items_distinct t ticker revisionsA.reverse)
    ((same.filter _).map _)

theorem asOf_aware (t now : Time) : asOf (some (.aware t)) now =
    if now < t then .error (.value "as_of must be timezone-aware and cannot be in the future")
    else .ok t :=
  rfl

theorem asOf_eq (clocks : t ≤ nowA ↔ t ≤ nowB) :
    asOf (some (.aware t)) nowA = asOf (some (.aware t)) nowB := by
  rw [asOf_aware, asOf_aware]
  by_cases past : t ≤ nowA
  · rw [if_neg (not_lt.mpr past), if_neg (not_lt.mpr (clocks.mp past))]
  · rw [if_pos (not_le.mp past), if_pos (not_le.mp fun other => past (clocks.mpr other))]

theorem asOf_ok {now instant : Time} (timely : asOf (some (.aware t)) now = .ok instant) :
    instant = t := by
  rw [asOf_aware] at timely
  split at timely
  · cases timely
  · cases timely
    rfl

theorem snapshot_agree (validA : svc.Valid A revisionsA) (validB : svc.Valid B revisionsB)
    (clocks : t ≤ nowA ↔ t ≤ nowB)
    (agree : ∀ r, r.createdAt ≤ t → (r ∈ revisionsA ↔ r ∈ revisionsB)) (ticker : Option String)
    (limit : ℤ) (cursor : Option UUID) :
    svc.snapshot A nowA (some (.aware t)) ticker limit cursor =
      svc.snapshot B nowB (some (.aware t)) ticker limit cursor := by
  have read : svc.readItems A nowA (some (.aware t)) ticker limit =
      svc.readItems B nowB (some (.aware t)) ticker limit := by
    unfold readItems
    rw [asOf_eq clocks, validA.scanned, validB.scanned]
    cases timely : asOf (some (.aware t)) nowB with
    | error e => rfl
    | ok instant =>
      obtain rfl := asOf_ok timely
      change (if _ then _ else _) = (if _ then _ else _)
      split
      · rfl
      · change (validateChain _ >>= _) = (validateChain _ >>= _)
        rw [validA.chain, validB.chain]
        change Except.ok (instant, svc.items instant ticker revisionsA.reverse) = _
        rw [items_eq validA validB agree ticker]
        rfl
  rw [snapshot, read]
  rfl

theorem follow_agree (same : ∀ cursor, svc.snapshot A nowA (some (.aware t)) ticker limit cursor =
      svc.snapshot B nowB (some (.aware t)) ticker limit cursor) (cursor : Option UUID) :
    svc.follow A nowA (some (.aware t)) ticker limit cursor =
      svc.follow B nowB (some (.aware t)) ticker limit cursor := by
  induction cursor using follow.induct svc A nowA (some (.aware t)) ticker limit with
  | case1 cursor e failed =>
    rw [follow_error failed, follow_error ((same cursor).symm.trans failed)]
  | case2 cursor page shown nothing =>
    rw [follow_last shown nothing, follow_last ((same cursor).symm.trans shown) nothing]
  | case3 cursor page shown last more ih =>
    rw [follow_more shown more, follow_more ((same cursor).symm.trans shown) more, ih]

theorem score_agree (validA : svc.Valid A revisionsA) (validB : svc.Valid B revisionsB)
    (clocks : t ≤ nowA ↔ t ≤ nowB)
    (agree : ∀ r, r.createdAt ≤ t → (r ∈ revisionsA ↔ r ∈ revisionsB)) (ticker : String) :
    svc.score A nowA (some (.aware t)) ticker = svc.score B nowB (some (.aware t)) ticker := by
  have followed := follow_agree (snapshot_agree validA validB clocks agree (some ticker) 200) none
  unfold score
  rw [asOf_eq clocks]
  cases timely : asOf (some (.aware t)) nowB with
  | error e => rfl
  | ok instant =>
    obtain rfl := asOf_ok timely
    change (svc.follow A nowA _ _ _ _ >>= _) = (svc.follow B nowB _ _ _ _ >>= _)
    rw [followed]

/-- Two valid tables that agree on the revisions of a time have the same snapshots and scores as
of it, and every item is the latest revision of its relationship that was recorded by then. -/
theorem point_in_time (svc : RegistryReader) {A B : RegistryTable}
    {revisionsA revisionsB : List RegistryRevision} (validA : svc.Valid A revisionsA)
    (validB : svc.Valid B revisionsB) {t nowA nowB : Time} (clocks : t ≤ nowA ↔ t ≤ nowB)
    (agree : ∀ r, r.createdAt ≤ t → (r ∈ revisionsA ↔ r ∈ revisionsB)) :
    (∀ ticker limit cursor, svc.snapshot A nowA (some (.aware t)) ticker limit cursor =
      svc.snapshot B nowB (some (.aware t)) ticker limit cursor) ∧
    (∀ ticker, svc.score A nowA (some (.aware t)) ticker =
      svc.score B nowB (some (.aware t)) ticker) ∧
    ∀ ticker limit cursor page,
      svc.snapshot A nowA (some (.aware t)) ticker limit cursor = .ok page →
        ∀ item ∈ page.items, IsLatestBy t revisionsA item.revision := by
  refine ⟨snapshot_agree validA validB clocks agree, score_agree validA validB clocks agree, ?_⟩
  intro ticker limit cursor page shown item listed
  obtain ⟨instant, items, read, rfl⟩ := snapshot_ok shown
  obtain ⟨timely, -, revisions, scanned, -, rfl⟩ := readItems_ok read
  obtain rfl := asOf_ok timely
  cases validA.scanned.symm.trans scanned
  obtain ⟨there, -⟩ := Keyset.mem_after (List.mem_of_mem_take listed)
  obtain ⟨⟨latest, -⟩, -⟩ := mem_items.mp there
  rw [recordedBy_reverse] at latest
  exact (isLatestBy_of_latestOf latest).2

end RegistryReader

namespace RegistrySample

open RegistryReader

/-- A later revision of the relationship. -/
def amended : RegistryRevision :=
  { recorded 7 with createdAt := 10, revisionId := ⟨8⟩, previousRevisionId := some ⟨7⟩ }

def historyReader : RegistryReader :=
  { reader with
    modelValidate := fun payload => match payload with
      | .int id => some (recorded id.toNat)
      | .str _ => some amended
      | _ => none }

theorem two_increasing :
    AuditRow.Increasing [(⟨1, .int 7⟩ : AuditRow Json), ⟨2, .str "amended"⟩] := by
  simp [AuditRow.Increasing]

theorem two_numbered :
    ∀ row ∈ [(⟨1, .int 7⟩ : AuditRow Json), ⟨2, .str "amended"⟩], 0 < row.appendSequence := by
  simp

/-- The table after the relationship was revised. -/
def twoRows : RegistryTable := ⟨_, two_increasing, two_numbered⟩

theorem valid_oneRow : historyReader.Valid (oneRow (.int 7)) [recorded 7] := ⟨rfl, rfl, by decide⟩

theorem valid_twoRows : historyReader.Valid twoRows [recorded 7, amended] :=
  ⟨rfl, rfl, by decide⟩

theorem agree_before (r : RegistryRevision) (early : r.createdAt ≤ 5) :
    r ∈ [recorded 7] ↔ r ∈ [recorded 7, amended] := by
  constructor
  · intro listed
    exact List.mem_cons.mpr (Or.inl (List.mem_singleton.mp listed))
  · intro listed
    rcases List.mem_cons.mp listed with first | last
    · exact List.mem_singleton.mpr first
    · rw [List.mem_singleton.mp last] at early
      exact absurd early (by decide)

end RegistrySample

namespace RegistryReader

open RegistrySample

theorem point_in_time_twoRows :
    (∀ ticker limit cursor, historyReader.snapshot (oneRow (.int 7)) 5 (some (.aware 5)) ticker
        limit cursor = historyReader.snapshot twoRows 20 (some (.aware 5)) ticker limit cursor) ∧
      ∀ ticker, historyReader.score (oneRow (.int 7)) 5 (some (.aware 5)) ticker =
        historyReader.score twoRows 20 (some (.aware 5)) ticker :=
  have read := historyReader.point_in_time valid_oneRow valid_twoRows (by decide) agree_before
  ⟨read.1, read.2.1⟩

end RegistryReader

end Sentry
