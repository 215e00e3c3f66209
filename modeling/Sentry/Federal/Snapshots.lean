import Sentry.Federal.Registry
import Sentry.Market.Models
import Sentry.Support.Decimal
import Sentry.Support.Keyset
import Sentry.Support.Ranking

/-!
# Snapshots of the federal registry

`_all_revisions`, `_item`, `snapshot` and `score` of `app/federal/service.py` over a table that
is not written meanwhile, with `FederalExposureScorer` of `app/federal/registry.py`. What the
schema library makes of a stored payload, and of the details of a relationship, are parameters.
-/
namespace Sentry

open Support

/-! ### Scores -/

inductive RelationshipType where
  | commonEquity | warrantOrPreferred | strategicInvestment | majorFinancing | contractOrProgram
  | indirectPolicy | none
  deriving DecidableEq, Repr

def RelationshipType.value : RelationshipType → String
  | .commonEquity => "COMMON_EQUITY"
  | .warrantOrPreferred => "WARRANT_OR_PREFERRED"
  | .strategicInvestment => "STRATEGIC_INVESTMENT"
  | .majorFinancing => "MAJOR_FINANCING"
  | .contractOrProgram => "CONTRACT_OR_PROGRAM"
  | .indirectPolicy => "INDIRECT_POLICY"
  | .none => "NONE"

/-- The fields of a relationship's details that are read. -/
structure FederalDetails where
  ticker : String
  agency : String
  relationshipType : RelationshipType
  effectiveDate : Option Date := none
  endDate : Option Date := none
  confidence : Decimal
  active : Bool := true

structure ExposureScore where
  value : ℚ
  version : String
  explanation : List String
  deriving DecidableEq

namespace FederalExposureScorer

def version : String := "federal-exposure-v1"

def base : RelationshipType → ℚ
  | .commonEquity => 95
  | .warrantOrPreferred => 85
  | .strategicInvestment => 82
  | .majorFinancing => 72
  | .contractOrProgram => 55
  | .indirectPolicy => 30
  | .none => 0

/-- A confidence has so few digits that no product of it is rounded. -/
def confidenceAdjusted (details : FederalDetails) : ℚ :=
  base details.relationshipType * details.confidence.val

def explain (details : FederalDetails) : String :=
  details.agency ++ ":" ++ details.relationshipType.value ++ " confidence=" ++
    details.confidence.str

def score (relationships : List FederalDetails) : ExposureScore :=
  let active := relationships.filter fun details => details.active
  -- a sort in reverse leaves equal components in their order
  let components := active.mergeSort fun x y =>
    decide (confidenceAdjusted y ≤ confidenceAdjusted x)
  match components with
  | [] =>
    { value := 0, version := version, explanation := ["no active verified relationship"] }
  | highest :: _ =>
    let agencies := (components.map fun details => details.agency).dedup
    let diversityBonus : ℚ := min 5 ((agencies.length - 1 : ℕ) * 2)
    { value := Decimal.quantize 2 (min 100 (confidenceAdjusted highest + diversityBonus))
      version := version
      explanation := (components.take 5).map explain }

end FederalExposureScorer

/-! ### Items and pages -/

inductive EvidenceStatus where
  | verifiedReference | unverified | stale | inactive | ended | notEffective | sourceNotApproved
  deriving DecidableEq, Repr

structure RegistryItem where
  revision : RegistryRevision
  evidenceStatus : EvidenceStatus
  eligibleForResearchScore : Bool

def RegistryItem.relationshipId (item : RegistryItem) : UUID := item.revision.relationshipId

/-- Identifiers are compared as texts of one width, which is to compare their values. -/
def RegistryItem.key (item : RegistryItem) : ℕ := item.relationshipId.val

structure RegistryPage where
  asOf : Time
  items : List RegistryItem
  nextAfterRelationshipId : Option UUID
  totalRelationships : ℕ
  policyVersion : String

structure RegistryScore where
  ticker : String
  asOf : Time
  score : ExposureScore
  includedRelationshipIds : List UUID
  excludedRelationshipIds : List UUID
  policyVersion : String

/-- The table of the registry, in the order in which its rows were appended. -/
structure RegistryTable where
  rows : List (AuditRow Json)
  increasing : AuditRow.Increasing rows
  numbered : ∀ row ∈ rows, 0 < row.appendSequence

structure RegistryReader extends FederalRegistryService where
  /-- `RegistryRevision.model_validate`. -/
  modelValidate : Json → Option RegistryRevision
  /-- The validated details of a relationship. -/
  detailsOf : Json → FederalDetails
  policyVersion : String
  maximumVerificationAgeDays : ℕ

namespace RegistryReader

open FederalRegistryService (decode acceptsSource validateChain)

variable (svc : RegistryReader)

/-! ### Reading all revisions -/

/-- `_decode`. -/
def decodePayload (payload : Json) : Except RegistryExc RegistryRevision :=
  match svc.modelValidate payload with
  | none => .error (.integrity "stored federal revision failed integrity validation")
  | some revision => svc.decode revision

/-- The filter of a query for a relationship, or for all of them. -/
def matching (relationshipId : Option UUID) (payload : Json) : Bool :=
  match relationshipId with
  | none => true
  | some id =>
    match payload.fields?.bind (Payload.get? "relationship_id") with
    | some (.str text) => text == id.str
    | _ => false

def page (table : RegistryTable) (relationshipId : Option UUID) (limit : ℕ)
    (before : Option ℕ) : List (AuditRow Json) :=
  AuditRow.listPayloads (matching relationshipId) limit before table.rows

def decodeRows (rows : List (AuditRow Json)) : Except RegistryExc (List RegistryRevision) :=
  rows.mapM fun row => svc.decodePayload row.payload

def scanLimit : RegistryExc :=
  .limit "registry scan limit exceeded; narrow the query or revise its explicit limit"

theorem length_decodeRows {rows : List (AuditRow Json)} {revisions : List RegistryRevision}
    (decoded : svc.decodeRows rows = .ok revisions) : revisions.length = rows.length :=
  (mapM_ok_iff.mp decoded).length_eq.symm

/-- The loop of `_all_revisions`, over any pages: a page that is not the last one holds as many
rows as were asked for, and no more than what is left of the bound. -/
def scanFrom (pages : ℕ → Option ℕ → List (AuditRow Json)) (revisions : List RegistryRevision)
    (before : Option ℕ) : Except RegistryExc (List RegistryRevision) :=
  let remaining := svc.maximumScanRecords - revisions.length
  let limit := min 500 (remaining + 1)
  let rows := pages limit before
  if _fits : remaining < rows.length then .error scanLimit
  else
    match _decoded : svc.decodeRows rows with
    | .error e => .error e
    | .ok decoded =>
      match _last : rows.getLast? with
      | none => .ok (revisions ++ decoded)
      | some last =>
        if rows.length < limit then .ok (revisions ++ decoded)
        else if last.appendSequence = 0 ∨
            before.any (fun bound => decide (bound ≤ last.appendSequence)) = true then
          .error (.integrity "registry pagination did not advance")
        else scanFrom pages (revisions ++ decoded) (some last.appendSequence)
termination_by svc.maximumScanRecords - revisions.length
decreasing_by
  have some_ := List.length_pos_of_mem (List.mem_of_getLast? _last)
  have length := svc.length_decodeRows _decoded
  rw [List.length_append, length]
  omega

/-- `_all_revisions`. -/
def allRevisions (table : RegistryTable) (relationshipId : Option UUID) :
    Except RegistryExc (List RegistryRevision) :=
  svc.scanFrom (page table relationshipId) [] none

/-! ### Snapshots -/

/-- `_as_of`. -/
def asOf (requested : Option Datetime) (now : Time) : Except RegistryExc Time :=
  match requested with
  | none => .ok now
  | some (.naive _) =>
    .error (.value "as_of must be timezone-aware and cannot be in the future")
  | some (.aware at_) =>
    if now < at_ then .error (.value "as_of must be timezone-aware and cannot be in the future")
    else .ok at_

/-- The evidence that a relationship has at a time. -/
def evidence (relationship : FederalRelationship) (asOf : Time) : EvidenceStatus :=
  let details := svc.detailsOf relationship.details
  if !details.active then .inactive
  else if details.endDate.any fun date => decide (date < asOf.date) then .ended
  else if details.effectiveDate.any fun date => decide (asOf.date < date) then .notEffective
  else if !svc.acceptsSource relationship.primarySourceUrl then .sourceNotApproved
  else
    match relationship.lastVerifiedAt with
    | none => .unverified
    | some verifiedAt =>
      if svc.maximumVerificationAgeDays * 86400000000 < asOf - verifiedAt then .stale
      else .verifiedReference

/-- `_item`. -/
def item (asOf : Time) (revision : RegistryRevision) : RegistryItem where
  revision := revision
  evidenceStatus := svc.evidence revision.relationship asOf
  eligibleForResearchScore := svc.evidence revision.relationship asOf == .verifiedReference

/-- The latest revision of every relationship that was recorded by a time. -/
def latestBy (instant : Time) (revisions : List RegistryRevision) : Dict UUID RegistryRevision :=
  revisions.reverse.foldl (fun latest revision =>
    if revision.createdAt ≤ instant then latest.set revision.relationshipId revision else latest)
    .empty

def hasTicker (ticker : Option String) (revision : RegistryRevision) : Bool :=
  ticker.all fun ticker => (svc.detailsOf revision.relationship.details).ticker == ticker

/-- The items of a snapshot before it is cut into pages. -/
def items (instant : Time) (ticker : Option String) (revisions : List RegistryRevision) :
    List RegistryItem :=
  ranking RegistryItem.key
    (((latestBy instant revisions).values.filter (svc.hasTicker ticker)).map (svc.item instant))

/-- What a snapshot reads of the table. -/
def readItems (table : RegistryTable) (now : Time) (requested : Option Datetime)
    (ticker : Option String) (limit : ℤ) : Except RegistryExc (Time × List RegistryItem) := do
  let instant ← asOf requested now
  if ¬ (1 ≤ limit ∧ limit ≤ 200) then
    .error (.value "page limit must be between 1 and 200")
  else
    let revisions ← svc.allRevisions table none
    validateChain revisions
    return (instant, svc.items instant ticker revisions)

def pageOf (instant : Time) (limit : ℕ) (cursor : Option UUID) (items : List RegistryItem) :
    RegistryPage :=
  let rest := Keyset.after RegistryItem.key (cursor.map UUID.val) items
  { asOf := instant
    items := rest.take limit
    nextAfterRelationshipId := Keyset.next RegistryItem.relationshipId limit rest
    totalRelationships := items.length
    policyVersion := svc.policyVersion }

def snapshot (table : RegistryTable) (now : Time) (requested : Option Datetime)
    (ticker : Option String) (limit : ℤ) (cursor : Option UUID) : Except RegistryExc RegistryPage := do
  let (instant, items) ← svc.readItems table now requested ticker limit
  return svc.pageOf instant limit.toNat cursor items

variable {svc} {table : RegistryTable} {now : Time} {requested : Option Datetime}
  {ticker : Option String} {limit : ℤ} {cursor : Option UUID} {page : RegistryPage}

theorem snapshot_ok (shown : svc.snapshot table now requested ticker limit cursor = .ok page) :
    ∃ instant items, svc.readItems table now requested ticker limit = .ok (instant, items) ∧
      page = svc.pageOf instant limit.toNat cursor items := by
  obtain ⟨⟨instant, items⟩, read, shown⟩ := bind_ok shown
  cases shown
  exact ⟨instant, items, read, rfl⟩

theorem pageOf_next {instant : Time} {count : ℕ} {items : List RegistryItem} {last : UUID}
    (more : (svc.pageOf instant count cursor items).nextAfterRelationshipId = some last) :
    Keyset.next RegistryItem.key count
      (Keyset.after RegistryItem.key (cursor.map UUID.val) items) = some last.val := by
  have same := Keyset.next_map RegistryItem.relationshipId UUID.val count
    (Keyset.after RegistryItem.key (cursor.map UUID.val) items)
  exact same.trans (congrArg (Option.map UUID.val) more)

variable (svc table now requested ticker limit)

/-- How many items are beyond a cursor. -/
def beyond (cursor : Option UUID) : ℕ :=
  match svc.readItems table now requested ticker limit with
  | .ok (_, items) => (Keyset.after RegistryItem.key (cursor.map UUID.val) items).length
  | .error _ => 0

variable {svc table now requested ticker limit}

/-- The cursor of a page moves on. -/
theorem beyond_next {last : UUID}
    (shown : svc.snapshot table now requested ticker limit cursor = .ok page)
    (more : page.nextAfterRelationshipId = some last) :
    svc.beyond table now requested ticker limit (some last) <
      svc.beyond table now requested ticker limit cursor := by
  obtain ⟨instant, items, read, rfl⟩ := snapshot_ok shown
  unfold beyond
  rw [read]
  exact Keyset.after_next (pageOf_next more)

variable (svc table now requested ticker limit)

/-- The pages that are read by following a cursor to its end. -/
def follow (cursor : Option UUID) : Except RegistryExc (List RegistryPage) :=
  match _shown : svc.snapshot table now requested ticker limit cursor with
  | .error e => .error e
  | .ok page =>
    match _more : page.nextAfterRelationshipId with
    | none => .ok [page]
    | some last => do
      let others ← follow (some last)
      return page :: others
termination_by svc.beyond table now requested ticker limit cursor
decreasing_by exact beyond_next _shown _more

/-- The score over the items of all pages. -/
def scoreOf (instant : Time) (ticker : String) (items : List RegistryItem) : RegistryScore :=
  let included := items.filter fun item => item.eligibleForResearchScore
  { ticker := ticker
    asOf := instant
    score := FederalExposureScorer.score
      (included.map fun item => svc.detailsOf item.revision.relationship.details)
    includedRelationshipIds := included.map fun item => item.revision.relationshipId
    excludedRelationshipIds := (items.filter fun item => !item.eligibleForResearchScore).map
      fun item => item.revision.relationshipId
    policyVersion := svc.policyVersion }

/-- `score`. It reads pages of 200 items, all of them as of one instant. -/
def score (ticker : String) : Except RegistryExc RegistryScore := do
  let instant ← asOf requested now
  let pages ← svc.follow table now (some (.aware instant)) (some ticker) 200 none
  return svc.scoreOf instant ticker (pages.flatMap fun page => page.items)

end RegistryReader

end Sentry
