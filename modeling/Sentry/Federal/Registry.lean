import Sentry.Db.Repository
import Sentry.Domain.Models
import Sentry.Support.Dict
import Sentry.Support.Interleaving

/-!
# The federal registry

`create` and `revise` of `app/federal/service.py`, with the locked append of a revision, the
scan of a relationship's history and the validation of its chain. A revision is stored as it
was built, so a row's payload is the revision itself.
-/
namespace Sentry

open Support Coroutine

/-- A validated draft; `details` are the fields that are only stored. -/
structure RelationshipDraft where
  details : Json
  announcementDate : ℤ
  primarySourceUrl : String
  sourcePublicationDate : ℤ
  lastVerifiedAt : Option Time := none
  sourceAvailableAt : Time

structure FederalRelationship where
  createdAt : Time
  relationshipId : UUID
  details : Json
  announcementDate : ℤ
  primarySourceUrl : String
  sourcePublicationDate : ℤ
  lastVerifiedAt : Option Time
  sourceAvailableAt : Option Time

/-- A revision without its digest. -/
structure RevisionFields where
  createdAt : Time
  revisionId : UUID
  relationshipId : UUID
  previousRevisionId : Option UUID
  actor : String
  reason : String
  relationship : FederalRelationship

structure RegistryRevision extends RevisionFields where
  revisionHash : String

inductive RegistryExc where
  | conflict (text : String)
  | integrity (text : String)
  | limit (text : String)
  | notFound (text : String)
  | value (text : String)
  /-- A cancellation, or a failure of the storage. -/
  | interrupted (text : String)
  deriving DecidableEq

structure FederalRegistryService where
  /-- `sha256_json` of the dumped fields. -/
  digest : RevisionFields → String
  /-- The host of an address, as `urlsplit` finds it. -/
  hostname : String → Option String
  isSpace : Char → Bool
  maximumScanRecords : ℕ
  approvedPrimaryHosts : List String
  /-- The lock that guards a relationship: one for all of them in memory, one for each in
  PostgreSQL, up to a digest. -/
  lockKey : UUID → ℕ

/-- The table, the locks with their holders, and the wall clock. -/
structure RegistryStore where
  rows : List (AuditRow RegistryRevision) := []
  held : ℕ → Option UUID := fun _ => none
  now : Time := 0

inductive RegistryOp where
  | listPayloads (relationshipId : UUID) (beforeSequence : Option ℕ) (limit : ℕ)
  | lock (key : ℕ) (holder : UUID)
  | latest (relationshipId : UUID)
  | append (revision : RegistryRevision)

abbrev RegistryAns : RegistryOp → Type
  | .listPayloads _ _ _ => List (AuditRow RegistryRevision)
  | .lock _ _ => Unit
  | .latest _ => Option (AuditRow RegistryRevision)
  | .append _ => Unit

abbrev RegistryProgram (α : Type) := Coroutine RegistryStore RegistryExc RegistryAns α

/-- The calendar day of an instant. -/
def Time.date (t : Time) : ℤ := t / 86400000000

namespace FederalRegistryService

variable (svc : FederalRegistryService)

def ask (op : RegistryOp) : RegistryProgram (RegistryAns op) := call op

/-! ### Stored revisions -/

def decode (revision : RegistryRevision) : Except RegistryExc RegistryRevision :=
  let relationship := revision.relationship
  if svc.digest revision.toRevisionFields ≠ revision.revisionHash ∨
      revision.relationshipId ≠ relationship.relationshipId ∨
      revision.createdAt < relationship.createdAt ∨
      relationship.sourceAvailableAt.all (fun at_ => decide (revision.createdAt < at_)) = true ∨
      relationship.lastVerifiedAt.any (fun at_ => decide (revision.createdAt < at_)) = true then
    .error (.integrity "stored federal revision failed integrity validation")
  else .ok revision

def changed : RegistryExc :=
  .conflict "relationship changed; reload its latest revision before editing"

def assertParent (payload : Option RegistryRevision) (revision : RegistryRevision) :
    Except RegistryExc Unit :=
  match payload with
  | none => if none ≠ revision.previousRevisionId then .error changed else .ok ()
  | some stored => do
    let previous ← svc.decode stored
    if some previous.revisionId ≠ revision.previousRevisionId then .error changed
    else if revision.createdAt < previous.createdAt ∨
        previous.relationship.createdAt ≠ revision.relationship.createdAt then
      .error (.conflict "revision clock or original relationship timestamp changed")
    else .ok ()

/-- What `_validate_chain` knows after some revisions: the latest one of each relationship,
and the identifiers it has seen. -/
structure ChainState where
  latest : Dict UUID RegistryRevision := .empty
  seen : List UUID := []

def ChainState.next (revision : RegistryRevision) (state : ChainState) :
    Except RegistryExc ChainState :=
  let previous := state.latest.get? revision.relationshipId
  if revision.revisionId ∈ state.seen ∨
      revision.previousRevisionId ≠ previous.map (fun p => p.revisionId) ∨
      previous.any (fun p => decide (revision.createdAt < p.createdAt)) = true then
    .error (.integrity "registry revision chain is incomplete, duplicated, or branched")
  else
    .ok { latest := state.latest.set revision.relationshipId revision
          seen := state.seen ++ [revision.revisionId] }

/-- The revisions come newest first. -/
def validateChain (revisions : List RegistryRevision) : Except RegistryExc Unit := do
  let _ ← revisions.reverse.foldlM (fun state revision => ChainState.next revision state) {}
  pure ()

/-! ### Reading a history -/

/-- `_all_revisions`, from a number of revisions and a cursor on. A page is never longer than
what is left by more than one row, so the scan ends within `maximum_scan_records` pages. -/
def scan (relationshipId : UUID) : ℕ → List RegistryRevision → Option ℕ →
    RegistryProgram (List RegistryRevision)
  | 0, _, _ => raise (.limit "registry scan limit exceeded")
  | pages + 1, revisions, before => do
    let remaining := svc.maximumScanRecords - revisions.length
    let rows ← ask (.listPayloads relationshipId before (min 500 (remaining + 1)))
    raiseIf (decide (remaining < rows.length))
      (.limit "registry scan limit exceeded; narrow the query or revise its explicit limit")
    let decoded ← lift (rows.mapM fun row => svc.decode row.payload)
    match rows.getLast? with
    | none => pure (revisions ++ decoded)
    | some last =>
      if rows.length < min 500 (remaining + 1) then pure (revisions ++ decoded)
      else
        raiseIf (decide (last.appendSequence = 0) || match before with
          | none => false
          | some bound => decide (bound ≤ last.appendSequence))
          (.integrity "registry pagination did not advance")
        scan relationshipId pages (revisions ++ decoded) (some last.appendSequence)

def allRevisions (relationshipId : UUID) : RegistryProgram (List RegistryRevision) :=
  svc.scan relationshipId (svc.maximumScanRecords + 1) [] none

/-! ### Writing a revision -/

def unlock (key : ℕ) (holder : UUID) (g : RegistryStore) : RegistryStore :=
  if g.held key = some holder then { g with held := Function.update g.held key none } else g

/-- `_atomic_append`: the lock is given back however the section ends. -/
def atomicAppend (revision : RegistryRevision) : RegistryProgram Unit := do
  let key := svc.lockKey revision.relationshipId
  attempt (do
    ask (.lock key revision.revisionId)
    let previous ← ask (.latest revision.relationshipId)
    lift (svc.assertParent (previous.map AuditRow.payload) revision)
    ask (.append revision)) fun e => do
      change (unlock key revision.revisionId)
      raise e
  change (unlock key revision.revisionId)

def acceptsSource (url : String) : Bool :=
  let host := (svc.hostname url).getD ""
  svc.approvedPrimaryHosts.any fun approved => host == approved || host.endsWith ("." ++ approved)

def blank (text : String) : Bool := text.toList.all svc.isSpace

/-- What `_write` refuses before it builds a revision. -/
def refusal (draft : RelationshipDraft) (actor reason : String) (now : Time) :
    Option RegistryExc :=
  let available := draft.sourceAvailableAt
  if svc.blank actor || svc.blank reason then
    some (.value "actor and revision reason must not be blank")
  else if !svc.acceptsSource draft.primarySourceUrl then
    some (.value "primary source host is not approved by the reference policy")
  else if now < available ∨ available.date < draft.sourcePublicationDate ∨
      available.date < draft.announcementDate ∨
      draft.lastVerifiedAt.any (fun at_ => decide (now < at_) || decide (at_ < available)) = true then
    some (.value "source availability, publication, announcement, or verification is not causal")
  else if 120 < actor.length then some (.value "actor should have at most 120 characters")
  else if 2000 < reason.length then some (.value "reason should have at most 2000 characters")
  else none

def newRevision (relationshipId : UUID) (draft : RelationshipDraft) (actor reason : String)
    (previous : Option RegistryRevision) (revisionId : UUID) (now : Time) : RegistryRevision :=
  let fields : RevisionFields :=
    { createdAt := now
      revisionId := revisionId
      relationshipId := relationshipId
      previousRevisionId := previous.map fun p => p.revisionId
      actor := actor
      reason := reason
      relationship :=
        { createdAt := match previous with
            | some p => p.relationship.createdAt
            | none => now
          relationshipId := relationshipId
          details := draft.details
          announcementDate := draft.announcementDate
          primarySourceUrl := draft.primarySourceUrl
          sourcePublicationDate := draft.sourcePublicationDate
          lastVerifiedAt := draft.lastVerifiedAt
          sourceAvailableAt := some draft.sourceAvailableAt } }
  { fields with revisionHash := svc.digest fields }

def write (relationshipId : UUID) (draft : RelationshipDraft) (actor reason : String)
    (previous : Option RegistryRevision) (revisionId : UUID) : RegistryProgram RegistryRevision := do
  let now ← peek RegistryStore.now
  match svc.refusal draft actor reason now with
  | some e => raise e
  | none =>
    let revision := svc.newRevision relationshipId draft actor reason previous revisionId now
    svc.atomicAppend revision
    pure revision

/-- The two identifiers are what `uuid4` returned. -/
def create (draft : RelationshipDraft) (actor reason : String) (relationshipId revisionId : UUID) :
    RegistryProgram RegistryRevision :=
  svc.write relationshipId draft actor reason none revisionId

def revise (relationshipId : UUID) (draft : RelationshipDraft) (expectedRevisionId : UUID)
    (actor reason : String) (revisionId : UUID) : RegistryProgram RegistryRevision := do
  let rows ← svc.allRevisions relationshipId
  match rows with
  | [] => raise (.notFound "federal relationship does not exist")
  | previous :: _ =>
    lift (validateChain rows)
    if previous.revisionId ≠ expectedRevisionId then raise changed
    else svc.write relationshipId draft actor reason (some previous) revisionId

end FederalRegistryService
end Sentry
