import Mathlib.Data.List.Chain
import Mathlib.Data.List.Nodup
import Sentry.Federal.Registry

/-!
# Revisions of a relationship are linear

Any number of `create` and `revise` calls interleave at their awaits; a lock is held by one
call at a time, and while it is held only its holder appends revisions of the relationships it
guards. Every stored history is then one chain, whatever a call had read before it came to its
locked section.
-/
namespace Sentry

open Support Coroutine Relation AuditRow

namespace FederalRegistryService

variable {svc : FederalRegistryService}

/-! ### Chains -/

def ofRelationship (relationshipId : UUID) (revision : RegistryRevision) : Bool :=
  revision.relationshipId == relationshipId

/-- The stored revisions of a relationship, in the order in which they were appended. -/
def history (relationshipId : UUID) (rows : List (AuditRow RegistryRevision)) :
    List RegistryRevision :=
  (rows.map payload).filter (ofRelationship relationshipId)

/-- One chain: the first revision has no predecessor, every other one names the revision
before it, and no identifier is repeated. -/
structure OneChain (revisions : List RegistryRevision) : Prop where
  first : ∀ revision, revisions.head? = some revision → revision.previousRevisionId = none
  links : revisions.IsChain fun a b => b.previousRevisionId = some a.revisionId
  distinct : (revisions.map fun r => r.revisionId).Nodup

def latestOf (relationshipId : UUID) (revisions : List RegistryRevision) :
    Option RegistryRevision :=
  (revisions.filter (ofRelationship relationshipId)).getLast?

/-- A revision that may follow some others. -/
structure Fits (svc : FederalRegistryService) (revisions : List RegistryRevision)
    (revision : RegistryRevision) : Prop where
  decoded : svc.decode revision = .ok revision
  fresh : revision.revisionId ∉ revisions.map fun r => r.revisionId
  parent : revision.previousRevisionId =
    (latestOf revision.relationshipId revisions).map fun r => r.revisionId
  later : ∀ previous, latestOf revision.relationshipId revisions = some previous →
    previous.createdAt ≤ revision.createdAt

inductive Linked (svc : FederalRegistryService) : List RegistryRevision → Prop where
  | nil : Linked svc []
  | snoc {revisions revision} (linked : Linked svc revisions)
      (fits : Fits svc revisions revision) : Linked svc (revisions ++ [revision])

theorem latestOf_append (relationshipId : UUID) (revisions : List RegistryRevision)
    (revision : RegistryRevision) : latestOf relationshipId (revisions ++ [revision]) =
      if revision.relationshipId = relationshipId then some revision
      else latestOf relationshipId revisions := by
  by_cases same : revision.relationshipId = relationshipId
  · simp [latestOf, ofRelationship, same]
  · simp [latestOf, ofRelationship, same]

/-- A first part of a chain is a chain. -/
theorem Linked.of_append {revisions more : List RegistryRevision}
    (linked : Linked svc (revisions ++ more)) : Linked svc revisions := by
  induction more using List.reverseRecOn with
  | nil => simpa using linked
  | append_singleton more last ih =>
    rw [← List.append_assoc] at linked
    apply ih
    generalize whole : revisions ++ more ++ [last] = all at linked
    cases linked with
    | nil => simp at whole
    | snoc linked fits =>
      cases (List.append_inj' whole rfl).1
      exact linked

theorem Linked.decoded {revisions : List RegistryRevision} (linked : Linked svc revisions) :
    ∀ revision ∈ revisions, svc.decode revision = .ok revision := by
  induction linked with
  | nil => simp
  | snoc _ fits ih =>
    intro revision member
    rcases List.mem_append.mp member with old | new
    · exact ih revision old
    · cases List.mem_singleton.mp new
      exact fits.decoded

/-- Leaving other relationships out leaves a chain. -/
theorem Linked.filter {revisions : List RegistryRevision} (linked : Linked svc revisions)
    (relationshipId : UUID) :
    Linked svc (revisions.filter (ofRelationship relationshipId)) := by
  induction linked with
  | nil => exact .nil
  | @snoc revisions revision _ fits ih =>
    rw [List.filter_append]
    by_cases same : revision.relationshipId = relationshipId
    · have kept : [revision].filter (ofRelationship relationshipId) = [revision] := by
        simp [ofRelationship, same]
      rw [kept]
      have latest : latestOf revision.relationshipId
          (revisions.filter (ofRelationship relationshipId)) =
            latestOf revision.relationshipId revisions := by
        simp [latestOf, same, List.filter_filter]
      refine .snoc ih ⟨fits.decoded, ?_, ?_, ?_⟩
      · intro repeated
        exact fits.fresh ((List.filter_sublist.map _).subset repeated)
      · rw [latest]
        exact fits.parent
      · rw [latest]
        exact fits.later
    · have dropped : [revision].filter (ofRelationship relationshipId) = [] := by
        simp [ofRelationship, same]
      rw [dropped, List.append_nil]
      exact ih

theorem Linked.distinct {revisions : List RegistryRevision} (linked : Linked svc revisions) :
    (revisions.map fun r => r.revisionId).Nodup := by
  induction linked with
  | nil => simp
  | snoc _ fits ih =>
    rw [List.map_append, List.map_singleton, List.nodup_append]
    refine ⟨ih, List.nodup_singleton _, ?_⟩
    rintro id old _ new rfl
    exact fits.fresh (List.mem_singleton.mp new ▸ old)

/-- Where all revisions are of one relationship, the links say that they are one chain. -/
theorem Linked.oneChain {revisions : List RegistryRevision} (linked : Linked svc revisions)
    {relationshipId : UUID} (same : ∀ r ∈ revisions, r.relationshipId = relationshipId) :
    OneChain revisions := by
  have latest : ∀ {revisions : List RegistryRevision},
      (∀ r ∈ revisions, r.relationshipId = relationshipId) →
        latestOf relationshipId revisions = revisions.getLast? := by
    intro revisions same
    have all : revisions.filter (ofRelationship relationshipId) = revisions := by
      rw [List.filter_eq_self]
      intro r member
      simp [ofRelationship, same r member]
    rw [latestOf, all]
  have distinct := linked.distinct
  induction linked with
  | nil => exact ⟨by simp, List.isChain_nil, distinct⟩
  | @snoc revisions revision linked fits ih =>
    have earlier : ∀ r ∈ revisions, r.relationshipId = relationshipId :=
      fun r member => same r (by simp [member])
    have chain := ih earlier linked.distinct
    have parent := fits.parent
    rw [same revision (by simp), latest earlier] at parent
    refine ⟨?_, ?_, distinct⟩
    · intro r first
      cases revisions with
      | nil =>
        cases first
        exact parent
      | cons head rest => exact chain.first r first
    · rw [List.isChain_append]
      refine ⟨chain.links, List.isChain_singleton _, ?_⟩
      intro last ends next starts
      cases starts
      rw [Option.mem_def.mp ends] at parent
      exact parent

/-- What `_validate_chain` knows after the revisions of a chain. -/
structure Validated (revisions : List RegistryRevision) (state : ChainState) : Prop where
  latest : ∀ relationshipId, state.latest.get? relationshipId = latestOf relationshipId revisions
  seen : state.seen = revisions.map fun r => r.revisionId

theorem Linked.foldlM_next {revisions : List RegistryRevision} (linked : Linked svc revisions) :
    ∃ state, revisions.foldlM (fun state revision => ChainState.next revision state) {} =
      .ok state ∧ Validated revisions state := by
  induction linked with
  | nil => exact ⟨{}, rfl, fun _ => rfl, rfl⟩
  | @snoc revisions revision _ fits ih =>
    obtain ⟨state, folded, latest, seen⟩ := ih
    have accepted : ChainState.next revision state =
        .ok { latest := state.latest.set revision.relationshipId revision
              seen := state.seen ++ [revision.revisionId] } := by
      unfold ChainState.next
      rw [latest, seen]
      apply if_neg
      rintro (repeated | orphan | early)
      · exact fits.fresh repeated
      · exact orphan fits.parent
      · obtain ⟨previous, found, early⟩ := (Option.any_eq_true ..).mp early
        have ordered := fits.later previous found
        simp only [decide_eq_true_eq] at early
        exact absurd early (not_lt.mpr ordered)
    refine ⟨{ latest := state.latest.set revision.relationshipId revision
              seen := state.seen ++ [revision.revisionId] }, ?_, ?_, ?_⟩
    · rw [List.foldlM_append, folded]
      change (ChainState.next revision state >>= pure) = _
      rw [accepted]
      rfl
    · intro relationshipId
      rw [Dict.get?_set, latestOf_append, latest]
    · rw [List.map_append, seen]
      rfl

theorem Linked.validateChain {revisions : List RegistryRevision} (linked : Linked svc revisions) :
    validateChain revisions.reverse = .ok () := by
  obtain ⟨state, folded, -⟩ := linked.foldlM_next
  unfold FederalRegistryService.validateChain
  rw [List.reverse_reverse, folded]
  rfl

/-- The stored latest revision passes the locked check exactly for a revision that fits. -/
theorem fits_of_assertParent {revisions : List RegistryRevision} {revision : RegistryRevision}
    (linked : Linked svc revisions)
    (asserted : svc.assertParent (latestOf revision.relationshipId revisions) revision = .ok ())
    (fresh : revision.revisionId ∉ revisions.map fun r => r.revisionId)
    (decoded : revision.relationship.createdAt ≤ revision.createdAt →
      svc.decode revision = .ok revision)
    (original : revision.previousRevisionId = none →
      revision.relationship.createdAt = revision.createdAt) :
    Fits svc revisions revision := by
  cases found : latestOf revision.relationshipId revisions with
  | none =>
    rw [found] at asserted
    unfold assertParent at asserted
    split at asserted
    next parentless =>
      split at asserted
      · cases asserted
      next root =>
        have root : revision.previousRevisionId = none := by
          by_contra other
          exact root (Ne.symm other)
        refine ⟨decoded (le_of_eq (original root)), fresh, ?_, ?_⟩
        · rw [found, root]
          rfl
        · intro previous other
          rw [found] at other
          cases other
    next other => cases other
  | some stored =>
    have member : stored ∈ revisions :=
      List.mem_of_mem_filter (List.mem_of_getLast? found)
    have readable := linked.decoded stored member
    rw [found] at asserted
    simp only [assertParent, readable] at asserted
    change (if _ then _ else _) = _ at asserted
    split at asserted
    · cases asserted
    next parent =>
      split at asserted
      · cases asserted
      next ordered =>
        rw [not_or, not_lt, not_not] at ordered
        have within : stored.relationship.createdAt ≤ stored.createdAt := by
          unfold decode at readable
          dsimp only at readable
          split at readable
          · cases readable
          next sound =>
            simp only [not_or, not_lt] at sound
            exact sound.2.2.1
        refine ⟨decoded ?_, fresh, ?_, ?_⟩
        · rw [← ordered.2]
          exact le_trans within ordered.1
        · rw [found, Option.map_some]
          exact (not_not.mp parent).symm
        · intro previous other
          rw [found] at other
          cases other
          exact ordered.1

/-! ### The world -/

inductive RegistryCall where
  | create (draft : RelationshipDraft) (actor reason : String) (relationshipId revisionId : UUID)
  | revise (relationshipId : UUID) (draft : RelationshipDraft) (expectedRevisionId : UUID)
      (actor reason : String) (revisionId : UUID)

namespace RegistryCall

/-- The identifier that a call drew for its revision. -/
def drawn : RegistryCall → UUID
  | .create _ _ _ _ revisionId => revisionId
  | .revise _ _ _ _ _ revisionId => revisionId

def body (svc : FederalRegistryService) : RegistryCall → RegistryProgram RegistryRevision
  | .create draft actor reason relationshipId revisionId =>
    svc.create draft actor reason relationshipId revisionId
  | .revise relationshipId draft expectedRevisionId actor reason revisionId =>
    svc.revise relationshipId draft expectedRevisionId actor reason revisionId

end RegistryCall

abbrev RegistryCrew := Crew RegistryStore RegistryExc RegistryAns RegistryRevision RegistryCall

def Unstored (id : UUID) (g : RegistryStore) : Prop :=
  ∀ row ∈ g.rows, row.payload.revisionId ≠ id

/-- A lock is granted while nobody holds it. -/
def performs : (op : RegistryOp) → RegistryStore → Except RegistryExc (RegistryAns op) →
    RegistryStore → Prop
  | .listPayloads relationshipId before limit, g, r, g' =>
    r = .ok (listPayloads (ofRelationship relationshipId) limit before g.rows) ∧ g' = g
  | .lock key holder, g, r, g' =>
    g.held key = none ∧ r = .ok () ∧
      g' = { g with held := Function.update g.held key (some holder) }
  | .latest relationshipId, g, r, g' =>
    r = .ok (findPayload (ofRelationship relationshipId) g.rows) ∧ g' = g
  | .append revision, g, r, g' =>
    r = .ok () ∧ g' = { g with rows := AuditRow.append revision g.rows }

/-- `uuid4` returns no identifier twice; the clock moves as it likes. -/
def world (svc : FederalRegistryService) :
    Concurrent RegistryStore RegistryExc RegistryAns RegistryRevision RegistryCall where
  body := RegistryCall.body svc
  performs := performs
  event g g' := g'.rows = g.rows ∧ g'.held = g.held
  interrupts e := ∃ text, e = .interrupted text
  admits c s := (∀ i m, s.members i = some m → m.call.drawn ≠ c.drawn) ∧
    (∀ x ∈ s.returned, x.call.drawn ≠ c.drawn) ∧ Unstored c.drawn s.state

/-- What becomes of a revise call that drew an identifier: it wins and its revision is stored
behind the expected one, or it does not and stores nothing. -/
inductive Revised (svc : FederalRegistryService) (relationshipId : UUID) (draft : RelationshipDraft)
    (expected : UUID) (actor reason : String) (drawn : UUID) (since g : RegistryStore) :
    Except RegistryExc RegistryRevision → Prop where
  | won {revision previous before after} (own : revision.revisionId = drawn)
      (latest : previous.revisionId = expected)
      (stored : history relationshipId g.rows = before ++ previous :: revision :: after) :
      Revised svc relationshipId draft expected actor reason drawn since g (.ok revision)
  | lost {text} (unstored : Unstored drawn g) :
      Revised svc relationshipId draft expected actor reason drawn since g (.error (.conflict text))
  | refused {e now} (refusal : svc.refusal draft actor reason now = some e)
      (unstored : Unstored drawn g) :
      Revised svc relationshipId draft expected actor reason drawn since g (.error e)
  | absent {text} (empty : history relationshipId since.rows = []) (unstored : Unstored drawn g) :
      Revised svc relationshipId draft expected actor reason drawn since g (.error (.notFound text))
  | exceeded {text} (long : svc.maximumScanRecords < (history relationshipId g.rows).length)
      (unstored : Unstored drawn g) :
      Revised svc relationshipId draft expected actor reason drawn since g (.error (.limit text))
  | cut {text} : Revised svc relationshipId draft expected actor reason drawn since g
      (.error (.interrupted text))

/-! ### What the calls rely on -/

/-- What the others do to the store, as the call sees it that drew `id`. -/
structure Others (svc : FederalRegistryService) (id : UUID) (g g' : RegistryStore) : Prop where
  grown : g.rows <+: g'.rows
  unstored : Unstored id g → Unstored id g'
  guarded : ∀ key, g.held key = some id → g'.held key = some id ∧
    ∀ relationshipId, svc.lockKey relationshipId = key →
      history relationshipId g'.rows = history relationshipId g.rows

structure Sorted (svc : FederalRegistryService) (g : RegistryStore) : Prop where
  numbered : Numbered g.rows
  linked : Linked svc (g.rows.map payload)

def protocol (svc : FederalRegistryService) :
    Protocol RegistryStore RegistryExc RegistryAns RegistryRevision RegistryCall where
  I := Sorted svc
  R c := Others svc c.drawn
  apart c c' := c.drawn ≠ c'.drawn
  issue c _ _ op g := match op with
    | .append revision => revision.revisionId = c.drawn ∧ Unstored c.drawn g ∧
        g.held (svc.lockKey revision.relationshipId) = some c.drawn ∧
        Fits svc (g.rows.map payload) revision
    | .lock _ holder => holder = c.drawn
    | _ => True
  post c since r g := match c with
    | .create _ _ _ _ _ => True
    | .revise relationshipId draft expected actor reason drawn =>
      Revised svc relationshipId draft expected actor reason drawn since g r

section Relying

variable {id : UUID} {g g' g'' : RegistryStore} {relationshipId : UUID}

theorem history_append (relationshipId : UUID) (rows : List (AuditRow RegistryRevision))
    (revision : RegistryRevision) : history relationshipId (AuditRow.append revision rows) =
      history relationshipId rows ++ if revision.relationshipId = relationshipId then [revision]
        else [] := by
  by_cases same : revision.relationshipId = relationshipId
  · simp [history, AuditRow.append, ofRelationship, same]
  · simp [history, AuditRow.append, ofRelationship, same]

theorem history_grown (grown : g.rows <+: g'.rows) (relationshipId : UUID) :
    history relationshipId g.rows <+: history relationshipId g'.rows :=
  (grown.map payload).filter _

theorem latestOf_history (rows : List (AuditRow RegistryRevision)) :
    latestOf relationshipId (rows.map payload) = (history relationshipId rows).getLast? := rfl

/-- The newest row of a relationship is the last of its history. -/
theorem findPayload_latest (rows : List (AuditRow RegistryRevision)) :
    (findPayload (ofRelationship relationshipId) rows).map payload =
      latestOf relationshipId (rows.map payload) := by
  induction rows using List.reverseRecOn with
  | nil => rfl
  | append_singleton rows row ih =>
    rw [findPayload_append, List.map_append, List.map_singleton, latestOf_append]
    by_cases same : row.payload.relationshipId = relationshipId
    · simp [ofRelationship, same]
    · simp only [ofRelationship, beq_iff_eq, same, if_false]
      exact ih

theorem Others.refl : Others svc id g g where
  grown := List.prefix_rfl
  unstored := fun unstored => unstored
  guarded := fun _ held => ⟨held, fun _ _ => rfl⟩

theorem Others.trans (first : Others svc id g g') (second : Others svc id g' g'') :
    Others svc id g g'' where
  grown := first.grown.trans second.grown
  unstored := fun unstored => second.unstored (first.unstored unstored)
  guarded := by
    intro key held
    obtain ⟨held', same⟩ := first.guarded key held
    obtain ⟨held'', same'⟩ := second.guarded key held'
    exact ⟨held'', fun rel guarded => (same' rel guarded).trans (same rel guarded)⟩

/-- Nothing is appended and this call's locks stay. -/
theorem Others.of_rows (rows : g'.rows = g.rows)
    (held : ∀ key, g.held key = some id → g'.held key = some id) : Others svc id g g' where
  grown := by rw [rows]
  unstored := by
    unfold Unstored
    rw [rows]
    exact fun unstored => unstored
  guarded := fun key mine => ⟨held key mine, fun _ _ => by rw [rows]⟩

theorem Sorted.of_rows (sorted : Sorted svc g) (rows : g'.rows = g.rows) : Sorted svc g' :=
  ⟨rows ▸ sorted.numbered, rows ▸ sorted.linked⟩

/-- A revision still fits after what the others did under its lock. -/
theorem Fits.moved {revision : RegistryRevision} (fits : Fits svc (g.rows.map payload) revision)
    (own : revision.revisionId = id) (unstored : Unstored id g)
    (held : g.held (svc.lockKey revision.relationshipId) = some id)
    (moved : Others svc id g g') : Fits svc (g'.rows.map payload) revision := by
  have same := (moved.guarded _ held).2 revision.relationshipId rfl
  have latest : latestOf revision.relationshipId (g'.rows.map payload) =
      latestOf revision.relationshipId (g.rows.map payload) := by
    rw [latestOf_history, latestOf_history, same]
  refine ⟨fits.decoded, ?_, ?_, ?_⟩
  · rw [List.map_map, List.mem_map]
    rintro ⟨row, member, equal⟩
    exact moved.unstored unstored row member (equal.trans own)
  · rw [latest]
    exact fits.parent
  · rw [latest]
    exact fits.later

end Relying

/-- An operation that a call may ask for keeps the store sorted, and spares the others. -/
theorem performs_sound {c : RegistryCall} {since g₀ g g' : RegistryStore}
    {h : List (Done RegistryExc RegistryAns)} {op : RegistryOp}
    {r : Except RegistryExc (RegistryAns op)} (issued : (protocol svc).issue c since h op g₀)
    (moved : Others svc c.drawn g₀ g) (sorted : Sorted svc g) (performed : performs op g r g') :
    Sorted svc g' ∧ ∀ c' : RegistryCall, c.drawn ≠ c'.drawn → Others svc c'.drawn g g' := by
  cases op with
  | listPayloads rel before limit =>
    rw [performed.2]
    exact ⟨sorted, fun _ _ => .refl⟩
  | latest rel =>
    rw [performed.2]
    exact ⟨sorted, fun _ _ => .refl⟩
  | lock key holder =>
    obtain ⟨free, -, rfl⟩ := performed
    refine ⟨sorted.of_rows rfl, fun c' _ => .of_rows rfl ?_⟩
    intro other mine
    have elsewhere : other ≠ key := by
      rintro rfl
      rw [free] at mine
      cases mine
    simp [elsewhere, mine]
  | append revision =>
    obtain ⟨own, unstored, held, fits⟩ := issued
    have now := fits.moved own unstored held moved
    have still := (moved.guarded _ held).1
    obtain ⟨-, rfl⟩ := performed
    constructor
    · refine ⟨sorted.numbered.append revision, ?_⟩
      simp only [AuditRow.append, List.map_append, List.map_singleton]
      exact .snoc sorted.linked now
    · intro c' other
      refine ⟨List.prefix_append _ _, ?_, ?_⟩
      · intro absent row member
        rcases List.mem_append.mp member with old | new
        · exact absent row old
        · cases List.mem_singleton.mp new
          exact fun same => other (own.symm.trans same)
      · -- whoever holds another lock guards other relationships
        intro key mine
        refine ⟨mine, fun rel guards => ?_⟩
        have elsewhere : revision.relationshipId ≠ rel := by
          rintro rfl
          rw [guards] at still
          exact other (Option.some.inj (still.symm.trans mine))
        simp [history_append, elsewhere]

/-! ### What the calls do by themselves -/

theorem unlock_rows (key : ℕ) (holder : UUID) (g : RegistryStore) :
    (unlock key holder g).rows = g.rows := by
  unfold unlock
  split <;> rfl

theorem unlock_held {key key' : ℕ} {holder other : UUID} {g : RegistryStore}
    (differs : holder ≠ other) (held : g.held key' = some other) :
    (unlock key holder g).held key' = some other := by
  unfold unlock
  split
  next mine =>
    have elsewhere : key' ≠ key := by
      rintro rfl
      exact differs (Option.some.inj (mine.symm.trans held))
    simp [elsewhere, held]
  · exact held

theorem keeps_unlock {key : ℕ} {holder other : UUID} (differs : holder ≠ other)
    (g : RegistryStore) : Keeps (Others svc other g)
      (change (unlock key holder) : RegistryProgram Unit) := by
  apply keeps_change
  intro g' moved
  exact moved.trans (.of_rows (unlock_rows key holder g') fun _ => unlock_held differs)

theorem keeps_scan {J : RegistryStore → Prop} (relationshipId : UUID) (pages : ℕ)
    (revisions : List RegistryRevision) (before : Option ℕ) :
    Keeps J (svc.scan relationshipId pages revisions before) := by
  induction pages generalizing revisions before with
  | zero => exact keeps_raise _
  | succ pages ih =>
    apply (keeps_call _).bind
    intro rows
    apply (keeps_raiseIf _ _).bind
    intro _
    apply (keeps_lift _).bind
    intro decoded
    split
    · exact keeps_pure _
    · split
      · exact keeps_pure _
      · exact (keeps_raiseIf _ _).bind fun _ => ih _ _

theorem keeps_write {relationshipId revisionId other : UUID} {draft : RelationshipDraft}
    {actor reason : String} {previous : Option RegistryRevision} (differs : revisionId ≠ other)
    (g : RegistryStore) : Keeps (Others svc other g)
      (svc.write relationshipId draft actor reason previous revisionId) := by
  apply (keeps_peek _).bind
  intro now
  split
  · exact keeps_raise _
  · refine Keeps.bind ?_ fun _ => keeps_pure _
    refine Keeps.bind (Keeps.attempt ?_ ?_) fun _ => keeps_unlock differs g
    · exact (keeps_call _).bind fun _ => (keeps_call _).bind fun _ =>
        (keeps_lift _).bind fun _ => keeps_call _
    · exact fun e => (keeps_unlock differs g).bind fun _ => keeps_raise e

theorem spares_body (c : RegistryCall) : (protocol svc).Spares c (c.body svc) := by
  intro c' differs g
  cases c with
  | create draft actor reason relationshipId revisionId => exact keeps_write differs g
  | revise relationshipId draft expected actor reason revisionId =>
    apply (keeps_scan _ _ _ _).bind
    intro rows
    split
    · exact keeps_raise _
    · apply (keeps_lift _).bind
      intro _
      split
      · exact keeps_raise _
      · exact keeps_write differs g

/-! ### What the calls do in between -/

/-- What holds of a call until it appends its revision. -/
structure Underway (svc : FederalRegistryService) (id : UUID) (since g : RegistryStore) : Prop where
  sorted : Sorted svc g
  unstored : Unstored id g
  grown : since.rows <+: g.rows

section Calls

variable {c : RegistryCall} {since g g' : RegistryStore} {h : List (Done RegistryExc RegistryAns)}

abbrev during (svc : FederalRegistryService) (c : RegistryCall) (since : RegistryStore) :
    Spec RegistryStore RegistryExc RegistryAns :=
  (protocol svc).spec (world svc) c since

/-- Storage answers, so a failure is an interruption. -/
theorem interrupted_of_relied {op : RegistryOp} {e : RegistryExc}
    (moved : (during svc c since).rely op g (.error e) g') : ∃ text, e = .interrupted text := by
  cases moved with
  | performed before holds performed after then_ =>
    cases op with
    | listPayloads => cases performed.1
    | lock => cases performed.2.1
    | latest => cases performed.1
    | append => cases performed.1
  | interrupted raised => exact raised
  | cutOff raised => exact raised

theorem Underway.others (now : Underway svc c.drawn since g) (moved : Others svc c.drawn g g')
    (sorted : Sorted svc g') : Underway svc c.drawn since g' :=
  ⟨sorted, moved.unstored now.unstored, now.grown.trans moved.grown⟩

/-- Reading leaves everything to the others. -/
theorem others_of_relied {op : RegistryOp} {r : Except RegistryExc (RegistryAns op)}
    (reads : ∀ m r m', performs op m r m' → m'.rows = m.rows ∧
      ∀ key, m.held key = some c.drawn → m'.held key = some c.drawn)
    (moved : (during svc c since).rely op g r g') : Others svc c.drawn g g' := by
  cases moved with
  | performed before holds performed after then_ =>
    obtain ⟨rows, held⟩ := reads _ _ _ performed
    exact (before.trans (.of_rows rows held)).trans after
  | interrupted raised moved then_ => exact moved
  | cutOff raised before holds performed after then_ =>
    obtain ⟨rows, held⟩ := reads _ _ _ performed
    exact (before.trans (.of_rows rows held)).trans after

theorem sorted_of_relied {op : RegistryOp} {r : Except RegistryExc (RegistryAns op)}
    (moved : (during svc c since).rely op g r g') : Sorted svc g' := by
  cases moved with
  | performed before holds performed after then_ => exact then_
  | interrupted raised moved then_ => exact then_
  | cutOff raised before holds performed after then_ => exact then_

theorem list_reads (relationshipId : UUID) (before : Option ℕ) (limit : ℕ) (id : UUID) (m r m')
    (performed : performs (.listPayloads relationshipId before limit) m r m') :
    m'.rows = m.rows ∧ ∀ key, m.held key = some id → m'.held key = some id := by
  rw [performed.2]
  exact ⟨rfl, fun _ held => held⟩

theorem latest_reads (relationshipId id : UUID) (m r m')
    (performed : performs (.latest relationshipId) m r m') :
    m'.rows = m.rows ∧ ∀ key, m.held key = some id → m'.held key = some id := by
  rw [performed.2]
  exact ⟨rfl, fun _ held => held⟩

theorem lock_reads (key : ℕ) (holder id : UUID) (m r m')
    (performed : performs (.lock key holder) m r m') :
    m'.rows = m.rows ∧ ∀ key', m.held key' = some id → m'.held key' = some id := by
  obtain ⟨free, -, rfl⟩ := performed
  refine ⟨rfl, fun key' held => ?_⟩
  have elsewhere : key' ≠ key := by
    rintro rfl
    rw [free] at held
    cases held
  simp [elsewhere, held]

/-- How far a scan has come: the revisions it read and the rows before its cursor are all
rows of the relationship in a table that was there meanwhile. -/
structure Scanned (relationshipId : UUID) (revisions : List RegistryRevision)
    (before : Option ℕ) (rows : List (AuditRow RegistryRevision)) : Prop where
  split : (history relationshipId rows).reverse =
    revisions ++ ((older (ofRelationship relationshipId) before rows).reverse.map payload)
  cursor : before = none ∨ ∃ row ∈ rows, before = some row.appendSequence

theorem older_none (relationshipId : UUID) (rows : List (AuditRow RegistryRevision)) :
    (older (ofRelationship relationshipId) none rows).map payload = history relationshipId rows := by
  simp [older, precedes, history, List.filter_map, Function.comp_def]

/-- The page that is read next consists of rows of that table. -/
theorem Scanned.older_eq {relationshipId : UUID} {revisions : List RegistryRevision} {bound : ℕ}
    {rows rows' : List (AuditRow RegistryRevision)}
    (scanned : Scanned relationshipId revisions (some bound) rows) (grown : rows <+: rows')
    (numbered : Numbered rows') :
    older (ofRelationship relationshipId) (some bound) rows' =
      older (ofRelationship relationshipId) (some bound) rows := by
  obtain ⟨more, rfl⟩ := grown
  rcases scanned.cursor with none_yet | ⟨row, member, same⟩
  · cases none_yet
  · cases same
    exact older_append numbered member

/-- Where a scan stands when a page is read: all it has to read is in the table it started
with, or it starts now. -/
theorem Scanned.start {relationshipId : UUID} {revisions : List RegistryRevision}
    {before : Option ℕ} {rows : List (AuditRow RegistryRevision)} {m : RegistryStore}
    (scanned : before = none ∧ revisions = [] ∨ since.rows <+: rows ∧ rows <+: g.rows ∧
      before.isSome = true ∧ Scanned relationshipId revisions before rows)
    (earlier : since.rows <+: g.rows) (grown : g.rows <+: m.rows) (numbered : Numbered m.rows) :
    ∃ start, since.rows <+: start ∧ start <+: m.rows ∧ Numbered start ∧
      Scanned relationshipId revisions before start ∧
      older (ofRelationship relationshipId) before m.rows =
        older (ofRelationship relationshipId) before start := by
  rcases scanned with ⟨rfl, rfl⟩ | ⟨older_, newer, some_, scanned⟩
  · refine ⟨m.rows, earlier.trans grown, List.prefix_rfl, numbered, ⟨?_, Or.inl rfl⟩, rfl⟩
    rw [List.nil_append, List.map_reverse, older_none]
  · obtain ⟨bound, rfl⟩ := Option.isSome_iff_exists.mp some_
    have within := newer.trans grown
    refine ⟨rows, older_, within, ?_, scanned, scanned.older_eq within numbered⟩
    obtain ⟨more, same⟩ := within
    rw [← same] at numbered
    exact numbered.of_append

section Pages

variable {relationshipId : UUID} {revisions : List RegistryRevision} {before : Option ℕ}
  {rows rows' : List (AuditRow RegistryRevision)} {limit : ℕ}

/-- A page that is not full is the last one. -/
theorem Scanned.finished (scanned : Scanned relationshipId revisions before rows)
    (same : older (ofRelationship relationshipId) before rows' =
      older (ofRelationship relationshipId) before rows)
    (short : (listPayloads (ofRelationship relationshipId) limit before rows').length < limit) :
    revisions ++ (listPayloads (ofRelationship relationshipId) limit before rows').map payload =
      (history relationshipId rows).reverse := by
  rw [listPayloads_eq, same] at short ⊢
  rw [List.length_take] at short
  rw [List.take_of_length_le (by omega), scanned.split]

theorem Scanned.length_page (limit : ℕ) (scanned : Scanned relationshipId revisions before rows)
    (same : older (ofRelationship relationshipId) before rows' =
      older (ofRelationship relationshipId) before rows) :
    revisions.length + (listPayloads (ofRelationship relationshipId) limit before rows').length ≤
      (history relationshipId rows).length := by
  have lengths := congrArg List.length scanned.split
  rw [listPayloads_eq, same, List.length_take]
  simp only [List.length_reverse, List.length_append, List.length_map] at lengths ⊢
  omega

/-- A full page moves the cursor to its last row. -/
theorem Scanned.next (scanned : Scanned relationshipId revisions before rows)
    (numbered : Numbered rows)
    (same : older (ofRelationship relationshipId) before rows' =
      older (ofRelationship relationshipId) before rows) {last : AuditRow RegistryRevision}
    (ends : (listPayloads (ofRelationship relationshipId) limit before rows').getLast? =
      some last) :
    Scanned relationshipId
        (revisions ++ (listPayloads (ofRelationship relationshipId) limit before rows').map payload)
        (some last.appendSequence) rows ∧
      1 ≤ last.appendSequence ∧ precedes before last = true := by
  have page : listPayloads (ofRelationship relationshipId) limit before rows' =
      listPayloads (ofRelationship relationshipId) limit before rows := by
    rw [listPayloads_eq, listPayloads_eq, same]
  rw [page] at ends ⊢
  have member : last ∈ older (ofRelationship relationshipId) before rows := by
    have there := List.mem_of_getLast? ends
    rw [listPayloads_eq] at there
    exact List.mem_reverse.mp (List.mem_of_mem_take there)
  obtain ⟨stored, kept⟩ := List.mem_filter.mp member
  rw [Bool.and_eq_true] at kept
  refine ⟨⟨?_, Or.inr ⟨last, stored, rfl⟩⟩, (numbered.bounds stored).1, kept.1⟩
  rw [scanned.split, ← page_append_older numbered.increasing ends, List.map_append, List.append_assoc]

end Pages

theorem mapM_decode {rows : List (AuditRow RegistryRevision)}
    (decoded : ∀ row ∈ rows, svc.decode row.payload = .ok row.payload) :
    rows.mapM (fun row => svc.decode row.payload) = .ok (rows.map payload) := by
  induction rows with
  | nil => rfl
  | cons row rest ih =>
    rw [List.mapM_cons, decoded row (by simp), ih fun row member => decoded row (by simp [member])]
    rfl

/-- What a scan returns is the history as it was at some moment of the call. -/
def Read (svc : FederalRegistryService) (id relationshipId : UUID) (since : RegistryStore) :
    Post RegistryStore RegistryExc RegistryAns (List RegistryRevision)
  | _, g, .ok revisions => Underway svc id since g ∧ ∃ rows, since.rows <+: rows ∧
      rows <+: g.rows ∧ revisions = (history relationshipId rows).reverse
  | _, g, .error e => Underway svc id since g ∧ ((∃ text, e = .interrupted text) ∨
      ∃ text, e = .limit text ∧ svc.maximumScanRecords < (history relationshipId g.rows).length)

theorem sat_scan {relationshipId : UUID} (pages : ℕ) {revisions : List RegistryRevision}
    {before : Option ℕ} (rows : List (AuditRow RegistryRevision))
    (now : Underway svc c.drawn since g)
    (scanned : before = none ∧ revisions = [] ∨ since.rows <+: rows ∧ rows <+: g.rows ∧
      before.isSome = true ∧ Scanned relationshipId revisions before rows)
    (enough : svc.maximumScanRecords - revisions.length < pages) :
    Sat (during svc c since) (Read svc c.drawn relationshipId since)
      (svc.scan relationshipId pages revisions before) h g := by
  induction pages generalizing revisions before rows h g with
  | zero => omega
  | succ pages ih =>
    apply Sat.call_bind
    · exact ⟨now.sorted, trivial⟩
    · intro e g₁ moved
      have others := others_of_relied (list_reads _ _ _ _) moved
      exact ⟨now.others others (sorted_of_relied moved), Or.inl (interrupted_of_relied moved)⟩
    intro page g₁ moved
    have now₁ := now.others (others_of_relied (list_reads _ _ _ _) moved) (sorted_of_relied moved)
    cases moved with
    | @performed m _ m' _ first holds performed after then_ =>
    obtain ⟨shown, rfl⟩ := performed
    have grown : m'.rows <+: g₁.rows := after.grown
    obtain ⟨start, older_, newer, numbered, at_, same⟩ :=
      Scanned.start scanned now.grown first.grown holds.numbered
    have length := at_.length_page (min 500 (svc.maximumScanRecords - revisions.length + 1)) same
    have shown : page = listPayloads (ofRelationship relationshipId)
        (min 500 (svc.maximumScanRecords - revisions.length + 1)) before m'.rows := by
      injection shown
    rw [← shown] at length
    have long := (history_grown (g := ⟨start, fun _ => none, 0⟩) (newer.trans grown)
      relationshipId).length_le
    apply Sat.raiseIf_bind
    · intro exceeded
      have exceeded := of_decide_eq_true exceeded
      refine ⟨now₁, Or.inr ⟨_, rfl, ?_⟩⟩
      dsimp only at long
      omega
    intro within
    have within := of_decide_eq_false within
    have readable : ∀ row ∈ page, svc.decode row.payload = .ok row.payload := by
      intro row member
      rw [shown, listPayloads_eq] at member
      have stored := List.mem_of_mem_filter (List.mem_reverse.mp (List.mem_of_mem_take member))
      exact holds.linked.decoded _ (List.mem_map_of_mem stored)
    rw [mapM_decode readable]
    apply Sat.pure_bind
    have finished : page.length < min 500 (svc.maximumScanRecords - revisions.length + 1) →
        Read svc c.drawn relationshipId since (h ++ [⟨_, .ok page⟩]) g₁
          (.ok (revisions ++ page.map payload)) := by
      intro short
      refine ⟨now₁, start, older_, newer.trans grown, ?_⟩
      rw [shown] at short ⊢
      exact at_.finished same short
    split
    next empty =>
      rw [List.getLast?_eq_none_iff] at empty
      exact finished (by simp [empty])
    next last ends =>
      split
      next short => exact finished short
      next full =>
        have ended := ends
        rw [shown] at ended
        obtain ⟨scanned', positive, early⟩ := at_.next numbered same ended
        rw [← shown] at scanned'
        apply Sat.raiseIf_bind
        · intro stuck
          exfalso
          rw [Bool.or_eq_true, decide_eq_true_eq] at stuck
          rcases stuck with zero | behind
          · omega
          · cases before with
            | none => cases behind
            | some bound =>
              simp only [precedes, decide_eq_true_eq] at early behind
              omega
        intro _
        have some_rows : 0 < page.length := List.length_pos_of_mem (List.mem_of_getLast? ends)
        apply ih start now₁ (Or.inr ⟨older_, newer.trans grown, rfl, scanned'⟩)
        simp only [List.length_append, List.length_map]
        omega

/-! ### The locked section -/

/-- A revision stands where it was appended: right behind the one it names. -/
def Placed (revision : RegistryRevision) (g : RegistryStore) : Prop :=
  ∃ before after, history revision.relationshipId g.rows = before ++ revision :: after ∧
    before.getLast?.map (fun r => r.revisionId) = revision.previousRevisionId

theorem Placed.grown {revision : RegistryRevision} (placed : Placed revision g)
    (grown : g.rows <+: g'.rows) : Placed revision g' := by
  obtain ⟨before, after, stored, parent⟩ := placed
  obtain ⟨more, same⟩ := history_grown grown revision.relationshipId
  refine ⟨before, after ++ more, ?_, parent⟩
  rw [← same, stored]
  simp

/-- What is known of a revision before it comes to the lock. -/
structure Built (svc : FederalRegistryService) (revision : RegistryRevision) : Prop where
  decoded : revision.relationship.createdAt ≤ revision.createdAt →
    svc.decode revision = .ok revision
  original : revision.previousRevisionId = none →
    revision.relationship.createdAt = revision.createdAt

/-- The locked section appends the revision behind the one it names, or raises a conflict. -/
def Appended (svc : FederalRegistryService) (id : UUID) (since : RegistryStore)
    (revision : RegistryRevision) : Post RegistryStore RegistryExc RegistryAns Unit
  | _, g, .ok _ => Sorted svc g ∧ Placed revision g
  | _, g, .error e => Sorted svc g ∧ ((∃ text, e = .interrupted text) ∨
      Underway svc id since g ∧ ∃ text, e = .conflict text)

theorem conflict_of_assertParent {revisions : List RegistryRevision} {revision : RegistryRevision}
    {e : RegistryExc} (linked : Linked svc revisions)
    (refused : svc.assertParent (latestOf revision.relationshipId revisions) revision = .error e) :
    ∃ text, e = .conflict text := by
  unfold assertParent at refused
  split at refused
  · split at refused
    · cases refused
      exact ⟨_, rfl⟩
    · cases refused
  next stored found =>
    have member : stored ∈ revisions := List.mem_of_mem_filter (List.mem_of_getLast? found)
    rw [linked.decoded stored member] at refused
    change (if _ then _ else _) = _ at refused
    split at refused
    · cases refused
      exact ⟨_, rfl⟩
    · split at refused
      · cases refused
        exact ⟨_, rfl⟩
      · cases refused

theorem sat_atomicAppend {revision : RegistryRevision} (own : revision.revisionId = c.drawn)
    (built : Built svc revision) (now : Underway svc c.drawn since g) :
    Sat (during svc c since) (Appended svc c.drawn since revision)
      (svc.atomicAppend revision) h g := by
  have rows_same := unlock_rows (svc.lockKey revision.relationshipId) revision.revisionId
  have released : ∀ h g e, Appended svc c.drawn since revision h g (.error e) →
      Appended svc c.drawn since revision h
        (unlock (svc.lockKey revision.relationshipId) revision.revisionId g) (.error e) := by
    rintro h g e ⟨sorted, outcome⟩
    refine ⟨sorted.of_rows (rows_same g), outcome.imp id ?_⟩
    rintro ⟨underway, conflict⟩
    refine ⟨⟨sorted.of_rows (rows_same g), ?_, ?_⟩, conflict⟩
    · unfold Unstored
      rw [rows_same]
      exact underway.unstored
    · rw [rows_same]
      exact underway.grown
  unfold atomicAppend
  dsimp only
  rw [sat_bind, sat_attempt]
  apply Sat.call_bind
  · exact ⟨now.sorted, own⟩
  · intro e g₁ moved
    exact released h _ _ ⟨sorted_of_relied moved, Or.inl (interrupted_of_relied moved)⟩
  intro _ g₁ locked
  have now₁ := now.others (others_of_relied (lock_reads _ _ _) locked) (sorted_of_relied locked)
  have held₁ : g₁.held (svc.lockKey revision.relationshipId) = some c.drawn := by
    cases locked with
    | performed first holds performed after then_ =>
      obtain ⟨-, -, rfl⟩ := performed
      exact (after.guarded _ (by simp [own])).1
  apply Sat.call_bind
  · exact ⟨now₁.sorted, trivial⟩
  · intro e g₂ moved
    exact released h _ _ ⟨sorted_of_relied moved, Or.inl (interrupted_of_relied moved)⟩
  intro row g₂ read
  have others := others_of_relied (latest_reads _ _) read
  have now₂ := now₁.others others (sorted_of_relied read)
  obtain ⟨held₂, same⟩ := others.guarded _ held₁
  have latest : row.map payload =
      latestOf revision.relationshipId (g₂.rows.map payload) := by
    cases read with
    | performed first holds performed after then_ =>
      obtain ⟨found, rfl⟩ := performed
      cases found
      rw [findPayload_latest, latestOf_history, latestOf_history, same _ rfl,
        (first.guarded _ held₁).2 _ rfl]
  apply Sat.lift_bind
  · intro e refused
    rw [latest] at refused
    exact released h _ _ ⟨now₂.sorted, Or.inr ⟨now₂,
      conflict_of_assertParent now₂.sorted.linked refused⟩⟩
  intro _ asserted
  rw [latest] at asserted
  have fresh : revision.revisionId ∉ (g₂.rows.map payload).map fun r => r.revisionId := by
    rw [List.map_map, List.mem_map]
    rintro ⟨stored, member, equal⟩
    exact now₂.unstored stored member (equal.trans own)
  have fits := fits_of_assertParent now₂.sorted.linked asserted fresh built.decoded built.original
  apply (sat_call _ _).mpr
  refine ⟨⟨now₂.sorted, own, now₂.unstored, held₂, fits⟩, ?_⟩
  rintro (e | ⟨⟩) g₃ moved
  · exact released h _ _ ⟨sorted_of_relied moved, Or.inl (interrupted_of_relied moved)⟩
  · have placed : Placed revision g₃ := by
      cases moved with
      | performed first holds performed after then_ =>
        obtain ⟨-, rfl⟩ := performed
        have fits := fits.moved own now₂.unstored held₂ first
        apply Placed.grown _ after.grown
        refine ⟨_, [], history_append _ _ _ |>.trans (by rw [if_pos rfl]), ?_⟩
        rw [fits.parent, latestOf_history]
    refine ⟨(sorted_of_relied moved).of_rows (rows_same g₃), placed.grown ?_⟩
    rw [rows_same]

/-- What `_write` builds once it refuses nothing. -/
theorem built_newRevision {relationshipId revisionId : UUID} {draft : RelationshipDraft}
    {actor reason : String} {previous : Option RegistryRevision} {now : Time}
    (accepted : svc.refusal draft actor reason now = none) :
    Built svc (svc.newRevision relationshipId draft actor reason previous revisionId now) := by
  have causal : draft.sourceAvailableAt ≤ now ∧
      draft.lastVerifiedAt.any (fun at_ => decide (now < at_)) = false := by
    unfold refusal at accepted
    dsimp only at accepted
    split at accepted
    · cases accepted
    split at accepted
    · cases accepted
    split at accepted
    · cases accepted
    next causal =>
      simp only [not_or, not_lt] at causal
      refine ⟨causal.1, ?_⟩
      have verified := causal.2.2.2
      cases last : draft.lastVerifiedAt with
      | none => rfl
      | some at_ =>
        simp only [last, Option.any_some, Bool.or_eq_true, not_or] at verified
        simpa using verified.1
  constructor
  · intro ordered
    unfold decode
    dsimp only [newRevision] at ordered ⊢
    apply if_neg
    rintro (digest | identity | early | available | verified)
    · exact digest rfl
    · exact identity rfl
    · exact absurd early (not_lt.mpr ordered)
    · simp only [Option.all_some] at available
      exact absurd (of_decide_eq_true available) (not_lt.mpr causal.1)
    · cases causal.2.symm.trans verified
  · intro root
    cases previous with
    | none => rfl
    | some p => cases root

/-- A write stores its revision behind the one it was given, and else nothing. -/
def Written (svc : FederalRegistryService) (c : RegistryCall)
    (relationshipId : UUID) (draft : RelationshipDraft) (actor reason : String)
    (previous : Option RegistryRevision) :
    Post RegistryStore RegistryExc RegistryAns RegistryRevision
  | _, g, .ok revision => Sorted svc g ∧ Placed revision g ∧ revision.revisionId = c.drawn ∧
      revision.relationshipId = relationshipId ∧
      revision.previousRevisionId = previous.map fun p => p.revisionId
  | _, g, .error e => Sorted svc g ∧ ((∃ text, e = .interrupted text) ∨
      Unstored c.drawn g ∧ ((∃ text, e = .conflict text) ∨
        ∃ now, svc.refusal draft actor reason now = some e))

theorem sat_write {relationshipId : UUID} {draft : RelationshipDraft} {actor reason : String}
    {previous : Option RegistryRevision} (now : Underway svc c.drawn since g) :
    Sat (during svc c since) (Written svc c relationshipId draft actor reason previous)
      (svc.write relationshipId draft actor reason previous c.drawn) h g := by
  apply Sat.peek_bind
  cases refused : svc.refusal draft actor reason g.now with
  | some e => exact ⟨now.sorted, Or.inr ⟨now.unstored, Or.inr ⟨g.now, refused⟩⟩⟩
  | none =>
    dsimp only
    rw [sat_bind]
    apply (sat_atomicAppend rfl (built_newRevision refused) now).mono
    rintro h g₁ (e | ⟨⟩) ⟨sorted, outcome⟩
    · refine ⟨sorted, outcome.imp id ?_⟩
      rintro ⟨underway, conflict⟩
      exact ⟨underway.unstored, Or.inl conflict⟩
    · exact ⟨sorted, outcome, rfl, rfl, rfl⟩

theorem sat_revise {relationshipId expected revisionId : UUID} {draft : RelationshipDraft}
    {actor reason : String}
    (call : c = .revise relationshipId draft expected actor reason revisionId)
    (now : Underway svc c.drawn since g) :
    Sat (during svc c since) ((protocol svc).ends c since)
      (svc.revise relationshipId draft expected actor reason revisionId) h g := by
  have drawn : c.drawn = revisionId := by rw [call]; rfl
  have ended : ∀ {g r}, Sorted svc g →
      Revised svc relationshipId draft expected actor reason revisionId since g r →
      (protocol svc).ends c since h g r := by
    intro g r sorted revised
    subst call
    exact ⟨sorted, revised⟩
  unfold revise
  rw [sat_bind]
  apply (sat_scan (svc.maximumScanRecords + 1) [] now (Or.inl ⟨rfl, rfl⟩) (by simp)).mono
  rintro h g₁ (e | revisions) ⟨now₁, outcome⟩
  · have unstored : Unstored revisionId g₁ := drawn ▸ now₁.unstored
    rcases outcome with ⟨text, rfl⟩ | ⟨text, rfl, long⟩
    · exact ended now₁.sorted .cut
    · exact ended now₁.sorted (.exceeded long unstored)
  have unstored : Unstored revisionId g₁ := drawn ▸ now₁.unstored
  obtain ⟨rows, older_, newer, rfl⟩ := outcome
  have linked : Linked svc (history relationshipId rows) := by
    obtain ⟨more, same⟩ := newer
    have whole := now₁.sorted.linked
    rw [← same, List.map_append] at whole
    exact whole.of_append.filter relationshipId
  generalize read : (history relationshipId rows).reverse = reading
  cases reading with
  | nil =>
    apply ended now₁.sorted (.absent _ unstored)
    have shorter := ((older_.map payload).filter (ofRelationship relationshipId)).length_le
    change (history relationshipId since.rows).length ≤ (history relationshipId rows).length
      at shorter
    rw [List.reverse_eq_nil_iff.mp read] at shorter
    exact List.eq_nil_of_length_eq_zero (Nat.le_zero.mp shorter)
  | cons previous rest =>
    change Sat _ _ (lift _ >>= _) h g₁
    apply Sat.lift_bind
    · intro e refused
      rw [← read, linked.validateChain] at refused
      cases refused
    intro _ _
    split
    · exact ended now₁.sorted (.lost unstored)
    next expected_ =>
      rw [← drawn]
      apply (sat_write now₁).mono
      rintro h g₂ (e | revision) written
      · obtain ⟨sorted, ⟨text, rfl⟩ | ⟨unstored, ⟨text, rfl⟩ | ⟨now, refused⟩⟩⟩ := written
        · exact ended sorted .cut
        · exact ended sorted (.lost (drawn ▸ unstored))
        · exact ended sorted (.refused refused (drawn ▸ unstored))
      · obtain ⟨sorted, ⟨before, after, stored, parent⟩, own, rel, named⟩ := written
        rw [rel] at stored
        rw [named] at parent
        obtain ⟨latest, found, same⟩ := Option.map_eq_some_iff.mp parent
        obtain ⟨first, rfl⟩ := List.getLast?_eq_some_iff.mp found
        have place : history relationshipId g₂.rows = first ++ latest :: revision :: after := by
          rw [stored]
          simp
        exact ended sorted (.won (own.trans drawn) (same.trans (not_not.mp expected_)) place)

end Calls

/-! ### Every run -/

theorem Unstored.others {id : UUID} {g g' : RegistryStore} (unstored : Unstored id g)
    (moved : Others svc id g g') : Unstored id g' := moved.unstored unstored

/-- What became of a call stays so. -/
theorem Revised.others {relationshipId expected drawn : UUID} {draft : RelationshipDraft}
    {actor reason : String} {since g g' : RegistryStore} {r : Except RegistryExc RegistryRevision}
    (revised : Revised svc relationshipId draft expected actor reason drawn since g r)
    (moved : Others svc drawn g g') :
    Revised svc relationshipId draft expected actor reason drawn since g' r := by
  cases revised with
  | @won revision previous before after own latest stored =>
    obtain ⟨more, same⟩ := history_grown moved.grown relationshipId
    have place : history relationshipId g'.rows =
        before ++ previous :: revision :: (after ++ more) := by
      rw [← same, stored]
      simp
    exact .won own latest place
  | lost unstored => exact .lost (moved.unstored unstored)
  | refused refusal unstored => exact .refused refusal (moved.unstored unstored)
  | absent empty unstored => exact .absent empty (moved.unstored unstored)
  | exceeded long unstored =>
    have longer := (history_grown moved.grown relationshipId).length_le
    exact .exceeded (lt_of_lt_of_le long longer) (moved.unstored unstored)
  | cut => exact .cut

theorem sound (svc : FederalRegistryService) : (protocol svc).Sound (world svc) where
  R_refl _ _ := .refl
  R_trans first second := first.trans second
  event := by
    rintro g g' ⟨rows, held⟩ sorted
    refine ⟨Sorted.of_rows sorted rows, fun c => .of_rows rows ?_⟩
    intro key mine
    rw [held]
    exact mine
  perform issued moved sorted performed := performs_sound issued moved sorted performed
  spares := spares_body
  admitted := by
    rintro c s ⟨members, returned, -⟩
    refine ⟨fun i m found => ⟨Ne.symm (members i m found), members i m found⟩, ?_⟩
    exact fun x member => Ne.symm (returned x member)
  post_stable := by
    intro c since r g g' post moved
    cases c with
    | create => trivial
    | revise => exact Revised.others post moved
  sat := by
    rintro c s ⟨-, -, unstored⟩ sorted
    have now : Underway svc c.drawn s.state s.state := ⟨sorted, unstored, List.prefix_rfl⟩
    cases created : c with
    | create draft actor reason relationshipId revisionId =>
      subst created
      apply (sat_write now).mono
      rintro h g (e | revision) written
      · exact ⟨written.1, trivial⟩
      · exact ⟨written.1, trivial⟩
    | revise relationshipId draft expected actor reason revisionId =>
      subst created
      exact sat_revise rfl now

/-- Every run from an empty registry: each relationship's history is one chain, the validator
accepts it and the whole table, and of every revise that ended it is known what became of it. -/
theorem revisions_linear {g : RegistryStore} {s : RegistryCrew} (empty : g.rows = [])
    (run : (world svc).Reachable g s) :
    (∀ relationshipId, OneChain (history relationshipId s.state.rows) ∧
      validateChain (history relationshipId s.state.rows).reverse = .ok ()) ∧
    validateChain (s.state.rows.map payload).reverse = .ok () ∧
    ∀ x ∈ s.returned, ∀ {relationshipId draft expected actor reason drawn},
      x.call = .revise relationshipId draft expected actor reason drawn →
      Revised svc relationshipId draft expected actor reason drawn x.since s.state x.outcome := by
  have initially : Sorted svc g := by
    constructor
    · rw [empty]
      exact numbered_nil
    · rw [empty]
      exact .nil
  have consistent := (sound svc).consistent initially run
  have linked := consistent.invariant.linked
  refine ⟨fun relationshipId => ?_, linked.validateChain, ?_⟩
  · have chain : Linked svc (history relationshipId s.state.rows) := linked.filter relationshipId
    have same : ∀ r ∈ history relationshipId s.state.rows, r.relationshipId = relationshipId := by
      intro revision member
      simpa [ofRelationship] using (List.mem_filter.mp member).2
    exact ⟨chain.oneChain same, chain.validateChain⟩
  · intro x member relationshipId draft expected actor reason drawn call
    have post := consistent.returned x member
    rw [call] at post
    exact post

end FederalRegistryService

namespace RegistrySample

open FederalRegistryService

def service : FederalRegistryService where
  digest fields := fields.reason
  hostname url := some url
  isSpace c := c == ' '
  maximumScanRecords := 10
  approvedPrimaryHosts := ["energy.gov"]
  lockKey _ := 0

def draft : RelationshipDraft where
  details := .obj []
  announcementDate := 0
  primarySourceUrl := "energy.gov"
  sourcePublicationDate := 0
  sourceAvailableAt := 0

/-- A lock that is held is not granted. -/
def handler (op : RegistryOp) (g : RegistryStore) :
    Except RegistryExc (RegistryAns op) × RegistryStore :=
  match op with
  | .listPayloads relationshipId before limit =>
    (.ok (listPayloads (ofRelationship relationshipId) limit before g.rows), g)
  | .lock key holder => (.ok (), { g with held := Function.update g.held key (some holder) })
  | .latest relationshipId => (.ok (findPayload (ofRelationship relationshipId) g.rows), g)
  | .append revision => (.ok (), { g with rows := AuditRow.append revision g.rows })

def grantable (op : RegistryOp) (g : RegistryStore) : Bool :=
  match op with
  | .lock key _ => (g.held key).isNone
  | _ => true

theorem performs_handler {op : RegistryOp} {g : RegistryStore} (free : grantable op g = true) :
    FederalRegistryService.performs op g (handler op g).1 (handler op g).2 := by
  cases op with
  | lock key holder => exact ⟨Option.isNone_iff_eq_none.mp free, rfl, rfl⟩
  | _ => exact ⟨rfl, rfl⟩

theorem turns {g : RegistryStore} {s : RegistryCrew} (run : (world service).Reachable g s)
    (i n : ℕ) (free : ∀ k < n, (((Crew.turn handler i)^[k] s).members i).all
      (fun m => grantable m.op ((Crew.turn handler i)^[k] s).state) = true) :
    (world service).Reachable g ((Crew.turn handler i)^[n] s) := by
  apply run.turns_of
  intro k less m found
  have free := free k less
  rw [found] at free
  exact performs_handler free

def creation : RegistryCall := .create draft "editor" "new" ⟨1⟩ ⟨10⟩

def revision (id : ℕ) : RegistryCall := .revise ⟨1⟩ draft ⟨10⟩ "editor" "edit" ⟨id⟩

def created : RegistryCrew :=
  (Crew.turn handler 0)^[3] ((Crew.idle {}).start 0 creation (creation.body service))

/-- Two calls read the same history, and one after the other comes to the lock. -/
def contested : RegistryCrew :=
  (Crew.turn handler 2)^[2] ((Crew.turn handler 1)^[3]
    ((Crew.turn handler 2)^[1] (((Crew.turn handler 1)^[1]
      (created.start 1 (revision 11) ((revision 11).body service))).start 2 (revision 12)
        ((revision 12).body service))))

/-- Only the first three places are ever used. -/
theorem admitted {s : RegistryCrew} {c : RegistryCall}
    (vacant : ∀ j, 3 ≤ j → s.members j = none)
    (others : ∀ j < 3, (s.members j).all (fun m => decide (m.call.drawn ≠ c.drawn)) = true)
    (returned : ∀ x ∈ s.returned, x.call.drawn ≠ c.drawn)
    (unstored : ∀ row ∈ s.state.rows, row.payload.revisionId ≠ c.drawn) :
    (world service).admits c s := by
  refine ⟨?_, returned, unstored⟩
  intro j m found
  by_cases used : j < 3
  · have differs := others j used
    rw [found] at differs
    simpa using differs
  · rw [vacant j (by omega)] at found
    cases found

theorem contested_reachable : (world service).Reachable {} contested := by
  have started : (world service).Reachable {} ((Crew.idle {}).start 0 creation
      (creation.body service)) :=
    Concurrent.Reachable.start .refl 0 creation
      (admitted (fun _ _ => rfl) (fun _ _ => rfl) (by simp [Crew.idle]) (by simp [Crew.idle]))
  have made : (world service).Reachable {} created := by
    have ran := turns started 0 3 (by decide +kernel)
    unfold created
    exact ran
  have unused : ∀ j, 3 ≤ j → created.members j = none := by
    intro j used
    unfold created
    rw [Crew.turns_members (by omega), Crew.start_members (by omega)]
    rfl
  have first := turns (made.start 1 (revision 11)
    (admitted unused (by decide +kernel) (by decide +kernel) (by decide +kernel))) 1 1
    (by decide +kernel)
  have unused' : ∀ j, 3 ≤ j → ((Crew.turn handler 1)^[1]
      (created.start 1 (revision 11) ((revision 11).body service))).members j = none := by
    intro j used
    rw [Crew.turns_members (by omega), Crew.start_members (by omega)]
    exact unused j used
  have second := turns (first.start 2 (revision 12)
    (admitted unused' (by decide +kernel) (by decide +kernel) (by decide +kernel))) 2 1
    (by decide +kernel)
  have won := turns second 1 3 (by decide +kernel)
  have lost := turns won 2 2 (by decide +kernel)
  unfold contested
  exact lost

end RegistrySample

open RegistrySample FederalRegistryService in
/-- Two calls that expect the same revision: the table is a chain of two, one call returned
and the other raised a conflict. -/
theorem revisions_linear_contested :
    (world service).Reachable {} contested ∧ contested.state.rows.length = 2 ∧
    (contested.returned.map fun x => x.outcome.toOption.isSome) = [true, true, false] ∧
    OneChain (history ⟨1⟩ contested.state.rows) := by
  have linear := revisions_linear rfl contested_reachable
  exact ⟨contested_reachable, by decide +kernel, by decide +kernel, (linear.1 ⟨1⟩).1⟩

end Sentry
