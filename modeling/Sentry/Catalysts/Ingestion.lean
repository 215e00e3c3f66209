import Sentry.Catalysts.Runtime
import Sentry.Support.Triples

/-!
# The outbox of public sources

What any number of polls leaves in the tables, with fetches and repository calls that fail before
or after they are committed. A document whose event is missing keeps its row, and the next poll
finds it under the same identity, because what was stored is read as what was stored.
-/
namespace Sentry

open Support Coroutine AuditRow

variable {rt : SourceRuntime}

namespace SourceDocument

variable (document : SourceDocument rt)

theorem dump_documentId :
    document.dump.get? "document_id" = some (.str document.documentId.val.str) := by
  simp [dump, Payload.get?]

theorem dump_dataMode : document.dump.get? "data_mode" = some (.str document.dataMode.value) := by
  simp [dump, Payload.get?]

theorem storedId_stored : document.stored.storedId = document.storedId := rfl

/-- What was written can be read in one way only. -/
theorem dump_injective {a b : SourceDocument rt} (same : a.dump = b.dump) : a = b := by
  have left := a.modelValidate_dump a.documentId
  rw [same, b.modelValidate_dump] at left
  exact (Option.some.inj left).symm

end SourceDocument

namespace CatalystIngestionWorker

variable {worker : CatalystIngestionWorker rt} {foreign : Stored Payload → Bool}
  {g g' : CatalystStore rt}

/-! ### What the tables hold -/

/-- A document as this code stores it. -/
def Filed (document : SourceDocument rt) (row : Stored Payload) : Prop :=
  row.payload = document.stored.dump

theorem Filed.unique {a b : SourceDocument rt} {row : Stored Payload} (left : Filed a row)
    (right : Filed b row) : a.stored = b.stored :=
  SourceDocument.dump_injective (left.symm.trans right)

theorem Filed.under {document : SourceDocument rt} {row : Stored Payload}
    (filed : Filed document row) {documentId : String} :
    keepsUnder documentId row = true ↔ document.storedId.val.str = documentId := by
  rw [keepsUnder, Payload.has, filed, SourceDocument.dump_documentId]
  simp [SourceDocument.stored]

/-- An identifier under which others store nothing. -/
def Own (foreign : Stored Payload → Bool) (documentId : String) : Prop :=
  ∀ row, foreign row = true → keepsUnder documentId row = false

/-- An event goes back to a document that is stored. -/
def Sourced (worker : CatalystIngestionWorker rt) (g : CatalystStore rt) (payload : Payload) :
    Prop :=
  ∃ row ∈ g.sourceDocuments, ∃ documentId draw document mapping publication now,
    keepsUnder documentId row.payload = true ∧
    SourceDocument.modelValidate rt draw row.payload.payload = some document ∧
    worker.mapper.map document = .ok mapping ∧
    worker.publication document now = some publication ∧
    payload = (worker.event documentId document mapping publication now).dump rt.timestamp

/-- What holds of the tables at every moment. -/
structure Safe (worker : CatalystIngestionWorker rt) (foreign : Stored Payload → Bool)
    (g : CatalystStore rt) : Prop where
  increasing : Increasing g.sourceDocuments
  filed : ∀ row ∈ g.sourceDocuments, foreign row.payload = false →
    ∃ document : SourceDocument rt, Filed document row.payload
  single : g.sourceDocuments.Pairwise fun a b => ∀ documentId, Own foreign documentId →
    keepsUnder documentId a.payload = true → keepsUnder documentId b.payload = false
  distinct : (matching worker.ours g.sentinelEvents).Pairwise fun a b =>
    a.payload.payload.get? "event_id" ≠ b.payload.payload.get? "event_id"
  sourced : ∀ row ∈ matching worker.ours g.sentinelEvents, worker.Sourced g row.payload.payload

/-- The event of a document is stored, under the configured mapping. -/
def Announced (worker : CatalystIngestionWorker rt) (documentId : String) (g : CatalystStore rt) :
    Prop :=
  ∃ row ∈ g.sentinelEvents, worker.announces (worker.eventId documentId).str row.payload = true

/-- A stored document is announced, if it is one that others do not store, of a source that is
enabled, and was current from `t₀` until now. -/
def Settled (worker : CatalystIngestionWorker rt) (foreign : Stored Payload → Bool) (t₀ : Time)
    (row : Stored Payload) (g : CatalystStore rt) : Prop :=
  ∀ document : SourceDocument rt, Filed document row → Own foreign document.storedId.val.str →
    document.sourceId ∈ worker.enabled → ∀ publication, document.publicationTime = some publication →
      publication.val ≤ t₀ → g.now - publication.val ≤ worker.maximumEventAge →
        worker.Announced document.storedId.val.str g

/-! ### What others leave alone -/

/-- The documents of this code are as they were, its events have only grown, and the clock has
not gone back. -/
structure Later (worker : CatalystIngestionWorker rt) (foreign : Stored Payload → Bool)
    (g g' : CatalystStore rt) : Prop where
  documents : g.sourceDocuments <+: g'.sourceDocuments
  others : ∀ row ∈ g'.sourceDocuments, row ∈ g.sourceDocuments ∨ foreign row.payload = true
  events : g.sentinelEvents ⊆ g'.sentinelEvents
  now : g.now ≤ g'.now

section Moved

variable (moved : worker.Others foreign g g')
include moved

theorem Others.later : worker.Later foreign g g' where
  documents := moved.sourceDocuments.grown
  others row member := by
    obtain ⟨more, split, others⟩ := moved.sourceDocuments.split
    rw [split, List.mem_append] at member
    exact member.imp id fun new => by simpa using others row new
  events := moved.sentinelEvents.grown.subset
  now := moved.now

end Moved

section LaterMove

variable (later : worker.Later foreign g g')
include later

theorem Later.announced {documentId : String} (announced : worker.Announced documentId g) :
    worker.Announced documentId g' := by
  obtain ⟨row, member, shown⟩ := announced
  exact ⟨row, later.events member, shown⟩

theorem Later.sourced {payload : Payload} (sourced : worker.Sourced g payload) :
    worker.Sourced g' payload := by
  obtain ⟨row, member, rest⟩ := sourced
  exact ⟨row, later.documents.subset member, rest⟩

theorem Later.settled {t₀ : Time} {row : Stored Payload} (settled : worker.Settled foreign t₀ row g) :
    worker.Settled foreign t₀ row g' := by
  intro document filed own enabled publication known early young
  exact later.announced (settled document filed own enabled publication known early
    ((sub_le_sub_right later.now _).trans young))

end LaterMove

theorem Others.safe (moved : worker.Others foreign g g') (safe : worker.Safe foreign g) :
    worker.Safe foreign g' := by
  obtain ⟨more, split, others⟩ := moved.sourceDocuments.split
  have alien : ∀ row ∈ more, foreign row.payload = true := fun row new => by
    simpa using others row new
  refine ⟨moved.sourceDocuments.increasing safe.increasing, ?_, ?_, ?_, ?_⟩
  · intro row member own
    rcases moved.later.others row member with before | there
    · exact safe.filed row before own
    · rw [own] at there
      cases there
  · rw [split]
    refine List.pairwise_append.mpr ⟨safe.single, ?_, ?_⟩
    · exact List.pairwise_of_forall_mem_list fun a _ b new documentId own _ => own _ (alien b new)
    · exact fun a _ b new documentId own _ => own _ (alien b new)
  · rw [moved.sentinelEvents.others]
    exact safe.distinct
  · rw [moved.sentinelEvents.others]
    exact fun row member => moved.later.sourced (safe.sourced row member)

/-! ### What a call does -/

/-- This worker has stored no event under an identifier. -/
def Unannounced (worker : CatalystIngestionWorker rt) (documentId : String) (g : CatalystStore rt) :
    Prop :=
  ∀ row ∈ matching worker.ours g.sentinelEvents,
    worker.announces (worker.eventId documentId).str row.payload = false

/-- No document is stored under an identifier, unless others store some. -/
def Unfiled (foreign : Stored Payload → Bool) (documentId : String) (g : CatalystStore rt) : Prop :=
  Own foreign documentId → ∀ row ∈ g.sourceDocuments, keepsUnder documentId row.payload = false

theorem Others.unannounced {documentId : String} (moved : worker.Others foreign g g')
    (fresh : worker.Unannounced documentId g) : worker.Unannounced documentId g' := by
  unfold Unannounced
  rw [moved.sentinelEvents.others]
  exact fresh

theorem Others.unfiled {documentId : String} (moved : worker.Others foreign g g')
    (fresh : Unfiled foreign documentId g) : Unfiled foreign documentId g' := by
  intro own row member
  rcases moved.later.others row member with before | alien
  · exact fresh own row before
  · exact own _ alien

section Commits

variable {document : SourceDocument rt}

theorem commits_document (commits : worker.Commits (.appendDocument document.stored) g g') :
    ∃ row, g'.sourceDocuments = g.sourceDocuments ++ [row] ∧ Filed document row.payload ∧
      (Increasing g.sourceDocuments → Increasing g'.sourceDocuments) ∧
      g'.sentinelEvents = g.sentinelEvents ∧ g'.now = g.now := by
  obtain ⟨rows, appended, rfl⟩ := commits
  have increasing := appended.increasing
  obtain ⟨sequence, rfl, -⟩ := appended
  exact ⟨_, rfl, rfl, increasing, rfl, rfl⟩

/-- A document that was not stored is one more. -/
theorem Safe.file (safe : worker.Safe foreign g) (fresh : Unfiled foreign document.storedId.val.str g)
    (commits : worker.Commits (.appendDocument document.stored) g g') : worker.Safe foreign g' := by
  obtain ⟨row, documents, filed, increasing, events, -⟩ := commits_document commits
  refine ⟨increasing safe.increasing, ?_, ?_, events ▸ safe.distinct, ?_⟩
  · intro other member own
    rw [documents, List.mem_append, List.mem_singleton] at member
    rcases member with before | rfl
    · exact safe.filed other before own
    · exact ⟨document, filed⟩
  · rw [documents]
    refine List.pairwise_append.mpr ⟨safe.single, List.pairwise_singleton _ _, ?_⟩
    intro a before b last documentId own under
    cases List.mem_singleton.mp last
    by_contra same
    rw [Bool.not_eq_false, filed.under] at same
    subst same
    rw [fresh own a before] at under
    cases under
  · rw [events]
    intro announced member
    obtain ⟨source, there, rest⟩ := safe.sourced announced member
    exact ⟨source, documents ▸ List.mem_append_left _ there, rest⟩

variable {documentId : String} {mapping : SourceEntityMapping} {publication now : Time}

theorem commits_event
    (commits : worker.Commits (.appendEvent (worker.event documentId document mapping publication now))
      g g') :
    ∃ row : AuditRow (Stored Payload), g'.sentinelEvents = g.sentinelEvents ++ [row] ∧
      row.payload.payload = (worker.event documentId document mapping publication now).dump rt.timestamp ∧
      worker.binding.owns row.payload = true ∧ g'.sourceDocuments = g.sourceDocuments ∧
      g'.now = g.now := by
  obtain ⟨rows, ⟨sequence, rfl, -⟩, rfl⟩ := commits
  exact ⟨_, rfl, rfl, worker.binding.owns_row _ _, rfl, rfl⟩

/-- An event that was not stored, of a document that is stored, is one more. -/
theorem Safe.announce (safe : worker.Safe foreign g) (fresh : worker.Unannounced documentId g)
    (sourced : worker.Sourced g
      ((worker.event documentId document mapping publication now).dump rt.timestamp))
    (commits : worker.Commits (.appendEvent (worker.event documentId document mapping publication now))
      g g') :
    worker.Safe foreign g' ∧ worker.Later foreign g g' ∧ worker.Announced documentId g' := by
  obtain ⟨row, events, payload, owned, documents, time⟩ := commits_event commits
  have named : row.payload.payload.get? "event_id" = some (.str (worker.eventId documentId).str) := by
    rw [payload, SentinelEvent.dump_eventId]
    rfl
  have later : worker.Later foreign g g' := by
    refine ⟨documents ▸ List.prefix_rfl, fun row member => .inl (documents ▸ member), ?_, time.ge⟩
    rw [events]
    exact List.subset_append_left _ _
  have kept : ∀ announced ∈ matching worker.ours g'.sentinelEvents,
      announced ∈ matching worker.ours g.sentinelEvents ∨ announced = row := by
    intro announced member
    rw [events, mem_matching, List.mem_append, List.mem_singleton] at member
    rcases member with ⟨before | rfl, own⟩
    · exact .inl (mem_matching.mpr ⟨before, own⟩)
    · exact .inr rfl
  refine ⟨⟨documents ▸ safe.increasing, documents ▸ safe.filed, documents ▸ safe.single, ?_, ?_⟩,
    later, row, by simp [events], by simp [announces, owned, Payload.has, named]⟩
  · rw [events, matching, List.filter_append]
    refine List.pairwise_append.mpr ⟨safe.distinct, ?_, ?_⟩
    · exact (List.pairwise_singleton _ row).sublist List.filter_sublist
    · intro earlier member last isLast same
      have isRow : last = row := List.mem_singleton.mp (List.filter_sublist.subset isLast)
      rw [isRow, named] at same
      have out := fresh earlier member
      have own := (mem_matching.mp member).2
      simp only [ours, Bool.and_eq_true] at own
      simp [announces, own.1, Payload.has, same] at out
  · intro announced member
    rcases kept announced member with before | rfl
    · exact later.sourced (safe.sourced announced before)
    · rw [payload]
      exact later.sourced sourced

end Commits

/-! ### Calls -/

abbrev spec (worker : CatalystIngestionWorker rt) (foreign : Stored Payload → Bool) :
    Spec (CatalystStore rt) Exc (CatalystAns rt) :=
  (worker.service foreign).spec (worker.Safe foreign)

/-- What an exception leaves. -/
abbrev Failed (worker : CatalystIngestionWorker rt) (foreign : Stored Payload → Bool) (_ : Exc)
    (g : CatalystStore rt) : Prop :=
  worker.Safe foreign g

section Asking

variable {op : CatalystOp rt} {P : CatalystStore rt → Prop}

theorem ask_triple {Q : CatalystAns rt op → CatalystStore rt → Prop}
    (safe : ∀ g, P g → worker.Safe foreign g)
    (others : ∀ g g', worker.Others foreign g g' → P g → P g')
    (commits : ∀ g g', P g → worker.Commits op g g' → worker.Safe foreign g')
    (answers : ∀ g a g', P g → worker.Answers op g a → worker.Commits op g g' → Q a g') :
    Triple (worker.spec foreign) (worker.Failed foreign) P (ask op) Q :=
  Service.call safe others (fun g _ now => safe g now)
    (fun g g' _ now committed => commits g g' now committed) answers

/-- A call that changes nothing. -/
theorem read_triple (idle : ∀ g g', worker.Commits op g g' → g' = g)
    (safe : ∀ g, P g → worker.Safe foreign g)
    (others : ∀ g g', worker.Others foreign g g' → P g → P g') :
    Triple (worker.spec foreign) (worker.Failed foreign) P (ask op)
      fun a g => worker.Answers op g a ∧ P g :=
  Service.read idle safe others fun g _ now => safe g now

end Asking

/-! ### What is left to do -/

/-- Every stored document is settled from `t₀` on, but for those of `todo`. -/
structure Pending (worker : CatalystIngestionWorker rt) (foreign : Stored Payload → Bool)
    (t₀ : Time) (todo : AuditRow (Stored Payload) → Prop) (g : CatalystStore rt) : Prop where
  safe : worker.Safe foreign g
  begun : t₀ ≤ g.now
  settled : ∀ row ∈ g.sourceDocuments, todo row ∨ worker.Settled foreign t₀ row.payload g

variable {t₀ : Time} {todo todo' : AuditRow (Stored Payload) → Prop}

theorem Pending.weaken (pending : worker.Pending foreign t₀ todo g) (more : ∀ row, todo row → todo' row) :
    worker.Pending foreign t₀ todo' g :=
  ⟨pending.safe, pending.begun, fun row member => (pending.settled row member).imp (more row) id⟩

theorem settled_of_foreign {row : Stored Payload} (alien : foreign row = true) :
    worker.Settled foreign t₀ row g := by
  intro document filed own
  have out := own row alien
  rw [filed.under.mpr rfl] at out
  cases out

theorem Pending.later (later : worker.Later foreign g g') (safe : worker.Safe foreign g')
    (pending : worker.Pending foreign t₀ todo g) : worker.Pending foreign t₀ todo g' := by
  refine ⟨safe, pending.begun.trans later.now, fun row member => ?_⟩
  rcases later.others row member with before | alien
  · exact (pending.settled row before).imp id later.settled
  · exact .inr (settled_of_foreign alien)

theorem Pending.moved (moved : worker.Others foreign g g') (pending : worker.Pending foreign t₀ todo g) :
    worker.Pending foreign t₀ todo g' :=
  pending.later moved.later (moved.safe pending.safe)

/-! ### One document -/

/-- The document that is stored under an identifier. -/
structure Known (foreign : Stored Payload → Bool) (documentId : String)
    (document : SourceDocument rt) (g : CatalystStore rt) : Prop where
  held : ∃ row ∈ g.sourceDocuments, ∃ draw, keepsUnder documentId row.payload = true ∧
    SourceDocument.modelValidate rt draw row.payload.payload = some document
  only : ∀ row ∈ g.sourceDocuments, Own foreign documentId → ∀ other : SourceDocument rt,
    Filed other row.payload → other.storedId.val.str = documentId → document = other.stored

theorem Known.later {documentId : String} {document : SourceDocument rt}
    (later : worker.Later foreign g g') (known : Known foreign documentId document g) :
    Known foreign documentId document g' where
  held := by
    obtain ⟨row, member, rest⟩ := known.held
    exact ⟨row, later.documents.subset member, rest⟩
  only row member own other filed same := by
    rcases later.others row member with before | alien
    · exact known.only row before own other filed same
    · have out := own _ alien
      rw [filed.under.mpr same] at out
      cases out

/-- A row that is found under an identifier of this code is the only one. -/
theorem Safe.known (safe : worker.Safe foreign g) {documentId : String}
    {document : SourceDocument rt} {row : AuditRow (Stored Payload)} (member : row ∈ g.sourceDocuments)
    (under : keepsUnder documentId row.payload = true) {draw : rt.Identifier}
    (valid : SourceDocument.modelValidate rt draw row.payload.payload = some document) :
    Known foreign documentId document g where
  held := ⟨row, member, draw, under, valid⟩
  only other there own filedAs filed same := by
    have under' := filed.under.mpr same
    have alike : row = other := by
      rcases pairwise_cases safe.single member there with equal | apart | apart
      · exact equal
      · rw [apart documentId own under] at under'
        cases under'
      · rw [apart documentId own under'] at under
        cases under
    subst alike
    rw [filed, SourceDocument.modelValidate_dump] at valid
    exact (Option.some.inj valid).symm

theorem readRow_triple {P : CatalystStore rt → Prop} (safe : ∀ g, P g → worker.Safe foreign g)
    (row : AuditRow (Stored Payload)) :
    Triple (worker.spec foreign) (worker.Failed foreign) P (readRow row) fun document g =>
      (∃ draw, SourceDocument.modelValidate rt draw row.payload.payload = some document) ∧ P g := by
  unfold readRow
  refine Triple.peek fun draw => ?_
  cases valid : SourceDocument.modelValidate rt draw row.payload.payload with
  | none => exact Triple.raise fun g now => safe g now.1
  | some document => exact Triple.pure fun g now => ⟨⟨draw, valid⟩, now.1⟩

/-- What is to do when a document may be new. -/
def orUnder (todo : AuditRow (Stored Payload) → Prop) (documentId : String)
    (row : AuditRow (Stored Payload)) : Prop :=
  todo row ∨ keepsUnder documentId row.payload = true

/-- What is left to do when the documents under an identifier are settled. -/
def butUnder (todo : AuditRow (Stored Payload) → Prop) (documentId : String)
    (row : AuditRow (Stored Payload)) : Prop :=
  todo row ∧ keepsUnder documentId row.payload = false

/-- The document that is new is there, and is all that is left to do besides. -/
theorem Pending.file {document : SourceDocument rt} (pending : worker.Pending foreign t₀ todo g)
    (fresh : Unfiled foreign document.storedId.val.str g)
    (commits : worker.Commits (.appendDocument document.stored) g g') :
    worker.Pending foreign t₀ (orUnder todo document.storedId.val.str) g' ∧
      Known foreign document.storedId.val.str document.stored g' ∧ g.now ≤ g'.now := by
  have safe := pending.safe.file fresh commits
  obtain ⟨row, documents, filed, -, events, time⟩ := commits_document commits
  refine ⟨⟨safe, time ▸ pending.begun, ?_⟩, ⟨⟨row, by simp [documents], document.documentId,
    filed.under.mpr rfl, ?_⟩, ?_⟩, time.ge⟩
  · intro other member
    rw [documents, List.mem_append, List.mem_singleton] at member
    rcases member with before | rfl
    · rcases pending.settled other before with left | settled
      · exact .inl (.inl left)
      · right
        unfold Settled Announced
        rw [events, time]
        exact settled
    · exact .inl (.inr (filed.under.mpr rfl))
  · rw [filed]
    exact document.stored.modelValidate_dump _
  · intro other member own there filedAs same
    rw [documents, List.mem_append, List.mem_singleton] at member
    rcases member with before | rfl
    · have under := filedAs.under.mpr same
      rw [fresh own other before] at under
      cases under
    · exact filed.unique filedAs

theorem durable_triple (document : SourceDocument rt) (now : Time) :
    Triple (worker.spec foreign) (worker.Failed foreign)
      (fun g => worker.Pending foreign t₀ todo g ∧ now ≤ g.now) (durable document)
      fun known g => worker.Pending foreign t₀ (orUnder todo document.storedId.val.str) g ∧
        Known foreign document.storedId.val.str known g ∧ now ≤ g.now := by
  have moves : ∀ g g', worker.Others foreign g g' → worker.Pending foreign t₀ todo g ∧ now ≤ g.now →
      worker.Pending foreign t₀ todo g' ∧ now ≤ g'.now :=
    fun _ _ moved holds => ⟨holds.1.moved moved, holds.2.trans moved.now⟩
  unfold durable
  refine Triple.bind (read_triple (fun _ _ same => same) (fun _ holds => holds.1.safe) moves)
    fun existing => ?_
  cases existing with
  | none =>
    dsimp only
    refine Triple.seq (I := fun g => worker.Pending foreign t₀ (orUnder todo document.storedId.val.str) g ∧
      Known foreign document.storedId.val.str document.stored g ∧ now ≤ g.now)
      (Triple.strengthen (P := fun g => Unfiled foreign document.storedId.val.str g ∧
        worker.Pending foreign t₀ todo g ∧ now ≤ g.now) (ask_triple ?_ ?_ ?_ ?_) ?_)
      fun _ => Triple.pure fun _ => id
    · exact fun g holds => holds.2.1.safe
    · exact fun g g' moved holds => ⟨moved.unfiled holds.1, moves g g' moved holds.2⟩
    · exact fun g g' holds committed => holds.2.1.safe.file holds.1 committed
    · rintro g a g' ⟨fresh, pending, time⟩ - committed
      obtain ⟨filed, known, later⟩ := pending.file fresh committed
      exact ⟨filed, known, time.trans later⟩
    · exact fun g holds => ⟨fun _ row member => findPayload_none holds.1.symm member, holds.2⟩
  | some existing =>
    dsimp only
    refine Triple.consequence (readRow_triple (P := fun g => existing ∈ g.sourceDocuments ∧
      keepsUnder document.storedId.val.str existing.payload = true ∧
        worker.Pending foreign t₀ todo g ∧ now ≤ g.now) (fun g holds => holds.2.2.1.safe) existing)
      ?_ ?_
    · rintro g ⟨found, holds⟩
      obtain ⟨member, under⟩ := findPayload_some found.symm
      exact ⟨member, under, holds⟩
    · rintro known g ⟨⟨draw, valid⟩, member, under, pending, time⟩
      exact ⟨pending.weaken fun row left => .inl left, pending.safe.known member under valid, time⟩

/-- The documents under an identifier are settled when their event is stored or not due. -/
theorem Pending.settle {documentId : String} {document : SourceDocument rt} {now : Time}
    (pending : worker.Pending foreign t₀ todo g) (known : Known foreign documentId document g)
    (early : t₀ ≤ now) (late : now ≤ g.now)
    (done : worker.publication document now = none ∨ worker.Announced documentId g) :
    worker.Pending foreign t₀ (butUnder todo documentId) g := by
  refine ⟨pending.safe, pending.begun, fun row member => ?_⟩
  rcases pending.settled row member with left | settled
  · cases under : keepsUnder documentId row.payload with
    | false => exact .inl ⟨left, under⟩
    | true =>
      right
      intro other filed own enabled publication published before young
      have same := filed.under.mp under
      subst same
      rcases done with none_ | announced
      · -- the publication was current when the clock was read
        have one := known.only row member own other filed rfl
        subst one
        have current : 0 ≤ now - publication.val ∧ now - publication.val ≤ worker.maximumEventAge :=
          ⟨sub_nonneg.mpr (before.trans early), (sub_le_sub_right late _).trans young⟩
        have due : worker.publication other.stored now = some publication.val := by
          change (other.publicationTime.map Subtype.val).filter _ = _
          rw [published]
          exact if_pos (decide_eq_true current)
        rw [due] at none_
        cases none_
      · exact announced
  · exact .inr settled

theorem announce_triple (documentId : String) (document : SourceDocument rt) {now : Time}
    (early : t₀ ≤ now) :
    Triple (worker.spec foreign) (worker.Failed foreign)
      (fun g => worker.Pending foreign t₀ todo g ∧ Known foreign documentId document g ∧ now ≤ g.now)
      (worker.announce documentId document now)
      fun _ => worker.Pending foreign t₀ (butUnder todo documentId) := by
  have moves : ∀ g g', worker.Later foreign g g' → worker.Safe foreign g' →
      worker.Pending foreign t₀ todo g ∧ Known foreign documentId document g ∧ now ≤ g.now →
        worker.Pending foreign t₀ todo g' ∧ Known foreign documentId document g' ∧ now ≤ g'.now :=
    fun _ _ later safe holds => ⟨holds.1.later later safe, holds.2.1.later later,
      holds.2.2.trans later.now⟩
  unfold announce
  refine Triple.bind (R := fun mapping g => worker.mapper.map document = .ok mapping ∧
    worker.Pending foreign t₀ todo g ∧ Known foreign documentId document g ∧ now ≤ g.now)
    (Triple.lift (fun _ _ g holds => holds.1.safe) fun mapping mapped g holds => ⟨mapped, holds⟩)
    fun mapping => Triple.assuming fun mapped => ?_
  cases due : worker.publication document now with
  | none => exact Triple.pure fun g holds => holds.1.settle holds.2.1 early holds.2.2 (.inl due)
  | some publication =>
    dsimp only
    refine Triple.bind (read_triple (fun _ _ same => same) (fun _ holds => holds.1.safe)
      fun g g' moved holds => moves g g' moved.later (moved.safe holds.1.safe) holds) fun existing => ?_
    cases existing with
    | some row =>
      refine Triple.pure ?_
      rintro g ⟨found, pending, known, time⟩
      obtain ⟨member, shown⟩ := findPayload_some found.symm
      exact pending.settle known early time (.inr ⟨row, member, shown⟩)
    | none =>
      dsimp only
      have sourced {g : CatalystStore rt} (known : Known foreign documentId document g) :
          worker.Sourced g
            ((worker.event documentId document mapping publication now).dump rt.timestamp) := by
        obtain ⟨row, member, draw, under, valid⟩ := known.held
        exact ⟨row, member, documentId, draw, document, mapping, publication, now, under, valid,
          mapped, due, rfl⟩
      refine Triple.seq (I := worker.Pending foreign t₀ (butUnder todo documentId))
        (Triple.strengthen (P := fun g => worker.Unannounced documentId g ∧
          worker.Pending foreign t₀ todo g ∧ Known foreign documentId document g ∧ now ≤ g.now)
          (ask_triple ?_ ?_ ?_ ?_) ?_) fun _ => Triple.pure fun _ => id
      · exact fun g holds => holds.2.1.safe
      · exact fun g g' moved holds => ⟨moved.unannounced holds.1,
          moves g g' moved.later (moved.safe holds.2.1.safe) holds.2⟩
      · exact fun g g' holds committed =>
          (holds.2.1.safe.announce holds.1 (sourced holds.2.2.1) committed).1
      · rintro g a g' ⟨fresh, pending, known, time⟩ - committed
        obtain ⟨safe, later, announced⟩ := pending.safe.announce fresh (sourced known) committed
        obtain ⟨pending, known, time⟩ := moves g g' later safe ⟨pending, known, time⟩
        exact pending.settle known early time (.inr announced)
      · exact fun g holds =>
          ⟨fun row member => findPayload_none holds.1.symm (mem_matching.mp member).1, holds.2⟩

/-- Once it is persisted, a document is settled and so are the rows under its identifier. -/
theorem persist_triple (document : SourceDocument rt) :
    Triple (worker.spec foreign) (worker.Failed foreign) (worker.Pending foreign t₀ todo)
      (worker.persist document)
      fun _ => worker.Pending foreign t₀ (butUnder todo document.storedId.val.str) := by
  unfold persist
  refine Triple.peek fun now => ?_
  refine Triple.raiseIf (fun _ g holds => holds.1.safe) fun _ => ?_
  refine Triple.strengthen (P := fun g => t₀ ≤ now ∧ worker.Pending foreign t₀ todo g ∧ now ≤ g.now)
    (Triple.assuming fun early => ?_) ?_
  · refine Triple.bind (durable_triple document now) fun known => ?_
    refine (announce_triple _ known early).weaken fun _ g pending => pending.weaken ?_
    rintro row ⟨left | under, out⟩
    · exact ⟨left, out⟩
    · rw [under] at out
      cases out
  · rintro g ⟨pending, rfl⟩
    exact ⟨pending.begun, pending, le_rfl⟩

/-! ### A poll -/

/-- A document that this code stores was read live. -/
theorem Filed.liveRead {document : SourceDocument rt} {row : Stored Payload}
    (filed : Filed document row) : liveRead row = true := by
  rw [CatalystIngestionWorker.liveRead, Payload.has, filed, SourceDocument.dump_dataMode]
  rfl

theorem settled_of_unfiled {row : Stored Payload}
    (unfiled : ∀ document : SourceDocument rt, Filed document row → document.sourceId ∉ worker.enabled) :
    worker.Settled foreign t₀ row g :=
  fun document filed _ enabled => absurd enabled (unfiled document filed)

theorem repairRow_triple (row : AuditRow (Stored Payload)) (repaired : Dict String ℕ) :
    Triple (worker.spec foreign) (worker.Failed foreign) (worker.Pending foreign t₀ todo)
      (worker.repairRow row repaired)
      fun _ => worker.Pending foreign t₀ fun other => todo other ∧ other ≠ row := by
  unfold repairRow
  refine Triple.bind (readRow_triple (fun _ pending => pending.safe) row) fun document =>
    Triple.assuming fun ⟨draw, valid⟩ => ?_
  -- a row of this code is read as what was written
  have read {filedAs : SourceDocument rt} (filed : Filed filedAs row.payload) :
      document = filedAs.stored := by
    rw [filed, SourceDocument.modelValidate_dump] at valid
    exact (Option.some.inj valid).symm
  split
  next enabled =>
    refine Triple.seq (persist_triple document) fun created => Triple.pure fun g pending => ?_
    refine ⟨pending.safe, pending.begun, fun other member => ?_⟩
    rcases pending.settled other member with ⟨left, out⟩ | settled
    · by_cases same : other = row
      · right
        subst same
        intro filedAs filed
        rw [read filed, SourceDocument.storedId_stored, filed.under.mpr rfl] at out
        cases out
      · exact .inl ⟨left, same⟩
    · exact .inr settled
  next disabled =>
    refine Triple.pure fun g pending => ⟨pending.safe, pending.begun, fun other member => ?_⟩
    rcases pending.settled other member with left | settled
    · by_cases same : other = row
      · right
        subst same
        refine settled_of_unfiled fun filedAs filed enabled => disabled ?_
        rw [read filed]
        exact enabled
      · exact .inl ⟨left, same⟩
    · exact .inr settled

theorem repairRows_triple (rows : List (AuditRow (Stored Payload))) (repaired : Dict String ℕ) :
    Triple (worker.spec foreign) (worker.Failed foreign) (worker.Pending foreign t₀ todo)
      (worker.repairRows rows repaired)
      fun _ => worker.Pending foreign t₀ fun other => todo other ∧ other ∉ rows := by
  induction rows generalizing repaired todo with
  | nil => exact Triple.pure fun g pending => pending.weaken fun row left => ⟨left, by simp⟩
  | cons row rest ih =>
    refine Triple.seq (repairRow_triple row repaired) fun repaired => (ih repaired).weaken ?_
    refine fun _ g pending => pending.weaken fun other left => ⟨left.1.1, ?_⟩
    simp only [List.mem_cons, not_or]
    exact ⟨left.1.2, left.2⟩

/-- The rows of `all` that lie before a number. -/
def Before (all : AuditRow (Stored Payload) → Prop) (before : Option ℕ)
    (row : AuditRow (Stored Payload)) : Prop :=
  all row ∧ liveRead row.payload = true ∧ precedes before row = true

/-- What a page shows of the rows that were in the table when it was read. -/
theorem page_triple (all : AuditRow (Stored Payload) → Prop) (before : Option ℕ) :
    Triple (worker.spec foreign) (worker.Failed foreign)
      (worker.Pending foreign t₀ (Before all before)) (ask (.listDocuments before))
      fun rows g => ∃ all : AuditRow (Stored Payload) → Prop,
        Page (fun row => all row ∧ liveRead row.payload = true) 1000 before rows ∧
          worker.Pending foreign t₀ (Before all before) g := by
  refine Triple.weaken (read_triple (fun _ _ same => same) (fun _ pending => pending.safe)
    fun _ _ moved pending => pending.moved moved) ?_
  rintro rows g ⟨rfl, pending⟩
  refine ⟨fun row => all row ∧ row ∈ g.sourceDocuments, ?_, ?_⟩
  · exact page_listPayloads pending.safe.increasing fun row member => ⟨member.1.2, member.2⟩
  · refine ⟨pending.safe, pending.begun, fun row member => ?_⟩
    exact (pending.settled row member).imp (fun left => ⟨⟨left.1, member⟩, left.2⟩) id

theorem repairPages_triple (all : AuditRow (Stored Payload) → Prop) (pages : ℕ)
    (before : Option ℕ) (repaired : Dict String ℕ) :
    Triple (worker.spec foreign) (worker.Failed foreign)
      (worker.Pending foreign t₀ (Before all before))
      (worker.repairPages pages before repaired)
      fun _ => worker.Pending foreign t₀ fun _ => False := by
  induction pages generalizing all before repaired with
  | zero => exact Triple.raise fun g pending => pending.safe
  | succ pages ih =>
    unfold repairPages
    refine Triple.bind (page_triple all before) fun rows => Triple.of_exists fun all =>
      Triple.assuming fun page => ?_
    refine Triple.seq (repairRows_triple rows repaired) fun repaired => ?_
    split
    next short =>
      -- a page that is not full is the last one
      refine Triple.pure fun g pending => pending.weaken fun row left => ?_
      rcases page.last (by omega) ⟨left.1.1, left.1.2.1⟩ with late | shown
      · rw [left.1.2.2] at late
        cases late
      · exact left.2 shown
    next full =>
      refine (ih all _ repaired).strengthen fun g pending => pending.weaken fun row left => ?_
      refine ⟨left.1.1, left.1.2.1, ?_⟩
      by_contra late
      rcases page.next (by rintro rfl; simp at full) ⟨left.1.1, left.1.2.1⟩ (by simpa using late)
        with late | shown
      · rw [left.1.2.2] at late
        cases late
      · exact left.2 shown

/-- Whatever is stored is looked through. -/
theorem repairEvents_triple :
    Triple (worker.spec foreign) (worker.Failed foreign)
      (fun g => worker.Safe foreign g ∧ t₀ ≤ g.now) worker.repairEvents
      fun _ => worker.Pending foreign t₀ fun _ => False := by
  refine (repairPages_triple (fun _ => True) 100 none .empty).strengthen fun g now => ?_
  refine ⟨now.1, now.2, fun row member => ?_⟩
  cases live : liveRead row.payload with
  | true => exact .inl ⟨trivial, live, rfl⟩
  | false =>
    refine .inr (settled_of_unfiled fun document filed => ?_)
    rw [filed.liveRead] at live
    cases live

theorem Pending.done {documentId : String}
    (pending : worker.Pending foreign t₀ (butUnder (fun _ => False) documentId) g) :
    worker.Pending foreign t₀ (fun _ => False) g :=
  pending.weaken fun _ left => left.1

theorem persistAll_triple (documents : List (SourceDocument rt)) (created : ℕ) :
    Triple (worker.spec foreign) (worker.Failed foreign)
      (worker.Pending foreign t₀ fun _ => False) (worker.persistAll documents created)
      fun _ => worker.Pending foreign t₀ fun _ => False := by
  induction documents generalizing created with
  | nil => exact Triple.pure fun _ => id
  | cons document rest ih =>
    exact Triple.seq ((persist_triple document).weaken fun _ _ => Pending.done) fun _ => ih _

section Idle

variable {op : CatalystOp rt}

/-- A call that reads or writes nothing of this. -/
theorem idle_triple (idle : ∀ g g', worker.Commits op g g' → g' = g) :
    Triple (worker.spec foreign) (worker.Failed foreign) (worker.Pending foreign t₀ todo) (ask op)
      fun _ => worker.Pending foreign t₀ todo :=
  (read_triple idle (fun _ pending => pending.safe) fun _ _ moved pending =>
    pending.moved moved).weaken fun _ _ now => now.2

theorem fetched_triple (source : OfficialSourceConfig) :
    Triple (worker.spec foreign) (worker.Failed foreign) (worker.Pending foreign t₀ todo)
      (fetched source) fun _ => worker.Pending foreign t₀ todo := by
  unfold fetched
  refine Triple.attempt (H := fun _ => worker.Pending foreign t₀ todo) ?_ fun e => ?_
  · refine Triple.seq (I := worker.Pending foreign t₀ todo) ?_ fun _ => Triple.pure fun _ => id
    refine Triple.weaken (Service.read (fun _ _ same => same) (fun _ pending => pending.safe)
      (fun _ _ moved pending => pending.moved moved) fun _ _ pending => pending) fun _ _ now => now.2
  · split
    · exact Triple.pure fun _ => id
    · exact Triple.raise fun _ pending => pending.safe

end Idle

theorem pollSource_triple (source : OfficialSourceConfig) (repaired : Dict String ℕ) :
    Triple (worker.spec foreign) (worker.Failed foreign)
      (worker.Pending foreign t₀ fun _ => False) (worker.pollSource source repaired)
      fun _ => worker.Pending foreign t₀ fun _ => False := by
  unfold pollSource
  refine Triple.peek fun started => Triple.strengthen ?_ fun g now => And.left now
  refine Triple.seq (fetched_triple source) fun ⟨documents, failure⟩ => ?_
  refine Triple.seq (persistAll_triple _ 0) fun created => ?_
  refine Triple.peek fun now => Triple.strengthen (idle_triple fun _ _ same => same) fun g now => now.1

theorem pollSources_triple (repaired : Dict String ℕ) (sources : List OfficialSourceConfig) :
    Triple (worker.spec foreign) (worker.Failed foreign)
      (worker.Pending foreign t₀ fun _ => False) (worker.pollSources repaired sources)
      fun _ => worker.Pending foreign t₀ fun _ => False := by
  induction sources with
  | nil => exact Triple.pure fun _ => id
  | cons source rest ih =>
    unfold pollSources
    split
    · exact Triple.seq (pollSource_triple source repaired) fun _ => ih
    · exact ih

theorem poll_triple :
    Triple (worker.spec foreign) (worker.Failed foreign)
      (fun g => worker.Safe foreign g ∧ t₀ ≤ g.now) worker.poll
      fun _ => worker.Pending foreign t₀ fun _ => False := by
  unfold poll
  refine Triple.seq (I := fun g => worker.Safe foreign g ∧ t₀ ≤ g.now) (Triple.weaken
    (read_triple (fun _ _ same => same) (fun _ now => now.1) ?_) fun _ _ now => now.2) fun healthy => ?_
  · exact fun _ _ moved now => ⟨moved.safe now.1, now.2.trans moved.now⟩
  refine Triple.raiseIf (fun _ g now => now.1) fun _ => ?_
  exact Triple.seq repairEvents_triple fun repaired => pollSources_triple repaired _

/-! ### The outbox -/

/-- Documents of others only, and no events of this worker. -/
structure Fresh (worker : CatalystIngestionWorker rt) (foreign : Stored Payload → Bool)
    (g : CatalystStore rt) : Prop where
  increasing : Increasing g.sourceDocuments
  documents : ∀ row ∈ g.sourceDocuments, foreign row.payload = true
  events : matching worker.ours g.sentinelEvents = []

theorem Fresh.safe (fresh : worker.Fresh foreign g) : worker.Safe foreign g where
  increasing := fresh.increasing
  filed row member own := by
    rw [fresh.documents row member] at own
    cases own
  single := List.pairwise_of_forall_mem_list fun _ _ b member _ own _ =>
    own _ (fresh.documents b member)
  distinct := by simp [fresh.events]
  sourced := by simp [fresh.events]

/-- What holds at every moment: an event is stored once at most, and of a document that is stored,
and no document is stored twice but by others. -/
structure Outbox (worker : CatalystIngestionWorker rt) (foreign : Stored Payload → Bool)
    (g : CatalystStore rt) : Prop where
  once : ∀ eventId, (matching (fun row => worker.ours row && row.payload.has "event_id" eventId)
    g.sentinelEvents).length ≤ 1
  sourced : ∀ row ∈ matching worker.ours g.sentinelEvents, worker.Sourced g row.payload.payload
  single : ∀ documentId, Own foreign documentId →
    (matching (keepsUnder documentId) g.sourceDocuments).length ≤ 1

theorem Safe.outbox (safe : worker.Safe foreign g) : worker.Outbox foreign g where
  once eventId := by
    have within : matching (fun row => worker.ours row && row.payload.has "event_id" eventId)
        g.sentinelEvents = matching (fun row => row.payload.has "event_id" eventId)
          (matching worker.ours g.sentinelEvents) := by
      simp [matching, List.filter_filter, Bool.and_comm]
    rw [within]
    apply length_matching_le_one
    refine safe.distinct.imp fun {first second} apart named => ?_
    by_contra both
    simp only [Payload.has, Bool.not_eq_false, beq_iff_eq] at named both
    exact apart (named.trans both.symm)
  sourced := safe.sourced
  single documentId own := length_matching_le_one (safe.single.imp fun apart => apart documentId own)

/-- At every moment of any number of polls, with fetches and repository calls that fail before or
after they are committed, the outbox is in order. When a poll returns, the event of every document
of an enabled source is stored that others do not store and that was published before the poll
began and is not too old yet. -/
theorem ingestion_outbox {g₀ : CatalystStore rt} (fresh : worker.Fresh foreign g₀) :
    (∀ h waiting rs g, Moment (worker.rely foreign) (worker.Others foreign) worker.poll g₀ h waiting
      rs g → worker.Outbox foreign g) ∧
    ∀ h rs g h' g', Attempts (worker.rely foreign) (worker.Others foreign) worker.poll g₀ h rs g →
      Passes (worker.rely foreign) worker.poll g h' (lift (.ok ())) g' →
        ∀ row ∈ g'.sourceDocuments, worker.Settled foreign g.now row.payload g' := by
  have each (t₀ : Time) : Triple (worker.spec foreign) (worker.Failed foreign)
      (fun g => worker.Safe foreign g ∧ t₀ ≤ g.now) worker.poll
      fun _ => worker.Pending foreign t₀ fun _ => False := poll_triple
  have sound : Attempts.Sound (worker.rely foreign) (worker.Others foreign) worker.poll g₀
      (fun _ rs g => worker.Safe foreign g ∧ ∀ a, rs.getLast? = some (.ok a) → True)
      fun _ _ _ g => worker.Safe foreign g := by
    refine Triple.attempts fresh.safe (fun safe moved => moved.safe safe) (fun _ _ => trivial) ?_
    intro h g safe
    refine Sat.mono ?_ (each g.now h g ⟨safe, le_rfl⟩)
    intro h g r ended
    cases r with
    | ok a => exact ⟨ended.safe, trivial⟩
    | error e => exact ended
  constructor
  · intro h waiting rs g moment
    have holds := moment.sound sound
    cases waiting with
    | none => exact Safe.outbox holds.1
    | some op => exact Safe.outbox holds
  · intro h rs g h' g' earlier passes row member
    have safe := (earlier.sound sound).1
    have ended := (each g.now h g ⟨safe, le_rfl⟩).passes passes
    rw [sat_lift] at ended
    exact (ended.settled row member).resolve_left id

end CatalystIngestionWorker
namespace CatalystSample

open CatalystIngestionWorker

/-- The identifier that is written as a text. -/
@[irreducible] def readId (text : String) : Option UUID :=
  ((List.range 7).map UUID.mk).find? fun id => id.str == text

theorem readId_str {text : String} {id : UUID} (found : readId text = some id) :
    readId id.str = some id := by
  have same : id.str = text := by
    unfold readId at found
    simpa using List.find?_some found
  rw [same, found]

def moments : List (Time × String) :=
  [(0, "1970-01-01T00:00:00Z"), (5000000, "1970-01-01T00:00:05Z")]

def timestamp (t : Time) : String := ((moments.find? fun entry => entry.1 == t).map Prod.snd).getD ""

def readMoment (text : String) : Option Datetime :=
  (moments.find? fun entry => entry.2 == text).map fun entry => .aware entry.1

theorem single_ne_nil : ∀ c : Char, [c.toUpper] ≠ [] := by simp

def python : MarketRuntime where
  uuid
    | .str text => readId text
    | _ => none
  decimal _ := none
  integer _ := none
  datetime
    | .str text => readMoment text
    | _ => none
  date _ := none
  str _ := ""
  uppercase c := [c.toUpper]
  isoformat := timestamp
  uppercase_ne := single_ne_nil

theorem readMoment_timestamp {text : String} {t : Time}
    (found : readMoment text = some (.aware t)) : readMoment (timestamp t) = some (.aware t) := by
  obtain ⟨entry, shown, same⟩ := Option.map_eq_some_iff.mp found
  have among := List.mem_of_find?_eq_some shown
  cases same
  simp only [moments, List.mem_cons, List.not_mem_nil, or_false] at among
  rcases among with rfl | rfl
  · decide
  · decide

theorem instant_some {document : Json} {t : Time} (found : python.instant document = some t) :
    ∃ text, document = .str text ∧ readMoment text = some (.aware t) := by
  unfold MarketRuntime.instant at found
  split at found
  next utc shown =>
    cases found
    cases document with
    | str text => exact ⟨text, rfl, shown⟩
    | _ => cases shown
  next => cases found

/-- Sixty-four digits that tell texts of different lengths apart. -/
def digest (n : ℕ) : String := paddedTo 64 (n % 10 ^ 64)

theorem isDigest_digest (n : ℕ) : isDigest (digest n) = true := by
  have length : (digest n).toList.length = 64 := by
    rw [digest, Timestamps.toList_paddedTo]
    exact Digits.length_padded_toDigits (by decide) (by decide) (Nat.mod_lt _ (by positivity))
  have digits : ∀ c ∈ (digest n).toList, c.isDigit = true := fun c member =>
    Timestamps.isDigit_of_mem_paddedTo member
  rw [String.length_toList] at length
  simp only [isDigest, length, beq_self_eq_true, Bool.true_and, List.all_eq_true]
  intro c member
  rw [digits c member, Bool.true_or]

/-- A number for a name. -/
def checksum (name : String) : ℕ := name.toList.foldl (fun sum c => sum + c.toNat) 0 % 7

def named (name : String) : UUID := (readId (UUID.mk (checksum name)).str).getD ⟨0⟩

theorem readId_named (name : String) : readId (named name).str = some (named name) := by
  have some_ : (readId (UUID.mk (checksum name)).str).isSome = true := by
    unfold readId
    rw [List.find?_isSome]
    exact ⟨UUID.mk (checksum name), List.mem_map.mpr ⟨_, List.mem_range.mpr
      (Nat.mod_lt _ (by decide)), rfl⟩, by simp⟩
  obtain ⟨id, found⟩ := Option.isSome_iff_exists.mp some_
  rw [named, found, Option.getD_some]
  exact readId_str found

theorem uuid_str {document : Json} {id : UUID} (found : python.uuid document = some id) :
    python.uuid (.str id.str) = some id := by
  change readId id.str = some id
  cases document with
  | str text => exact readId_str found
  | _ => cases found

theorem instant_timestamp {document : Json} {t : Time} (found : python.instant document = some t) :
    python.instant (.str (timestamp t)) = some t := by
  obtain ⟨text, rfl, read⟩ := instant_some found
  have again : python.datetime (.str (timestamp t)) = some (.aware t) := readMoment_timestamp read
  unfold MarketRuntime.instant
  rw [again]

def runtime : SourceRuntime where
  py := python
  hashing :=
    { sha256Json
        | .obj members => digest members.length
        | _ => digest 0
      uuid5 _ := named
      fillSeed := String.length }
  sha256 text := digest text.length
  lower := id
  urlsplit text := if text = "https://example.gov/a" ∨ text = "https://example.gov/bc" then
    some ⟨"https", some "example.gov", none, none⟩ else none
  timestamp
  sha256_digest text := isDigest_digest _
  sha256Json_digest document := by
    cases document <;> exact isDigest_digest _
  instant_timestamp _ _ := instant_timestamp
  uuid_str _ _ := uuid_str
  uuid5_str _ := readId_named

def atStart : runtime.Moment := ⟨0, by decide⟩

/-- A release that names an issuer, in lower case. -/
def release : SourceDocument runtime where
  createdAt := atStart
  documentId := runtime.uuid5 NAMESPACE_URL "drawn"
  sourceId := "sec"
  canonicalUrl := ⟨"https://example.gov/a", by decide⟩
  title := Line.ofText "acme settles"
  normalizedText := Line.ofText ""
  publicationTime := some atStart
  fetchedAt := atStart

/-- Another one, which comes with the next fetch. -/
def appeal : SourceDocument runtime where
  createdAt := atStart
  documentId := runtime.uuid5 NAMESPACE_URL "drawn"
  sourceId := "sec"
  canonicalUrl := ⟨"https://example.gov/bc", by decide⟩
  title := Line.ofText "acme appeals"
  normalizedText := Line.ofText ""
  publicationTime := some atStart
  fetchedAt := atStart

def names : NameRuntime := ⟨id, Char.isAlphanum⟩

def sources : SourcesConfig names where
  version := "1"
  officialSources := [{ id := "sec", url := "https://example.gov/feed", enabled := true }]
  issuerMappings := [⟨"acme", "ACME", "Acme Corporation", ["acme"], ["sec"],
    "https://example.gov/acme", by decide⟩]
  valid := by decide +kernel

def worker : CatalystIngestionWorker runtime where
  mapper := ⟨names, sources⟩
  binding := ⟨.demo, some .brokerShadow, false, "demo"⟩
  isoformat := timestamp
  live := by decide
  maximumEventAge_pos := by decide

def start : CatalystStore runtime where
  sourceDocuments := []
  sentinelEvents := []
  now := 5000000
  draw := release.documentId

/-- Calls that are committed. The one that stores an event may be reported as failed. Once a
document is stored, another one is fetched. -/
def calls (fails : Bool) : (op : CatalystOp runtime) → CatalystStore runtime →
    Except Exc (CatalystAns runtime op) × CatalystStore runtime
  | .healthcheck, g => (.ok true, g)
  | .listDocuments before, g => (.ok (listPayloads liveRead 1000 before g.sourceDocuments), g)
  | .findDocument documentId, g =>
    (.ok (findPayload (keepsUnder documentId) g.sourceDocuments), g)
  | .findEvent eventId, g => (.ok (findPayload (worker.announces eventId) g.sentinelEvents), g)
  | .appendDocument document, g =>
    let rows := push { createdAt := document.createdAt.val, payload := document.dump }
      g.sourceDocuments
    (.ok (), { g with sourceDocuments := rows })
  | .appendEvent event, g =>
    let rows := push (worker.binding.row event.createdAt (event.dump timestamp)) g.sentinelEvents
    (if fails then .error .timeout else .ok (), { g with sentinelEvents := rows })
  | .appendHealth _, g => (.ok (), g)
  | .fetch _, g => (.ok (if g.sourceDocuments.isEmpty then [release] else [appeal]), g)

/-- Nothing is stored by others. -/
def alone : Stored Payload → Bool := fun _ => false

theorem others_refl (g : CatalystStore runtime) : worker.Others alone g g where
  sourceDocuments := Grows.refl _ _
  sentinelEvents := Grows.refl _ _
  now := le_rfl

theorem calls_rely (fails : Bool) (op : CatalystOp runtime) (g : CatalystStore runtime) :
    worker.rely alone op g (calls fails op g).1 (calls fails op g).2 := by
  refine ⟨g, others_refl g, ?_⟩
  cases op with
  | appendDocument document => exact ⟨trivial, _, appended_push _ _, rfl⟩
  | appendEvent event =>
    cases fails with
    | false => exact ⟨trivial, _, appended_push _ _, rfl⟩
    | true => exact ⟨_, .inr ⟨_, appended_push _ _, rfl⟩, rfl⟩
  | _ => exact ⟨by trivial, rfl⟩

theorem start_fresh : worker.Fresh alone start where
  increasing := List.Pairwise.nil
  documents _ member := by cases member
  events := rfl

/-- What a poll leaves whose event is stored and reported as failed. -/
def interrupted : CatalystStore runtime := (worker.poll.run (calls true) start).2

def resumed : Except Exc Unit × CatalystStore runtime := worker.poll.run (calls false) interrupted

/-- It returns, and neither a document nor an event is stored again. -/
theorem resumed_once : (resumed.1.toOption.isSome && resumed.2.sourceDocuments.length == 2 &&
    resumed.2.sentinelEvents.length == 2) = true := by
  decide +kernel

end CatalystSample

open CatalystSample CatalystIngestionWorker in
/-- A poll whose first event is stored and reported as failed, and the next one. -/
theorem ingestion_resumed :
    (worker.poll.run (calls true) start).1.toOption.isNone = true ∧
    ∃ h h' g, Attempts (worker.rely alone) (worker.Others alone) worker.poll start h
        [(worker.poll.run (calls true) start).1] interrupted ∧
      Passes (worker.rely alone) worker.poll interrupted h' (lift (.ok ())) g ∧
      worker.Outbox alone interrupted ∧
      (∀ row ∈ g.sourceDocuments, worker.Settled alone interrupted.now row.payload g) ∧
      g.sourceDocuments.length = 2 ∧ g.sentinelEvents.length = 2 := by
  obtain ⟨h, first⟩ := passes_run (calls true) (calls_rely true) worker.poll start
  obtain ⟨h', second⟩ : ∃ h', Passes (worker.rely alone) worker.poll interrupted h'
      (lift resumed.1) resumed.2 := by
    unfold resumed
    exact passes_run (calls false) (calls_rely false) worker.poll interrupted
  have none_yet : Attempts (worker.rely alone) (worker.Others alone) worker.poll start [] [] start :=
    .none
  have run := none_yet.again first
  have failed : (worker.poll.run (calls true) start).1.toOption.isNone = true := by decide +kernel
  have once := resumed_once
  simp only [Bool.and_eq_true, beq_iff_eq] at once
  obtain ⟨_, ended⟩ := exists_ok once.1.1
  rw [ended] at second
  obtain ⟨outbox, settled⟩ := ingestion_outbox start_fresh
  have inOrder := outbox _ _ _ _ (.between run)
  have all := settled _ _ _ _ _ run second
  exact ⟨failed, _, _, _, run, second, inOrder, all, once.1.2, once.2⟩

end Sentry
