import Sentry.Strategy.LiveResearch
import Sentry.Support.Ranking

/-!
# What the research tables say of the queue

The checkpoints, the records of the attempts and the events that were researched, and what holds
between them at every moment. Events, checkpoints and records only grow, so that whatever is
settled stays settled while others write.
-/
namespace Sentry

open Support Coroutine AuditRow

/-! ### Records -/

/-- One attempt at most, and one outcome of it. -/
inductive OneAttempt : List CandidateRun → Prop where
  | untried : OneAttempt []
  | started {first : CandidateRun} (begun : first.status = .started)
      (open_ : first.proposal = none) : OneAttempt [first]
  | ended {first last : CandidateRun} (begun : first.status = .started)
      (closed : last.status ≠ .started)
      (agrees : last.proposal.isSome = (last.status == .proposed)) : OneAttempt [first, last]

theorem OneAttempt.of_started {runs : List CandidateRun} {last : CandidateRun}
    (attempted : OneAttempt runs) (newest : runs.getLast? = some last)
    (begun : last.status = .started) : runs = [last] ∧ last.proposal = none := by
  cases attempted with
  | untried => cases newest
  | started begun open_ =>
    cases newest
    exact ⟨rfl, open_⟩
  | ended _ closed _ =>
    cases newest
    exact absurd begun closed

namespace CandidateResearchWorker

/-- The records under a key, in the order in which they were appended. -/
def runs (worker : CandidateResearchWorker) (key : String) (g : ResearchStore) :
    List CandidateRun :=
  (matching (worker.keepsUnder key) g.candidateRuns).map fun row => row.payload.payload

end CandidateResearchWorker

namespace LiveMarketResearchQueue

variable {queue : LiveMarketResearchQueue} {foreign : String → Bool} {g g' : ResearchStore}

/-! ### Events -/

/-- What a row is read as, with the identifier of its observation. -/
def Reads (queue : LiveMarketResearchQueue) (row : Stored Payload) (event : SentinelEvent) : Prop :=
  (∃ draw, queue.readEvent draw row = .ok event) ∧
    event.eventId = queue.hashing.uuid5 NAMESPACE_URL event.deduplicationKey

theorem readEvent_ok {draw : UUID} {row : Stored Payload} {event : SentinelEvent}
    (read : queue.readEvent draw row = .ok event) :
    SentinelEvent.modelValidate queue.py draw (eventFields row) = some event := by
  unfold readEvent at read
  split at read
  · cases read
  · split at read
    · cases read
    next _ event' validated =>
      split at read
      · cases read
      · split at read
        · cases read
        · split at read
          · cases read
          · split at read
            · cases read
            · cases read
              exact validated

/-- Fields that are written are read alike, whatever would be drawn. -/
theorem modelValidate_agrees {py : MarketRuntime} {draw draw' : UUID} {fields : Payload}
    {a b : SentinelEvent} (left : SentinelEvent.modelValidate py draw fields = some a)
    (right : SentinelEvent.modelValidate py draw' fields = some b) :
    b = { a with eventId := b.eventId } := by
  simp only [SentinelEvent.modelValidate, Option.bind_eq_bind, Option.bind_eq_some_iff,
    Option.pure_def, Option.some.injEq] at left right
  obtain ⟨_, -, createdAt, written, eventId, -, eventType, type, source, from_, effectiveAt, effective,
    tickers, listed, severity, grave, _, -, key, keyed, references, cited, payload, carried,
    rfl⟩ := left
  obtain ⟨_, -, createdAt', written', eventId', -, eventType', type', source', from', effectiveAt',
    effective', tickers', listed', severity', grave', _, -, key', keyed', references', cited',
    payload', carried', rfl⟩ := right
  rw [written] at written'
  rw [type] at type'
  rw [from_] at from'
  rw [effective] at effective'
  rw [listed] at listed'
  rw [grave] at grave'
  rw [keyed] at keyed'
  rw [cited] at cited'
  rw [carried] at carried'
  cases written'
  cases type'
  cases from'
  cases effective'
  cases listed'
  cases grave'
  cases keyed'
  cases cited'
  cases carried'
  rfl

/-- A row is read as one event only. -/
theorem Reads.unique {row : Stored Payload} {a b : SentinelEvent} (left : queue.Reads row a)
    (right : queue.Reads row b) : a = b := by
  obtain ⟨⟨_, readA⟩, idA⟩ := left
  obtain ⟨⟨_, readB⟩, idB⟩ := right
  -- the identifier, which is drawn when absent, is fixed by another field
  have agrees := modelValidate_agrees (readEvent_ok readA) (readEvent_ok readB)
  have key : b.deduplicationKey = a.deduplicationKey := by rw [agrees]
  rw [agrees, idB, key, ← idA]

/-- A row that the queue takes. -/
def Queued (queue : LiveMarketResearchQueue) (row : Stored Payload) : Prop :=
  queue.scans row = true ∧ ofTypes row = true

/-! ### Checkpoints -/

def cursors (queue : LiveMarketResearchQueue) (g : ResearchStore) : List ResearchCursor :=
  (matching queue.mine g.systemRuns).map fun row => row.payload.payload

/-- There is a checkpoint at a position of the log. -/
def Covered (queue : LiveMarketResearchQueue) (sequence : ℕ) (g : ResearchStore) : Prop :=
  ∃ cursor ∈ queue.cursors g, cursor.eventSequence = sequence

/-- The outcome of an event is stored. -/
def Finished (queue : LiveMarketResearchQueue) (event : SentinelEvent) (g : ResearchStore) : Prop :=
  ∃ run ∈ queue.researcher.runs (queue.researcher.eventKey event) g,
    run.status ≠ .started ∧ run.eventHash = queue.researcher.eventHash event

/-- The rows that were researched, in the order of the log, none before its turn. -/
structure Taken (queue : LiveMarketResearchQueue) (rows : List (AuditRow (Stored Payload)))
    (g : ResearchStore) : Prop where
  read : List.Forall₂ (fun row event => queue.Reads row.payload event) rows g.processed
  stored : ∀ row ∈ rows, row ∈ g.sentinelEvents ∧ queue.Queued row.payload
  ordered : rows.Pairwise fun a b => a.appendSequence < b.appendSequence
  before : ∀ row ∈ rows, ∀ earlier ∈ g.sentinelEvents, queue.Queued earlier.payload →
    earlier.appendSequence < row.appendSequence → queue.Covered earlier.appendSequence g

theorem Taken.done {rows : List (AuditRow (Stored Payload))} {row : AuditRow (Stored Payload)}
    (taken : queue.Taken rows g) (member : row ∈ rows) :
    ∃ event ∈ g.processed, queue.Reads row.payload event := by
  obtain ⟨read, -, -, -⟩ := taken
  generalize g.processed = events at read
  -- on the pairs of a row and what it was read as
  induction read with
  | nil => cases member
  | @cons first event rows events reads rest ih =>
    rcases List.mem_cons.mp member with rfl | later
    · exact ⟨event, List.mem_cons_self, reads⟩
    · obtain ⟨done, there, same⟩ := ih later
      exact ⟨done, List.mem_cons_of_mem _ there, same⟩

/-- What holds at every moment. -/
structure Safe (queue : LiveMarketResearchQueue) (foreign : String → Bool) (g : ResearchStore) :
    Prop where
  increasing : Increasing g.sentinelEvents
  forward : (queue.cursors g).Pairwise fun a b => a.eventSequence < b.eventSequence
  finished : ∀ cursor ∈ queue.cursors g, ∃ row ∈ g.sentinelEvents,
    row.appendSequence = cursor.eventSequence ∧ queue.Queued row.payload ∧
      ∃ event, queue.Reads row.payload event ∧ cursor.eventId = event.eventId ∧
        queue.Finished event g
  whole : ∀ row ∈ g.sentinelEvents, queue.Queued row.payload → ∀ cursor ∈ queue.cursors g,
    row.appendSequence ≤ cursor.eventSequence → queue.Covered row.appendSequence g
  inOrder : ∃ rows, queue.Taken rows g
  recorded : ∀ event ∈ g.processed,
    queue.researcher.runs (queue.researcher.eventKey event) g ≠ []
  once : (g.processed.map queue.researcher.eventKey).Nodup
  attempted : ∀ key, foreign key = false → OneAttempt (queue.researcher.runs key g)

/-- The row whose turn it is: all before it are done, and no checkpoint is behind it. -/
structure Next (queue : LiveMarketResearchQueue) (row : AuditRow (Stored Payload))
    (g : ResearchStore) : Prop where
  stored : row ∈ g.sentinelEvents
  queued : queue.Queued row.payload
  before : ∀ earlier ∈ g.sentinelEvents, queue.Queued earlier.payload →
    earlier.appendSequence < row.appendSequence → queue.Covered earlier.appendSequence g
  fresh : ∀ cursor ∈ queue.cursors g, cursor.eventSequence < row.appendSequence

/-! ### What only grows -/

/-- The log and the records have grown; checkpoints and the researched events are as they were. -/
structure Later (queue : LiveMarketResearchQueue) (g g' : ResearchStore) : Prop where
  events : g.sentinelEvents <+: g'.sentinelEvents
  increasing : Increasing g.sentinelEvents → Increasing g'.sentinelEvents
  runs : ∀ key, queue.researcher.runs key g <+: queue.researcher.runs key g'
  cursors : queue.cursors g' = queue.cursors g
  processed : g'.processed = g.processed

namespace Later

variable (later : queue.Later g g')
include later

theorem covered_iff {sequence : ℕ} : queue.Covered sequence g' ↔ queue.Covered sequence g := by
  unfold Covered
  rw [later.cursors]

theorem finished {event : SentinelEvent} (done : queue.Finished event g) :
    queue.Finished event g' := by
  obtain ⟨run, member, outcome⟩ := done
  exact ⟨run, (later.runs _).subset member, outcome⟩

/-- Whatever comes before a row of the log was there already. -/
theorem before {row earlier : AuditRow (Stored Payload)} (increasing : Increasing g.sentinelEvents)
    (stored : row ∈ g.sentinelEvents) (there : earlier ∈ g'.sentinelEvents)
    (le : earlier.appendSequence ≤ row.appendSequence) : earlier ∈ g.sentinelEvents :=
  (later.increasing increasing).mem_of_le later.events stored there le

theorem taken {rows : List (AuditRow (Stored Payload))} (increasing : Increasing g.sentinelEvents)
    (taken : queue.Taken rows g) : queue.Taken rows g' where
  read := by
    rw [later.processed]
    exact taken.read
  stored row member := ⟨later.events.subset (taken.stored row member).1, (taken.stored row member).2⟩
  ordered := taken.ordered
  before row member earlier there queued less := by
    have old := later.before increasing (taken.stored row member).1 there less.le
    exact later.covered_iff.mpr (taken.before row member earlier old queued less)

theorem next {row : AuditRow (Stored Payload)} (increasing : Increasing g.sentinelEvents)
    (next : queue.Next row g) : queue.Next row g' where
  stored := later.events.subset next.stored
  queued := next.queued
  before earlier there queued less := by
    have old := later.before increasing next.stored there less.le
    exact later.covered_iff.mpr (next.before earlier old queued less)
  fresh := by
    rw [later.cursors]
    exact next.fresh

theorem safe (safe : queue.Safe foreign g)
    (attempted : ∀ key, foreign key = false → OneAttempt (queue.researcher.runs key g')) :
    queue.Safe foreign g' where
  increasing := later.increasing safe.increasing
  forward := by
    rw [later.cursors]
    exact safe.forward
  finished cursor member := by
    rw [later.cursors] at member
    obtain ⟨row, stored, same, queued, event, read, named, done⟩ := safe.finished cursor member
    exact ⟨row, later.events.subset stored, same, queued, event, read, named, later.finished done⟩
  whole row there queued cursor member le := by
    rw [later.cursors] at member
    -- the row of the checkpoint was stored, so that no row before it is new
    obtain ⟨last, stored, same, -⟩ := safe.finished cursor member
    have old := later.before safe.increasing stored there (same ▸ le)
    exact later.covered_iff.mpr (safe.whole row old queued cursor member le)
  inOrder := safe.inOrder.imp fun _ taken => later.taken safe.increasing taken
  recorded event member := by
    rw [later.processed] at member
    intro none_
    -- records only grow, so none now means none before
    have empty := List.prefix_nil.mp (none_ ▸ later.runs (queue.researcher.eventKey event))
    exact safe.recorded event member empty
  once := by
    rw [later.processed]
    exact safe.once
  attempted := attempted

end Later

/-! ### What others leave alone -/

section OthersMove

variable (moved : queue.Others foreign g g')
include moved

theorem Others.later : queue.Later g g' where
  events := moved.sentinelEvents.grown
  increasing := moved.sentinelEvents.increasing
  runs key := (moved.candidateRuns.grown.filter _).map _
  cursors := by
    unfold cursors
    rw [moved.systemRuns.others]
  processed := moved.processed

theorem Others.runs_eq {key : String} (own : foreign key = false) :
    queue.researcher.runs key g' = queue.researcher.runs key g := by
  have within (rows : List (AuditRow (Stored CandidateRun))) :
      matching (queue.researcher.keepsUnder key) rows = matching (queue.researcher.keepsUnder key)
        (matching (fun row => !foreign row.payload.eventKey) rows) := by
    unfold matching
    rw [List.filter_filter]
    refine List.filter_congr fun row _ => ?_
    -- whatever is kept under a key of this queue is none that others write
    cases kept : queue.researcher.keepsUnder key row.payload with
    | false => simp
    | true =>
      simp only [CandidateResearchWorker.keepsUnder, Bool.and_eq_true, beq_iff_eq] at kept
      simp [kept.2, own]
  unfold CandidateResearchWorker.runs
  rw [within g'.candidateRuns, moved.candidateRuns.others, ← within]

theorem Others.safe (safe : queue.Safe foreign g) : queue.Safe foreign g' := by
  refine moved.later.safe safe fun key own => ?_
  rw [moved.runs_eq own]
  exact safe.attempted key own

end OthersMove

/-! ### What the writes do -/

theorem runs_appended {run : CandidateRun} (commits : queue.Commits (.appendRun run) g g') :
    queue.researcher.runs run.eventKey g' = queue.researcher.runs run.eventKey g ++ [run] ∧
      ∀ key, key ≠ run.eventKey → queue.researcher.runs key g' = queue.researcher.runs key g := by
  obtain ⟨rows, appended, rfl⟩ := commits
  -- one row is appended, and it is found under its own key only
  have grown (key : String) := appended.matching_eq (queue.researcher.keepsUnder key)
  constructor
  · obtain ⟨sequence, shown⟩ := grown run.eventKey
    simp only [CandidateResearchWorker.runs, shown]
    simp [CandidateResearchWorker.keepsUnder, RepositoryBinding.row, RepositoryBinding.owns]
  · intro key other
    obtain ⟨sequence, shown⟩ := grown key
    simp only [CandidateResearchWorker.runs, shown]
    simp [CandidateResearchWorker.keepsUnder, RepositoryBinding.row, RepositoryBinding.owns,
      Ne.symm other]

theorem later_appended {run : CandidateRun} (commits : queue.Commits (.appendRun run) g g') :
    queue.Later g g' := by
  obtain ⟨new, others⟩ := runs_appended commits
  have records (key : String) : queue.researcher.runs key g <+: queue.researcher.runs key g' := by
    by_cases same : key = run.eventKey
    · rw [same, new]
      exact List.prefix_append _ _
    · rw [others key same]
  obtain ⟨rows, -, rfl⟩ := commits
  exact ⟨List.prefix_rfl, id, records, rfl, rfl⟩

/-- A record that goes on with the attempt it belongs to. -/
theorem Safe.record (safe : queue.Safe foreign g) {run : CandidateRun}
    (commits : queue.Commits (.appendRun run) g g')
    (goesOn : foreign run.eventKey = false →
      OneAttempt (queue.researcher.runs run.eventKey g ++ [run])) : queue.Safe foreign g' := by
  obtain ⟨new, others⟩ := runs_appended commits
  refine (later_appended commits).safe safe fun key own => ?_
  by_cases same : key = run.eventKey
  · rw [same, new]
    exact goesOn (same ▸ own)
  · rw [others key same]
    exact safe.attempted key own

/-- The event whose turn it is has not been researched yet. -/
theorem Safe.process (safe : queue.Safe foreign g) {row : AuditRow (Stored Payload)}
    (next : queue.Next row g) {event : SentinelEvent} (reads : queue.Reads row.payload event)
    (untried : ∀ done ∈ g.processed,
      queue.researcher.eventKey done ≠ queue.researcher.eventKey event)
    (begun : queue.researcher.runs (queue.researcher.eventKey event) g ≠ []) :
    queue.Safe foreign { g with processed := g.processed ++ [event] } where
  increasing := safe.increasing
  forward := safe.forward
  finished := safe.finished
  whole := safe.whole
  inOrder := by
    obtain ⟨rows, taken⟩ := safe.inOrder
    refine ⟨rows ++ [row],
      { read := List.rel_append taken.read (.cons reads .nil)
        stored := ?_
        ordered := List.pairwise_append.mpr ⟨taken.ordered, List.pairwise_singleton _ _, ?_⟩
        before := ?_ }⟩
    · intro other member
      rcases List.mem_append.mp member with old | new
      · exact taken.stored other old
      · cases List.mem_singleton.mp new
        exact ⟨next.stored, next.queued⟩
    · intro other member last isLast
      cases List.mem_singleton.mp isLast
      obtain ⟨stored, queued⟩ := taken.stored other member
      -- a row from this one on would be this row, or would have waited for it
      rcases pairwise_cases safe.increasing stored next.stored with rfl | less | behind
      · obtain ⟨done, processed, same⟩ := taken.done member
        exact absurd (congrArg _ (same.unique reads)) (untried done processed)
      · exact less
      · obtain ⟨cursor, passed, at_⟩ := taken.before other member row next.stored next.queued behind
        have ahead := next.fresh cursor passed
        omega
    · intro other member earlier there queued less
      rcases List.mem_append.mp member with old | new
      · exact taken.before other old earlier there queued less
      · cases List.mem_singleton.mp new
        exact next.before earlier there queued less
  recorded done member := by
    rcases List.mem_append.mp member with old | new
    · exact safe.recorded done old
    · cases List.mem_singleton.mp new
      exact begun
  once := by
    rw [List.map_append, List.nodup_append]
    -- by `untried`, the new key is not among the old ones
    refine ⟨safe.once, by simp, ?_⟩
    intro key member last isLast
    obtain ⟨done, processed, rfl⟩ := List.mem_map.mp member
    rw [List.map_singleton, List.mem_singleton] at isLast
    rw [isLast]
    exact untried done processed
  attempted := safe.attempted

theorem cursors_appended {cursor : ResearchCursor} (own : cursor.marketResearchQueueKey = queue.key)
    (commits : queue.Commits (.appendCursor cursor) g g') :
    queue.cursors g' = queue.cursors g ++ [cursor] := by
  obtain ⟨rows, appended, rfl⟩ := commits
  obtain ⟨sequence, shown⟩ := appended.matching_eq queue.mine
  simp only [cursors, shown]
  simp [mine, RepositoryBinding.row, RepositoryBinding.owns, own]

/-- The checkpoint of the event whose turn it was, once its outcome is stored. -/
theorem Safe.advance (safe : queue.Safe foreign g) {row : AuditRow (Stored Payload)}
    (next : queue.Next row g) {event : SentinelEvent} (reads : queue.Reads row.payload event)
    (done : queue.Finished event g) {now : Time}
    (commits : queue.Commits (.appendCursor (queue.checkpoint row event now)) g g') :
    queue.Safe foreign g' := by
  have grown := cursors_appended rfl commits
  obtain ⟨rows, -, rfl⟩ := commits
  -- a new checkpoint takes none away
  have covered {sequence : ℕ} (before : queue.Covered sequence g) :
      queue.Covered sequence { g with systemRuns := rows } := by
    obtain ⟨cursor, member, at_⟩ := before
    exact ⟨cursor, by simp [grown, member], at_⟩
  exact
    { increasing := safe.increasing
      forward := by
        rw [grown]
        refine List.pairwise_append.mpr ⟨safe.forward, List.pairwise_singleton _ _, ?_⟩
        intro cursor member last isLast
        cases List.mem_singleton.mp isLast
        exact next.fresh cursor member
      finished := by
        rw [grown]
        intro cursor member
        rcases List.mem_append.mp member with old | new
        · exact safe.finished cursor old
        · cases List.mem_singleton.mp new
          exact ⟨row, next.stored, rfl, next.queued, event, reads, rfl, done⟩
      whole := by
        rw [grown]
        intro other there queued cursor member le
        rcases List.mem_append.mp member with old | new
        · exact covered (safe.whole other there queued cursor old le)
        · cases List.mem_singleton.mp new
          -- whatever comes before this row is done, and this row is done now
          rcases (show other.appendSequence ≤ row.appendSequence from le).lt_or_eq with less | same
          · exact covered (next.before other there queued less)
          · exact ⟨queue.checkpoint row event now, by simp [grown], same.symm⟩
      inOrder := by
        obtain ⟨taken, holds⟩ := safe.inOrder
        refine ⟨taken, holds.read, holds.stored, holds.ordered, ?_⟩
        intro other member earlier there queued less
        exact covered (holds.before other member earlier there queued less)
      recorded := safe.recorded
      once := safe.once
      attempted := safe.attempted }

end LiveMarketResearchQueue
end Sentry
