import Sentry.Sentinel.LiveReads
import Sentry.Support.Ranking

/-!
# The surveillance outbox

What any number of ticks leaves in the tables, with calls that fail before or after they are
committed and processes that end at any of them. The worker's memory is only used while it
covers every stored observation; whatever raises makes the next tick rebuild it from the
tables, and the rows of a stream never move backward, so that the newest row in the order of
tuples bounds all of them.
-/
namespace Sentry

open Support Coroutine AuditRow

namespace Quote

/-- Equities and options have no stream in common. -/
theorem table_of_stream {a b : Quote} (same : a.stream = b.stream) : a.table = b.table := by
  have apart : ∀ s t : String, "equity:" ++ s ≠ "option:" ++ t := by
    intro s t equal
    have texts := congrArg String.toList equal
    simp at texts
  cases a with
  | equity a =>
    cases b with
    | equity b => rfl
    | option b => exact absurd same (apart _ _)
  | option a =>
    cases b with
    | equity b => exact absurd same.symm (apart _ _)
    | option b => rfl

end Quote

namespace LiveReadSurveillanceWorker

variable {worker : LiveReadSurveillanceWorker} {g g₁ g' : SurveillanceStore}

/-! ### The worker's rows -/

/-- The observations of the worker in a table, as they were appended. -/
def observations (worker : LiveReadSurveillanceWorker) (g : SurveillanceStore)
    (table : SnapshotTable) : List Observation :=
  (matching worker.keeps (g.snapshots table)).map fun row => row.payload.payload

/-- The payloads of the events of the worker, as they were appended. -/
def events (worker : LiveReadSurveillanceWorker) (g : SurveillanceStore) : List Payload :=
  (matching worker.ours g.sentinelEvents).map fun row => row.payload.payload

/-- A key of this worker's events. -/
def OwnKey (worker : LiveReadSurveillanceWorker) (key : String) : Prop :=
  ("live-read:" ++ worker.key ++ ":").toList <+: key.toList

theorem ownKey_observationKey (quote : Quote) : worker.OwnKey (worker.observationKey quote) := by
  unfold OwnKey observationKey
  simp only [String.toList_append]
  exact List.prefix_append _ _

theorem OwnKey.eventKey {key : String} (own : worker.OwnKey key) :
    worker.OwnKey (eventKey key) := by
  unfold OwnKey LiveReadSurveillanceWorker.eventKey at *
  rw [String.toList_append (s := key)]
  exact own.trans (List.prefix_append _ _)

theorem ours_of_announces {key : String} (own : worker.OwnKey key) {row : Stored Payload}
    (announced : worker.announces key row = true) : worker.ours row = true := by
  simp only [announces, Payload.has, Bool.and_eq_true, beq_iff_eq] at announced
  simp only [ours, announced.1, announced.2, Bool.true_and, List.isPrefixOf_iff_prefix]
  exact own

theorem document_key (event : SentinelEvent) :
    (worker.document event).get? "deduplication_key" = some (.str event.deduplicationKey) := by
  rw [document, Payload.get?_append, SentinelEvent.dump_deduplicationKey]
  simp [Payload.get?]

/-! ### What the tables hold -/

/-- A row of a table, of whomever, holds an observation. -/
def Held (g : SurveillanceStore) (stored : Observation) : Prop :=
  ∃ table, ∃ row ∈ g.snapshots table, row.payload.payload = stored

/-- What holds of the tables at every moment. -/
structure Safe (worker : LiveReadSurveillanceWorker) (g : SurveillanceStore) : Prop where
  increasing : ∀ table, Increasing (g.snapshots table)
  filed : ∀ table, ∀ stored ∈ worker.observations g table,
    stored.quote.table = table ∧ stored.streamKey = stored.quote.stream
  ordered : ∀ table, (worker.observations g table).Pairwise fun earlier later =>
    earlier.streamKey = later.streamKey →
      earlier.effectiveAt ≤ later.effectiveAt ∧ earlier.observedAt ≤ later.observedAt
  keyed : ∀ table, ∀ stored ∈ worker.observations g table, ∀ event, stored.event = some event →
    worker.OwnKey event.deduplicationKey
  distinct : (worker.events g).Pairwise fun earlier later =>
    earlier.get? "deduplication_key" ≠ later.get? "deduplication_key"
  sourced : ∀ payload ∈ worker.events g, ∃ stored, Held g stored ∧
    ∃ event, stored.event = some event ∧ payload = worker.document event

/-- The event of an observation is stored as it is. -/
def Published (worker : LiveReadSurveillanceWorker) (g : SurveillanceStore)
    (stored : Observation) : Prop :=
  ∀ event, stored.event = some event → worker.document event ∈ worker.events g

/-- The memory is not behind an observation. -/
def Bounded (g : SurveillanceStore) (stored : Observation) : Prop :=
  ∃ last, g.memory.previous.get? stored.streamKey = some last ∧
    stored.effectiveAt ≤ last.effectiveAt ∧ stored.observedAt ≤ last.observedAt

/-- Nothing is left to recover. -/
structure Caught (worker : LiveReadSurveillanceWorker) (g : SurveillanceStore) : Prop where
  published : ∀ table, ∀ stored ∈ worker.observations g table, worker.Published g stored
  bounded : ∀ table, ∀ stored ∈ worker.observations g table, Bounded g stored

/-- A memory that is used covers the tables. -/
structure Inv (worker : LiveReadSurveillanceWorker) (g : SurveillanceStore) : Prop where
  safe : worker.Safe g
  caught : g.memory.restored = true → worker.Caught g

/-! ### What leaves the worker's rows alone -/

/-- The worker's memory and rows are as they were, and its events have only grown. -/
structure Later (worker : LiveReadSurveillanceWorker) (g g' : SurveillanceStore) : Prop where
  memory : g'.memory = g.memory
  rows : ∀ table, matching worker.keeps (g'.snapshots table) =
    matching worker.keeps (g.snapshots table)
  events : worker.events g ⊆ worker.events g'
  grown : ∀ table, g.snapshots table <+: g'.snapshots table

/-- A property of the store that later events do not take away. -/
def Stable (worker : LiveReadSurveillanceWorker) (P : SurveillanceStore → Prop) : Prop :=
  ∀ {g g'}, worker.Later g g' → P g → P g'

section LaterMove

variable (later : worker.Later g g')
include later

theorem Later.observations_eq (table : SnapshotTable) :
    worker.observations g' table = worker.observations g table := by
  unfold observations
  rw [later.rows]

theorem Later.published {stored : Observation} (published : worker.Published g stored) :
    worker.Published g' stored :=
  fun event carried => later.events (published event carried)

theorem Later.held {stored : Observation} (held : Held g stored) : Held g' stored := by
  obtain ⟨table, row, member, same⟩ := held
  exact ⟨table, row, (later.grown table).subset member, same⟩

theorem Later.bounded {stored : Observation} (bounded : Bounded g stored) :
    Bounded g' stored := by
  unfold Bounded
  rw [later.memory]
  exact bounded

theorem Later.caught (caught : worker.Caught g) : worker.Caught g' where
  published table := later.observations_eq table ▸ fun stored member =>
    later.published (caught.published table stored member)
  bounded table := later.observations_eq table ▸ fun stored member =>
    later.bounded (caught.bounded table stored member)

end LaterMove

section OthersMove

variable (moved : worker.Others g g')
include moved

theorem Others.events_eq : worker.events g' = worker.events g := by
  unfold events
  rw [moved.sentinelEvents.others]

theorem Others.later : worker.Later g g' where
  memory := moved.memory
  rows table := (moved.snapshots table).others
  events := moved.events_eq ▸ List.Subset.refl _
  grown table := (moved.snapshots table).grown

theorem Others.safe (safe : worker.Safe g) : worker.Safe g' where
  increasing table := (moved.snapshots table).increasing (safe.increasing table)
  filed table := moved.later.observations_eq table ▸ safe.filed table
  ordered table := moved.later.observations_eq table ▸ safe.ordered table
  keyed table := moved.later.observations_eq table ▸ safe.keyed table
  distinct := moved.events_eq ▸ safe.distinct
  sourced := moved.events_eq ▸ fun payload member =>
    let ⟨stored, held, carried⟩ := safe.sourced payload member
    ⟨stored, moved.later.held held, carried⟩

theorem Others.inv (inv : worker.Inv g) : worker.Inv g' where
  safe := moved.safe inv.safe
  caught restored := moved.later.caught (inv.caught (moved.memory ▸ restored))

end OthersMove

/-- The tables are what they are, whatever the worker remembers. -/
theorem Safe.remembering (safe : worker.Safe g)
    (f : SurveillanceMemory → SurveillanceMemory) : worker.Safe (g.updateMemory f) :=
  ⟨safe.increasing, safe.filed, safe.ordered, safe.keyed, safe.distinct, safe.sourced⟩

/-! ### What a call does to the worker's rows -/

theorem events_key {row : AuditRow (Stored Payload)} {key : String} (own : worker.OwnKey key)
    (member : row ∈ g.sentinelEvents) (announced : worker.announces key row.payload = true) :
    row.payload.payload ∈ worker.events g :=
  List.mem_map_of_mem (mem_matching.mpr ⟨member, ours_of_announces own announced⟩)

/-- No event of the worker has a key. -/
def Unannounced (worker : LiveReadSurveillanceWorker) (key : String) (g : SurveillanceStore) :
    Prop :=
  ∀ payload ∈ worker.events g, payload.get? "deduplication_key" ≠ some (.str key)

theorem unannounced {key : String}
    (missing : findPayload (worker.announces key) g.sentinelEvents = none) :
    worker.Unannounced key g := by
  intro payload member same
  obtain ⟨row, there, rfl⟩ := List.mem_map.mp member
  obtain ⟨stored, own⟩ := mem_matching.mp there
  have out := findPayload_none missing stored
  simp only [ours, Bool.and_eq_true] at own
  simp [announces, own.1, Payload.has, same] at out

section Commits

variable {table : SnapshotTable} {stored : Observation}

theorem commits_rows (own : worker.keeps { createdAt := stored.createdAt, payload := stored } = true)
    (commits : worker.Commits (.appendObservation table stored) g g') :
    worker.observations g' table = worker.observations g table ++ [stored] ∧
      ∀ other, other ≠ table → worker.observations g' other = worker.observations g other := by
  obtain ⟨rows, appended, rfl⟩ := commits
  constructor
  · obtain ⟨sequence, shown⟩ := appended.matching_eq worker.keeps
    simp [observations, shown, own]
  · intro other different
    simp [observations, Function.update_of_ne different]

theorem mem_commits_rows
    (own : worker.keeps { createdAt := stored.createdAt, payload := stored } = true)
    (commits : worker.Commits (.appendObservation table stored) g g') {other : SnapshotTable}
    {s : Observation} :
    s ∈ worker.observations g' other ↔
      s ∈ worker.observations g other ∨ other = table ∧ s = stored := by
  obtain ⟨here, elsewhere⟩ := commits_rows own commits
  by_cases same : other = table
  · subst same
    simp [here]
  · simp [elsewhere other same, same]

theorem commits_grown (commits : worker.Commits (.appendObservation table stored) g g')
    (other : SnapshotTable) : g.snapshots other <+: g'.snapshots other := by
  obtain ⟨rows, appended, rfl⟩ := commits
  by_cases same : other = table
  · subst same
    simpa using appended.grown
  · simp [Function.update_of_ne same]

/-- The row of an observation is there once it is committed. -/
theorem commits_held (commits : worker.Commits (.appendObservation table stored) g g') :
    Held g' stored := by
  obtain ⟨rows, ⟨sequence, rfl, -⟩, rfl⟩ := commits
  exact ⟨table, ⟨sequence, { createdAt := stored.createdAt, payload := stored }⟩, by simp, rfl⟩

theorem commits_increasing (commits : worker.Commits (.appendObservation table stored) g g')
    (before : ∀ table, Increasing (g.snapshots table)) :
    ∀ table, Increasing (g'.snapshots table) := by
  obtain ⟨rows, appended, rfl⟩ := commits
  intro other
  by_cases same : other = table
  · subst same
    simpa using appended.increasing (before other)
  · simpa [Function.update_of_ne same] using before other

theorem commits_event {event : SentinelEvent} (own : worker.OwnKey event.deduplicationKey)
    (commits : worker.Commits (.appendEvent event) g g') :
    g'.memory = g.memory ∧ g'.snapshots = g.snapshots ∧
      worker.events g' = worker.events g ++ [worker.document event] := by
  obtain ⟨rows, appended, rfl⟩ := commits
  refine ⟨rfl, rfl, ?_⟩
  obtain ⟨sequence, shown⟩ := appended.matching_eq worker.ours
  have mine : worker.ours (worker.binding.row event.createdAt (worker.document event)) = true := by
    apply ours_of_announces own
    simp [announces, Payload.has, RepositoryBinding.owns, RepositoryBinding.row, document_key]
  rw [mine, if_pos rfl] at shown
  simp [events, shown, RepositoryBinding.row]

end Commits

/-- One observation is not after another one. -/
def NotAfter (a b : Observation) : Prop :=
  a.effectiveAt ≤ b.effectiveAt ∧ a.observedAt ≤ b.observedAt

/-- An event that is new is one more. -/
theorem Safe.announce (safe : worker.Safe g) {stored : Observation} {event : SentinelEvent}
    (held : Held g stored) (carried : stored.event = some event)
    (own : worker.OwnKey event.deduplicationKey)
    (fresh : worker.Unannounced event.deduplicationKey g)
    (commits : worker.Commits (.appendEvent event) g g') :
    worker.Safe g' ∧ worker.Later g g' ∧ worker.document event ∈ worker.events g' := by
  obtain ⟨memory, snapshots, events_⟩ := commits_event own commits
  have rows : ∀ table, worker.observations g' table = worker.observations g table := by
    intro table
    unfold observations
    rw [snapshots]
  have later : worker.Later g g' := ⟨memory, fun table => by rw [snapshots], by simp [events_],
    fun table => by rw [snapshots]⟩
  refine ⟨?_, later, by simp [events_]⟩
  exact {
    increasing := snapshots ▸ safe.increasing
    filed := fun table => rows table ▸ safe.filed table
    ordered := fun table => rows table ▸ safe.ordered table
    keyed := fun table => rows table ▸ safe.keyed table
    distinct := by
      rw [events_]
      refine List.pairwise_append.mpr ⟨safe.distinct, List.pairwise_singleton _ _, ?_⟩
      intro earlier member last isLast
      cases List.mem_singleton.mp isLast
      rw [document_key]
      exact fresh earlier member
    sourced := by
      rw [events_]
      intro payload member
      rcases List.mem_append.mp member with before | isLast
      · obtain ⟨stored, held, carried⟩ := safe.sourced payload before
        exact ⟨stored, later.held held, carried⟩
      · exact ⟨stored, later.held held, event, carried, List.mem_singleton.mp isLast⟩ }

/-- An observation that is not before any of its stream keeps the streams in order. -/
theorem Safe.observe (safe : worker.Safe g) {table : SnapshotTable} {stored : Observation}
    (own : worker.keeps { createdAt := stored.createdAt, payload := stored } = true)
    (filed : stored.quote.table = table ∧ stored.streamKey = stored.quote.stream)
    (keyed : ∀ event, stored.event = some event → worker.OwnKey event.deduplicationKey)
    (newest : ∀ s ∈ worker.observations g table, s.streamKey = stored.streamKey →
      NotAfter s stored)
    (commits : worker.Commits (.appendObservation table stored) g g') : worker.Safe g' where
  increasing := commits_increasing commits safe.increasing
  filed other s member := by
    rcases (mem_commits_rows own commits).mp member with before | ⟨rfl, rfl⟩
    · exact safe.filed other s before
    · exact filed
  ordered other := by
    by_cases same : other = table
    · subst same
      rw [(commits_rows own commits).1]
      refine List.pairwise_append.mpr ⟨safe.ordered other, List.pairwise_singleton _ _, ?_⟩
      intro earlier member last isLast
      cases List.mem_singleton.mp isLast
      exact newest earlier member
    · rw [(commits_rows own commits).2 other same]
      exact safe.ordered other
  keyed other s member := by
    rcases (mem_commits_rows own commits).mp member with before | ⟨rfl, rfl⟩
    · exact safe.keyed other s before
    · exact keyed
  distinct := by
    obtain ⟨rows, appended, rfl⟩ := commits
    exact safe.distinct
  sourced payload member := by
    have before : payload ∈ worker.events g := by
      obtain ⟨rows, appended, rfl⟩ := commits
      exact member
    obtain ⟨source, ⟨other, row, there, same⟩, carried⟩ := safe.sourced payload before
    exact ⟨source, ⟨other, row, (commits_grown commits other).subset there, same⟩, carried⟩

end LiveReadSurveillanceWorker
end Sentry
