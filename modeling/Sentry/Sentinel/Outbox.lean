import Sentry.Sentinel.Surveillance

/-!
# Ticks of the surveillance worker

A triple for every part of a tick. A tick that returns has published the event of every stored
observation; one that raises leaves tables that the next one can rebuild its memory from. The
outbox is what follows for every moment of any number of ticks.
-/
namespace Sentry

open Support Coroutine AuditRow

namespace LiveReadSurveillanceWorker

variable {worker : LiveReadSurveillanceWorker} {g g' : SurveillanceStore}

/-! ### Calls -/

/-- What an exception leaves: the process may have ended, and its memory with it. -/
def Failed (worker : LiveReadSurveillanceWorker) (e : Exc) (g : SurveillanceStore) : Prop :=
  worker.Safe g ∧ (e = .interrupt → g.memory.restored = false)

/-- Whenever a call is made the tables are safe. -/
def spec (worker : LiveReadSurveillanceWorker) : Spec SurveillanceStore Exc LiveReadAns :=
  worker.service.spec worker.Safe

theorem failed_after (safe : worker.Safe g) (e : Exc) : worker.Failed e (g.after e) := by
  unfold SurveillanceStore.after
  split
  next ended => exact ⟨safe.remembering fun _ => {}, fun _ => rfl⟩
  next alive => exact ⟨safe, fun interrupted => absurd interrupted alive⟩

theorem failed_of_ne {e : Exc} (safe : worker.Safe g) (alive : e ≠ .interrupt) :
    worker.Failed e g :=
  ⟨safe, fun interrupted => absurd interrupted alive⟩

section Asking

variable {op : LiveReadOp} {P : SurveillanceStore → Prop}

/-- A call whose effect is known, committed or not. -/
theorem ask_triple {Q : LiveReadAns op → SurveillanceStore → Prop}
    (safe : ∀ g, P g → worker.Safe g)
    (others : ∀ g g', worker.Others g g' → P g → P g')
    (commits : ∀ g g', P g → worker.Commits op g g' → worker.Safe g')
    (answers : ∀ g a g', P g → worker.Answers op g a → worker.Commits op g g' → Q a g') :
    Triple worker.spec worker.Failed P (ask op) Q := by
  exact Service.call safe others (fun g e now => failed_after (safe g now) e)
    (fun g g' e now committed => failed_after (commits g g' now committed) e) answers

/-- A call that changes nothing. -/
theorem read_triple (idle : ∀ g g', worker.Commits op g g' → g' = g)
    (safe : ∀ g, P g → worker.Safe g)
    (others : ∀ g g', worker.Others g g' → P g → P g') :
    Triple worker.spec worker.Failed P (ask op) fun a g => worker.Answers op g a ∧ P g := by
  exact Service.read idle safe others fun g e now => failed_after (safe g now) e

end Asking

/-! ### Events -/

section Events

variable {P : SurveillanceStore → Prop} {stored : Observation}

/-- The event of an observation with a key of the worker's is published. -/
theorem ensureEvent_triple (stable : worker.Stable P) (held : ∀ g, P g → Held g stored)
    (own : worker.OwnKey stored.observationKey) :
    Triple worker.spec worker.Failed (fun g => worker.Safe g ∧ P g) (worker.ensureEvent stored)
      fun _ g => worker.Safe g ∧ P g ∧ worker.Published g stored := by
  unfold ensureEvent
  cases carried : stored.event with
  | none =>
    refine Triple.pure fun g now => ⟨now.1, now.2, fun event some_ => ?_⟩
    rw [carried] at some_
    cases some_
  | some event =>
    refine Triple.raiseIf (fun _ g now => failed_of_ne now.1 (by simp)) fun identified => ?_
    have key : event.deduplicationKey = eventKey stored.observationKey := by
      simp only [Bool.not_eq_false', identifies, Bool.and_eq_true, beq_iff_eq] at identified
      exact identified.1.1.1.1.1.2
    have ownKey : worker.OwnKey event.deduplicationKey := key ▸ own.eventKey
    have published {g} (there : worker.document event ∈ worker.events g) :
        worker.Published g stored := by
      intro other same
      rw [carried] at same
      cases same
      exact there
    refine Triple.bind (read_triple (fun _ _ same => same) (fun _ now => now.1)
      fun _ _ moved now => ⟨moved.safe now.1, stable moved.later now.2⟩) fun existing => ?_
    cases existing with
    | some row =>
      -- it has been stored before
      dsimp only
      refine Triple.raiseIf (fun _ g now => failed_of_ne now.2.1 (by simp)) fun same => ?_
      refine Triple.pure fun g now => ⟨now.2.1, now.2.2, published ?_⟩
      obtain ⟨member, announced⟩ := findPayload_some now.1.symm
      have content : row.payload.payload = worker.document event := by simpa using same
      exact content ▸ events_key ownKey member announced
    | none =>
      dsimp only
      refine Triple.bind (R := fun _ g => worker.Safe g ∧ P g ∧ worker.Published g stored)
        (Triple.strengthen (P := fun g => worker.Unannounced event.deduplicationKey g ∧
          worker.Safe g ∧ P g) (ask_triple ?_ ?_ ?_ ?_)
          fun g now => ⟨unannounced now.1.symm, now.2⟩) fun _ => Triple.pure fun _ => id
      · exact fun g now => now.2.1
      · rintro g g' moved ⟨fresh, safe, now⟩
        refine ⟨?_, moved.safe safe, stable moved.later now⟩
        unfold Unannounced
        rw [moved.events_eq]
        exact fresh
      · exact fun g g' now committed => (now.2.1.announce (held g now.2.2) carried ownKey now.1 committed).1
      · rintro g a g' ⟨fresh, safe, now⟩ - committed
        obtain ⟨safe', later, there⟩ := safe.announce (held _ now) carried ownKey fresh committed
        exact ⟨safe', stable later now, published there⟩

end Events
/-! ### Storing a quote -/

/-- The memory is used, and nothing is left to recover. -/
structure Ready (worker : LiveReadSurveillanceWorker) (g : SurveillanceStore) : Prop where
  safe : worker.Safe g
  restored : g.memory.restored = true
  caught : worker.Caught g

theorem Ready.inv (ready : worker.Ready g) : worker.Inv g := ⟨ready.safe, fun _ => ready.caught⟩

/-- An observation that is stored is published again. -/
theorem republish_triple {stored : Observation} (own : worker.OwnKey stored.observationKey) :
    Triple worker.spec worker.Failed (fun g => worker.Ready g ∧ Held g stored)
      (worker.ensureEvent stored) fun _ => worker.Ready := by
  have stable : worker.Stable fun g =>
      (g.memory.restored = true ∧ worker.Caught g) ∧ Held g stored := by
    intro g g' later now
    exact ⟨⟨later.memory ▸ now.1.1, later.caught now.1.2⟩, later.held now.2⟩
  exact (ensureEvent_triple stable (fun _ now => now.2) own).consequence
    (fun _ now => ⟨now.1.safe, ⟨now.1.restored, now.1.caught⟩, now.2⟩)
    fun _ _ now => ⟨now.1, now.2.1.1.1, now.2.1.1.2⟩

theorem Ready.moved (moved : worker.Others g g') (ready : worker.Ready g) : worker.Ready g' where
  safe := moved.safe ready.safe
  restored := moved.memory ▸ ready.restored
  caught := moved.later.caught ready.caught

/-- What the worker remembers of a stream. -/
def Remembers (stream : String) (previous : Option Observation) (g : SurveillanceStore) : Prop :=
  g.memory.previous.get? stream = previous

/-- A new observation is stored, and neither published nor remembered yet. -/
structure Pending (worker : LiveReadSurveillanceWorker) (stored : Observation)
    (g : SurveillanceStore) : Prop where
  restored : g.memory.restored = true
  published : ∀ table, ∀ s ∈ worker.observations g table, s = stored ∨ worker.Published g s
  bounded : ∀ table, ∀ s ∈ worker.observations g table,
    s.streamKey = stored.streamKey ∧ NotAfter s stored ∨
      s.streamKey ≠ stored.streamKey ∧ Bounded g s
  held : Held g stored

theorem Pending.stable {stored : Observation} : worker.Stable (worker.Pending stored) := by
  intro g g' later pending
  refine ⟨later.memory ▸ pending.restored, ?_, ?_, later.held pending.held⟩
  · intro table s member
    rw [later.observations_eq] at member
    exact (pending.published table s member).imp id later.published
  · intro table s member
    rw [later.observations_eq] at member
    exact (pending.bounded table s member).imp id fun apart => ⟨apart.1, later.bounded apart.2⟩

theorem notAfter_refl (stored : Observation) : NotAfter stored stored := ⟨le_rfl, le_rfl⟩

theorem NotAfter.trans {a b c : Observation} (first : NotAfter a b) (second : NotAfter b c) :
    NotAfter a c :=
  ⟨first.1.trans second.1, first.2.trans second.2⟩

/-- Once it is remembered, nothing is left to recover. -/
theorem Pending.ready {stored : Observation} (safe : worker.Safe g)
    (pending : worker.Pending stored g) (published : worker.Published g stored) :
    worker.Ready (g.updateMemory (.remember stored.streamKey stored)) where
  safe := safe.remembering _
  restored := pending.restored
  caught :=
    { published := fun table s member => by
        rcases pending.published table s member with rfl | there
        · exact published
        · exact there
      bounded := fun table s member => by
        rcases pending.bounded table s member with ⟨same, notAfter⟩ | ⟨different, last, there, bound⟩
        · exact ⟨stored, by simp [SurveillanceStore.updateMemory, SurveillanceMemory.remember, same],
            notAfter⟩
        · refine ⟨last, ?_, bound⟩
          simpa [SurveillanceStore.updateMemory, SurveillanceMemory.remember,
            Dict.get?_set_of_ne _ _ (Ne.symm different)] using there }

section Persist

variable {previous : Option Observation} {quote : Quote} {stored : Observation}

/-- A quote that does not move backward is after everything in its stream. -/
theorem Ready.newest (ready : worker.Ready g) {stream : String}
    (remembers : Remembers stream previous g)
    (forward : (previous.any fun old => backward quote old.quote) = false)
    (table : SnapshotTable) {s : Observation} (member : s ∈ worker.observations g table)
    (same : s.streamKey = stream) :
    s.effectiveAt ≤ quote.metadata.effectiveAt ∧ s.observedAt ≤ quote.metadata.observedAt := by
  obtain ⟨last, there, effective, observed⟩ := ready.caught.bounded table s member
  have known : previous = some last := by rw [← remembers, ← same, there]
  subst known
  simp only [Option.any_some, backward, Bool.or_eq_false_iff, decide_eq_false_iff_not, not_or,
    not_lt] at forward
  exact ⟨effective.trans forward.1.1, observed.trans forward.1.2⟩

theorem ownKey_event {key : String} {now : Time} {event : SentinelEvent}
    (own : worker.OwnKey key)
    (carried : worker.surveillanceEvent previous quote key now = some event) :
    worker.OwnKey event.deduplicationKey := by
  have named : event.deduplicationKey = eventKey key := by
    unfold surveillanceEvent at carried
    cases previous
    all_goals
      dsimp only at carried
      split at carried
      · cases carried
        rfl
      · cases carried
  exact named ▸ own.eventKey

theorem keeps_observation (key : String) (now : Time) :
    worker.keeps { createdAt := now, payload := worker.observation previous quote key now } = true := by
  simp [keeps, observation]

/-- A committed observation is pending. -/
theorem Ready.append (ready : worker.Ready g) {received : Quote} {now : Time}
    (remembers : Remembers quote.stream previous g)
    (forward : (previous.any fun old => backward quote old.quote) = false)
    (stored_eq : stored = worker.observation previous quote (worker.observationKey received) now)
    (commits : worker.Commits (.appendObservation quote.table stored) g g') :
    worker.Safe g' ∧ worker.Pending stored g' := by
  have own : worker.keeps { createdAt := stored.createdAt, payload := stored } = true := by
    rw [stored_eq]
    exact keeps_observation _ _
  have newest {table : SnapshotTable} {s : Observation} (member : s ∈ worker.observations g table)
      (same : s.streamKey = stored.streamKey) : NotAfter s stored := by
    subst stored_eq
    exact ready.newest remembers forward table member same
  have safe' : worker.Safe g' := by
    refine ready.safe.observe own ?_ ?_ (fun s member => newest member) commits
    · subst stored_eq
      exact ⟨rfl, rfl⟩
    · subst stored_eq
      exact fun event carried => ownKey_event (ownKey_observationKey received) carried
  have memory : g'.memory = g.memory := by
    obtain ⟨rows, -, rfl⟩ := commits
    rfl
  have events_ : worker.events g' = worker.events g := by
    obtain ⟨rows, -, rfl⟩ := commits
    rfl
  refine ⟨safe', memory ▸ ready.restored, ?_, ?_, commits_held commits⟩
  · intro table s member
    rcases (mem_commits_rows own commits).mp member with before | ⟨-, rfl⟩
    · right
      unfold Published
      rw [events_]
      exact ready.caught.published table s before
    · exact .inl rfl
  · intro table s member
    rcases (mem_commits_rows own commits).mp member with before | ⟨-, rfl⟩
    · by_cases same : s.streamKey = stored.streamKey
      · exact .inl ⟨same, newest before same⟩
      · refine .inr ⟨same, ?_⟩
        unfold Bounded
        rw [memory]
        exact ready.caught.bounded table s before
    · exact .inl ⟨rfl, notAfter_refl _⟩

end Persist

/-- Ready, and with what is remembered of a stream. -/
theorem remembers_moved {stream : String} {previous : Option Observation}
    (moved : worker.Others g g') (remembers : Remembers stream previous g) :
    Remembers stream previous g' := by
  unfold Remembers
  rw [moved.memory]
  exact remembers

theorem persist_triple (received : Quote) :
    Triple worker.spec worker.Failed worker.Ready (worker.persist received)
      fun _ => worker.Ready := by
  unfold persist
  set quote := received.withSnapshotId (worker.hashing.uuid5 NAMESPACE_URL
    (worker.observationKey received))
  have stream : received.stream = quote.stream := by simp [quote]
  rw [stream]
  refine Triple.peek fun previous => ?_
  refine Triple.raiseIf (fun _ g now => failed_of_ne now.1.safe (by simp)) fun forward => ?_
  refine Triple.bind (read_triple (P := fun g => worker.Ready g ∧ Remembers quote.stream previous g)
    (fun _ _ same => same) (fun _ now => now.1.safe)
    fun _ _ moved now => ⟨now.1.moved moved, remembers_moved moved now.2⟩) fun existing => ?_
  cases existing with
  | some row =>
    -- the content is stored, perhaps without its event
    dsimp only
    rintro h g ⟨found, ready, -⟩
    obtain ⟨member, shown⟩ := findPayload_some found.symm
    have own : worker.OwnKey row.payload.payload.observationKey := by
      simp only [keepsUnder, Bool.and_eq_true, beq_iff_eq] at shown
      exact shown.1.1 ▸ ownKey_observationKey received
    exact Triple.seq (Q := fun _ => worker.Ready) (republish_triple own)
      (fun _ => Triple.pure fun _ => id) h g ⟨ready, _, row, member, rfl⟩
  | none =>
    dsimp only
    refine Triple.raiseIf (fun _ g now => failed_of_ne now.2.1.safe (by simp)) fun _ => ?_
    refine Triple.peek fun now => ?_
    set stored := worker.observation previous quote (worker.observationKey received) now
      with stored_eq
    refine Triple.bind (R := fun _ g => worker.Safe g ∧ worker.Pending stored g)
      (Triple.strengthen (P := fun g => worker.Ready g ∧ Remembers quote.stream previous g)
        (ask_triple ?_ ?_ ?_ ?_) fun g now => now.1.2) fun _ => ?_
    · exact fun g now => now.1.safe
    · exact fun g g' moved now => ⟨now.1.moved moved, remembers_moved moved now.2⟩
    · exact fun g g' now committed => (now.1.append now.2 forward stored_eq committed).1
    · exact fun g a g' now _ committed => now.1.append now.2 forward stored_eq committed
    refine Triple.bind (ensureEvent_triple Pending.stable (fun _ pending => pending.held)
      (ownKey_observationKey received)) fun _ => ?_
    refine Triple.seq (I := worker.Ready) (Triple.change ?_) fun _ => Triple.pure fun _ => id
    exact fun g now => now.2.1.ready now.1 now.2.2

theorem persistAll_triple (quotes : List Quote) (events : List SentinelEvent) :
    Triple worker.spec worker.Failed worker.Ready (worker.persistAll quotes events)
      fun _ => worker.Ready := by
  induction quotes generalizing events with
  | nil => exact Triple.pure fun _ => id
  | cons quote rest ih => exact Triple.bind (persist_triple quote) fun event => ih _

/-! ### Recovery -/

/-- The memory is rebuilt from the rows `M` of the worker: the observations in `D` are published
and those in `B` are bounded by what is remembered. -/
structure Rebuilding (worker : LiveReadSurveillanceWorker)
    (M : SnapshotTable → List (AuditRow (Stored Observation))) (D B : Observation → Prop)
    (g : SurveillanceStore) : Prop where
  frozen : ∀ table, matching worker.keeps (g.snapshots table) = M table
  known : ∀ stream last, g.memory.previous.get? stream = some last →
    last.streamKey = stream ∧ ∃ table, last ∈ worker.observations g table
  published : ∀ stored, D stored → worker.Published g stored
  bounded : ∀ stored, B stored → Bounded g stored

section Recovery

variable {M : SnapshotTable → List (AuditRow (Stored Observation))} {D B : Observation → Prop}

theorem Rebuilding.stable : worker.Stable (worker.Rebuilding M D B) := by
  intro g g' later rebuilding
  refine ⟨fun table => later.rows table ▸ rebuilding.frozen table, ?_,
    fun s member => later.published (rebuilding.published s member),
    fun s member => later.bounded (rebuilding.bounded s member)⟩
  intro stream last there
  rw [later.memory] at there
  obtain ⟨same, table, member⟩ := rebuilding.known stream last there
  exact ⟨same, table, later.observations_eq table ▸ member⟩

theorem Rebuilding.weaken {D' B' : Observation → Prop} (rebuilding : worker.Rebuilding M D B g)
    (fewer : ∀ s, D' s → D s) (smaller : ∀ s, B' s → B s) : worker.Rebuilding M D' B' g :=
  ⟨rebuilding.frozen, rebuilding.known, fun s member => rebuilding.published s (fewer s member),
    fun s member => rebuilding.bounded s (smaller s member)⟩

/-- Two observations of one stream are in order, one way or the other. -/
theorem Safe.comparable (safe : worker.Safe g) {a b : Observation} {table other : SnapshotTable}
    (left : a ∈ worker.observations g table) (right : b ∈ worker.observations g other)
    (same : a.streamKey = b.streamKey) : NotAfter a b ∨ NotAfter b a := by
  obtain ⟨tableA, streamA⟩ := safe.filed table a left
  obtain ⟨tableB, streamB⟩ := safe.filed other b right
  have one : table = other := by
    rw [← tableA, ← tableB]
    exact Quote.table_of_stream (by rw [← streamA, ← streamB, same])
  subst one
  rcases pairwise_cases (safe.ordered table) left right with rfl | before | after
  · exact .inl (notAfter_refl a)
  · exact .inl (before same)
  · exact .inr (after same.symm)

/-- Of two that are in order, the one that is newer as a tuple is not before the other. -/
theorem notAfter_of_recency {a b : Observation} (comparable : NotAfter a b ∨ NotAfter b a)
    (newer : a.recency ≤ b.recency) : NotAfter a b := by
  rcases comparable with there | ⟨effective, observed⟩
  · exact there
  · rcases Prod.Lex.toLex_le_toLex.mp newer with less | ⟨equal, rest⟩
    · exact absurd less (not_lt.mpr effective)
    · refine ⟨equal.le, ?_⟩
      rcases Prod.Lex.toLex_le_toLex.mp rest with less | ⟨same, -⟩
      · exact less.le
      · exact same.le

/-- Whether a stored observation takes the place of the one that is remembered. -/
def replaces (stored : Observation) (g : SurveillanceStore) : Bool :=
  (g.memory.previous.get? stored.streamKey).all fun current =>
    decide (current.recency < stored.recency)

theorem Rebuilding.remember (safe : worker.Safe g) (rebuilding : worker.Rebuilding M D B g)
    {table : SnapshotTable} {stored : Observation} (member : stored ∈ worker.observations g table) :
    worker.Rebuilding M D (fun s => B s ∨ s = stored)
      (if replaces stored g then g.updateMemory (.remember stored.streamKey stored) else g) := by
  split
  next newer =>
    refine ⟨rebuilding.frozen, ?_, rebuilding.published, ?_⟩
    · intro stream last there
      simp only [SurveillanceStore.updateMemory, SurveillanceMemory.remember,
        Dict.get?_set] at there
      split at there
      next same =>
        cases there
        exact ⟨same, table, member⟩
      next => exact rebuilding.known stream last there
    · intro s among
      by_cases same : s.streamKey = stored.streamKey
      · refine ⟨stored, by simp [SurveillanceStore.updateMemory, SurveillanceMemory.remember, same],
          ?_⟩
        rcases among with before | rfl
        · -- what is remembered of the stream lies between the two
          obtain ⟨current, there, bound⟩ := rebuilding.bounded s before
          rw [same] at there
          obtain ⟨key, other, listed⟩ := rebuilding.known _ _ there
          simp only [replaces, there, Option.all_some, decide_eq_true_eq] at newer
          exact NotAfter.trans bound
            (notAfter_of_recency (safe.comparable listed member key) newer.le)
        · exact notAfter_refl s
      · rcases among with before | rfl
        · obtain ⟨current, there, bound⟩ := rebuilding.bounded s before
          refine ⟨current, ?_, bound⟩
          simpa [SurveillanceStore.updateMemory, SurveillanceMemory.remember,
            Dict.get?_set_of_ne _ _ (Ne.symm same)] using there
        · exact absurd rfl same
  next older =>
    refine ⟨rebuilding.frozen, rebuilding.known, rebuilding.published, ?_⟩
    rintro s (before | rfl)
    · exact rebuilding.bounded s before
    · obtain ⟨current, there, notNewer⟩ := Option.all_eq_false _ _ |>.mp (by simpa [replaces] using older)
      obtain ⟨key, other, listed⟩ := rebuilding.known _ _ there
      refine ⟨current, there, notAfter_of_recency (safe.comparable member listed key.symm) ?_⟩
      simpa using notNewer

/-- A row is remembered if it is newer, and its event is published. -/
theorem restoreRow_triple {table : SnapshotTable} {row : AuditRow (Stored Observation)}
    (listed : row ∈ M table) (repaired : List SentinelEvent) :
    Triple worker.spec worker.Failed (fun g => worker.Safe g ∧ worker.Rebuilding M D D g)
      (worker.restoreRow row repaired)
      fun _ g => worker.Safe g ∧ worker.Rebuilding M (fun s => D s ∨ s = row.payload.payload)
        (fun s => D s ∨ s = row.payload.payload) g := by
  unfold restoreRow
  set stored := row.payload.payload with stored_eq
  refine Triple.peek fun now => ?_
  refine Triple.raiseIf (fun _ g now => failed_of_ne now.1.1 (by simp)) fun sound => ?_
  have own : worker.OwnKey stored.observationKey := by
    have keyed : stored.observationKey = worker.observationKey stored.quote := by
      simp only [Bool.not_eq_false', provenance, Bool.and_eq_true, beq_iff_eq] at sound
      exact sound.1.1.1.1.2
    exact keyed ▸ ownKey_observationKey stored.quote
  refine Triple.seq (I := fun g => worker.Safe g ∧ worker.Rebuilding M D (fun s => D s ∨ s = stored) g)
    (Triple.change ?_) fun _ => ?_
  · rintro g ⟨⟨safe, rebuilding⟩, -⟩
    have member : stored ∈ worker.observations g table := by
      rw [stored_eq]
      exact List.mem_map_of_mem (rebuilding.frozen table ▸ listed)
    refine ⟨?_, rebuilding.remember safe member⟩
    split
    · exact safe.remembering _
    · exact safe
  have held : ∀ g, worker.Rebuilding M D (fun s => D s ∨ s = stored) g → Held g stored := by
    intro g rebuilding
    rw [← rebuilding.frozen, mem_matching] at listed
    exact ⟨table, row, listed.1, rfl⟩
  -- an observation without an event is as good as published
  cases carried : stored.event with
  | none =>
    refine Triple.pure fun g now => ⟨now.1, now.2.frozen, now.2.known, ?_, now.2.bounded⟩
    rintro s (before | rfl)
    · exact now.2.published s before
    · intro event some_
      rw [carried] at some_
      cases some_
  | some event =>
    refine Triple.bind (ensureEvent_triple Rebuilding.stable held own) fun _ => ?_
    refine Triple.peek fun now => Triple.pure ?_
    rintro g ⟨⟨safe, rebuilding, published⟩, -⟩
    refine ⟨safe, rebuilding.frozen, rebuilding.known, ?_, rebuilding.bounded⟩
    rintro s (before | rfl)
    · exact rebuilding.published s before
    · exact published

theorem restoreRows_triple {table : SnapshotTable} {rows : List (AuditRow (Stored Observation))}
    (listed : ∀ row ∈ rows, row ∈ M table) (repaired : List SentinelEvent) :
    Triple worker.spec worker.Failed (fun g => worker.Safe g ∧ worker.Rebuilding M D D g)
      (worker.restoreRows rows repaired)
      fun _ g => worker.Safe g ∧ worker.Rebuilding M
        (fun s => D s ∨ ∃ row ∈ rows, s = row.payload.payload)
        (fun s => D s ∨ ∃ row ∈ rows, s = row.payload.payload) g := by
  induction rows generalizing repaired D with
  | nil =>
    refine Triple.pure fun g now => ⟨now.1, now.2.weaken ?_ ?_⟩
    all_goals simp
  | cons row rest ih =>
    refine Triple.bind (restoreRow_triple (listed row List.mem_cons_self) repaired) fun repaired => ?_
    refine (ih (fun row later => listed row (List.mem_cons_of_mem _ later)) repaired).weaken ?_
    refine fun _ g now => ⟨now.1, now.2.weaken ?_ ?_⟩
    all_goals
      rintro s (before | ⟨row', member, rfl⟩)
      · exact .inl (.inl before)
      · rcases List.mem_cons.mp member with rfl | later
        · exact .inl (.inr rfl)
        · exact .inr ⟨row', later, rfl⟩

/-- The observations of a table that lie at or after a number. -/
def Read (M : SnapshotTable → List (AuditRow (Stored Observation))) (table : SnapshotTable)
    (before : Option ℕ) (s : Observation) : Prop :=
  ∃ row ∈ M table, precedes before row = false ∧ s = row.payload.payload

variable {table : SnapshotTable} {before : Option ℕ} {rows : List (AuditRow (Stored Observation))}

theorem page_shown (increasing : Increasing (g.snapshots table))
    (frozen : matching worker.keeps (g.snapshots table) = M table)
    (shown : rows = listPayloads worker.keeps 1000 before (g.snapshots table)) :
    Page (· ∈ M table) 1000 before rows ∧ ∀ row ∈ rows, row ∈ M table := by
  subst shown
  have within {row : AuditRow (Stored Observation)} : row ∈ M table ↔
      row ∈ g.snapshots table ∧ worker.keeps row.payload = true := by
    rw [← frozen, mem_matching]
  refine ⟨page_listPayloads increasing fun row => within.mp, fun row member => within.mpr ?_⟩
  exact ⟨(mem_listPayloads member).1, (mem_listPayloads member).2.2⟩

/-- What a last page leaves has been read before. -/
theorem read_last (page : Page (· ∈ M table) 1000 before rows) (short : rows.length ≠ 1000)
    {s : Observation} (member : ∃ row ∈ M table, s = row.payload.payload) :
    Read M table before s ∨ ∃ row ∈ rows, s = row.payload.payload := by
  obtain ⟨row, there, rfl⟩ := member
  exact (page.last short there).imp (fun late => ⟨row, there, late, rfl⟩) fun shown =>
    ⟨row, shown, rfl⟩

theorem read_next (page : Page (· ∈ M table) 1000 before rows) (some_ : rows ≠ []) {s : Observation}
    (read : Read M table (some (minSequence rows)) s) :
    Read M table before s ∨ ∃ row ∈ rows, s = row.payload.payload := by
  obtain ⟨row, there, late, rfl⟩ := read
  exact (page.next some_ there late).imp (fun late => ⟨row, there, late, rfl⟩) fun shown =>
    ⟨row, shown, rfl⟩

theorem restoreTable_triple (pages : ℕ) (before : Option ℕ) (count : ℕ)
    (repaired : List SentinelEvent) :
    Triple worker.spec worker.Failed
      (fun g => worker.Safe g ∧ worker.Rebuilding M (fun s => D s ∨ Read M table before s)
        (fun s => D s ∨ Read M table before s) g)
      (worker.restoreTable table pages before count repaired)
      fun _ g => worker.Safe g ∧ worker.Rebuilding M
        (fun s => D s ∨ ∃ row ∈ M table, s = row.payload.payload)
        (fun s => D s ∨ ∃ row ∈ M table, s = row.payload.payload) g := by
  induction pages generalizing before count repaired with
  | zero => exact Triple.raise fun g now => failed_of_ne now.1 (by simp)
  | succ pages ih =>
    unfold restoreTable
    refine Triple.bind (R := fun rows g => (Page (· ∈ M table) 1000 before rows ∧
      ∀ row ∈ rows, row ∈ M table) ∧ worker.Safe g ∧
        worker.Rebuilding M (fun s => D s ∨ Read M table before s)
          (fun s => D s ∨ Read M table before s) g)
      (Triple.weaken (read_triple ?_ ?_ ?_) ?_) fun rows =>
        Triple.assuming fun ⟨page, inTable⟩ => ?_
    · exact fun _ _ same => same
    · exact fun _ now => now.1
    · exact fun _ _ moved now => ⟨moved.safe now.1, Rebuilding.stable moved.later now.2⟩
    · rintro rows g ⟨shown, safe, rebuilding⟩
      exact ⟨page_shown (safe.increasing table) (rebuilding.frozen table) shown, safe, rebuilding⟩
    split
    next empty =>
      rw [List.isEmpty_iff] at empty
      subst empty
      refine Triple.pure fun g now => ⟨now.1, now.2.weaken ?_ ?_⟩
      all_goals
        rintro s (before | listed)
        · exact .inl before
        · rcases read_last page (by simp) listed with read | ⟨row, none_, -⟩
          · exact .inr read
          · cases none_
    next some_ =>
      rw [List.isEmpty_iff] at some_
      refine Triple.raiseIf (fun _ g now => failed_of_ne now.1 (by simp)) fun _ => ?_
      refine Triple.bind (restoreRows_triple inTable repaired) fun repaired => ?_
      refine Triple.raiseIf (fun _ g now => failed_of_ne now.1 (by simp)) fun _ => ?_
      split
      next short =>
        refine Triple.pure fun g now => ⟨now.1, now.2.weaken ?_ ?_⟩
        all_goals
          rintro s (before | listed)
          · exact .inl (.inl before)
          · rcases read_last page (by omega) listed with read | shown
            · exact .inl (.inr read)
            · exact .inr shown
      next full =>
        refine (ih _ _ _).strengthen fun g now => ⟨now.1, now.2.weaken ?_ ?_⟩
        all_goals
          rintro s (before | read)
          · exact .inl (.inl before)
          · rcases read_next page some_ read with read | shown
            · exact .inl (.inr read)
            · exact .inr shown

/-- A table from its end to its beginning. -/
theorem wholeTable_triple (pages : ℕ) (count : ℕ) (repaired : List SentinelEvent) :
    Triple worker.spec worker.Failed (fun g => worker.Safe g ∧ worker.Rebuilding M D D g)
      (worker.restoreTable table pages none count repaired)
      fun _ g => worker.Safe g ∧ worker.Rebuilding M
        (fun s => D s ∨ ∃ row ∈ M table, s = row.payload.payload)
        (fun s => D s ∨ ∃ row ∈ M table, s = row.payload.payload) g := by
  have begun {s : Observation} (read : D s ∨ Read M table none s) : D s := by
    rcases read with before | ⟨row, -, late, -⟩
    · exact before
    · simp [precedes] at late
  exact (restoreTable_triple pages none count repaired).strengthen fun g now =>
    ⟨now.1, now.2.weaken (fun s => begun) fun s => begun⟩

end Recovery

/-- The memory is rebuilt from everything that is stored. -/
theorem restore_triple :
    Triple worker.spec worker.Failed worker.Safe worker.restore fun _ => worker.Ready := by
  intro h g safe
  set M := fun table => matching worker.keeps (g.snapshots table)
  refine Triple.seq (P := fun g => worker.Safe g ∧ ∀ table,
      matching worker.keeps (g.snapshots table) = M table)
    (I := fun g => worker.Safe g ∧ worker.Rebuilding M (fun _ => False) (fun _ => False) g)
    (Triple.change ?_) (fun _ => ?_) h g ⟨safe, fun _ => rfl⟩
  · rintro g ⟨safe, frozen⟩
    refine ⟨safe.remembering _, frozen, ?_, by simp, by simp⟩
    intro stream last there
    simp [SurveillanceStore.updateMemory] at there
  refine Triple.bind (wholeTable_triple _ 0 []) fun ⟨count, repaired⟩ => ?_
  refine Triple.bind (wholeTable_triple _ count repaired) fun ⟨_, repaired⟩ => ?_
  refine Triple.seq (I := worker.Ready) (Triple.change ?_) fun _ => Triple.pure fun _ => id
  rintro g ⟨safe, rebuilding⟩
  have covered (table : SnapshotTable) {s : Observation} (member : s ∈ worker.observations g table) :
      (False ∨ ∃ row ∈ M .marketSnapshots, s = row.payload.payload) ∨
        ∃ row ∈ M .optionSnapshots, s = row.payload.payload := by
    obtain ⟨row, there, rfl⟩ := List.mem_map.mp member
    rw [rebuilding.frozen] at there
    cases table with
    | marketSnapshots => exact .inl (.inr ⟨row, there, rfl⟩)
    | optionSnapshots => exact .inr ⟨row, there, rfl⟩
  exact {
    safe := safe.remembering _
    restored := rfl
    caught :=
      { published := fun table s member => rebuilding.published s (covered table member)
        bounded := fun table s member => rebuilding.bounded s (covered table member) } }

/-! ### A tick -/

section Tick

variable {P : SurveillanceStore → Prop}

theorem guard_triple (safe : ∀ g, P g → worker.Safe g) :
    Triple worker.spec worker.Failed P worker.guard fun _ => P := by
  unfold guard
  refine Triple.peek fun market => ?_
  cases found : worker.guardFailure market with
  | none => exact Triple.pure fun g now => now.1
  | some e =>
    refine Triple.raise fun g now => failed_of_ne (safe g now.1) ?_
    unfold guardFailure at found
    rintro rfl
    split_ifs at found <;> cases found

theorem validate_triple (safe : ∀ g, P g → worker.Safe g) (quote : Quote) (symbol : String)
    (cutoff : Time) (option : Bool) :
    Triple worker.spec worker.Failed P (worker.validate quote symbol cutoff option) fun _ => P := by
  unfold validate
  refine Triple.peek fun now => Triple.lift ?_ fun _ _ g now => now.1
  intro e failed g now
  refine failed_of_ne (safe g now.1) ?_
  unfold validateQuote at failed
  rintro rfl
  cases quote
  all_goals
    dsimp only at failed
    split_ifs at failed <;> cases failed

theorem observeChain_triple (safe : ∀ g, P g → worker.Safe g) (symbol : String) (cutoff : Time)
    (chain : List Quote) (instruments : List String) :
    Triple worker.spec worker.Failed P (worker.observeChain symbol cutoff chain instruments)
      fun _ => P := by
  induction chain generalizing instruments with
  | nil => exact Triple.pure fun _ => id
  | cons quote rest ih =>
    refine Triple.seq (validate_triple safe quote symbol cutoff true) fun _ => ?_
    exact Triple.raiseIf (fun _ g now => failed_of_ne (safe g now) (by simp)) fun _ => ih _

variable (safe : ∀ g, P g → worker.Safe g) (others : ∀ g g', worker.Others g g' → P g → P g')
include safe others

theorem observe_triple (cutoff : Time) (symbols : List String) :
    Triple worker.spec worker.Failed P (worker.observe cutoff symbols) fun _ => P := by
  have asked {op : LiveReadOp} (idle : ∀ g g', worker.Commits op g g' → g' = g) :
      Triple worker.spec worker.Failed P (ask op) fun _ => P :=
    (read_triple idle safe others).weaken fun _ _ now => now.2
  induction symbols with
  | nil => exact Triple.pure fun _ => id
  | cons symbol rest ih =>
    refine Triple.seq (asked fun _ _ same => same) fun equity => ?_
    refine Triple.seq (validate_triple safe equity symbol cutoff false) fun _ => ?_
    refine Triple.seq (asked fun _ _ same => same) fun answer => ?_
    cases answer with
    | none => exact Triple.raise fun g now => failed_of_ne (safe g now) (by simp)
    | some chain =>
      refine Triple.raiseIf (fun _ g now => failed_of_ne (safe g now) (by simp)) fun _ => ?_
      refine Triple.seq (observeChain_triple safe symbol cutoff chain []) fun _ => ?_
      exact Triple.seq ih fun _ => Triple.pure fun _ => id

omit others in
theorem revalidate_triple (cutoff : Time) (quotes : List Quote) :
    Triple worker.spec worker.Failed P (worker.revalidate cutoff quotes) fun _ => P := by
  induction quotes with
  | nil => exact Triple.pure fun _ => id
  | cons quote rest ih => exact Triple.seq (validate_triple safe _ _ _ _) fun _ => ih

end Tick

theorem Inv.remembering {f : SurveillanceMemory → SurveillanceMemory}
    (restored : ∀ memory, (f memory).restored = memory.restored)
    (previous : ∀ memory, (f memory).previous = memory.previous) (inv : worker.Inv g) :
    worker.Inv (g.updateMemory f) where
  safe := inv.safe.remembering f
  caught now := by
    have caught := inv.caught (by rw [← restored]; exact now)
    refine ⟨caught.published, fun table s member => ?_⟩
    obtain ⟨last, there, bound⟩ := caught.bounded table s member
    refine ⟨last, ?_, bound⟩
    simp only [SurveillanceStore.updateMemory, previous]
    exact there

theorem scanned_triple :
    Triple worker.spec worker.Failed worker.Inv worker.scanned fun _ => worker.Ready := by
  have safe : ∀ g, worker.Ready g → worker.Safe g := fun _ ready => ready.safe
  have others : ∀ g g', worker.Others g g' → worker.Ready g → worker.Ready g' :=
    fun _ _ moved ready => ready.moved moved
  unfold scanned
  refine Triple.seq (guard_triple fun _ inv => inv.safe) fun _ => ?_
  refine Triple.seq (I := worker.Inv) (Triple.weaken (read_triple ?_ ?_ ?_) ?_) fun healthy => ?_
  · exact fun _ _ same => same
  · exact fun _ inv => inv.safe
  · exact fun _ _ moved inv => moved.inv inv
  · exact fun _ _ now => now.2
  refine Triple.raiseIf (fun _ g now => failed_of_ne now.safe (by simp)) fun _ => ?_
  refine Triple.peek fun restored => ?_
  have rest {p : List SentinelEvent → LiveReadProgram (List SentinelEvent)}
      (each : ∀ repaired, Triple worker.spec worker.Failed worker.Ready (p repaired)
        fun _ => worker.Ready) : Triple worker.spec worker.Failed
      (fun g => worker.Inv g ∧ g.memory.restored = restored)
      (if restored then pure [] >>= p else worker.restore >>= p) fun _ => worker.Ready := by
    cases restored with
    | true =>
      exact Triple.seq (Triple.pure fun g now => ⟨now.1.safe, now.2, now.1.caught now.2⟩) each
    | false => exact Triple.seq (restore_triple.strengthen fun g now => now.1.safe) each
  refine rest fun repaired => ?_
  refine Triple.peek fun cutoff => Triple.strengthen ?_ fun g now => And.left now
  refine Triple.seq (observe_triple safe others cutoff worker.watchlist) fun observations => ?_
  refine Triple.seq (revalidate_triple safe cutoff observations) fun _ => ?_
  refine Triple.seq (persistAll_triple observations repaired) fun events => ?_
  refine Triple.seq (I := worker.Ready) (Triple.weaken (read_triple ?_ safe others) ?_) fun _ => ?_
  · exact fun _ _ same => same
  · exact fun _ _ now => now.2
  refine Triple.seq (I := worker.Ready) (Triple.change ?_) fun _ => Triple.pure fun _ => id
  exact fun g ready => ⟨ready.safe.remembering _, ready.restored, ready.caught.published,
    ready.caught.bounded⟩

/-- A memory that is not used. -/
def Reset (worker : LiveReadSurveillanceWorker) (g : SurveillanceStore) : Prop :=
  worker.Safe g ∧ g.memory.restored = false

theorem Reset.inv (reset : worker.Reset g) : worker.Inv g :=
  ⟨reset.1, fun restored => by rw [reset.2] at restored; cases restored⟩

/-- Whatever was raised, the next tick rebuilds its memory. -/
theorem failed_triple (e : Exc) (Q : List SentinelEvent → SurveillanceStore → Prop) :
    Triple worker.spec (fun _ => worker.Inv) (worker.Failed e) (failed e) Q := by
  have cleared : Triple worker.spec (fun _ => worker.Inv) (worker.Failed e)
      (change (SurveillanceStore.updateMemory fun memory => { memory with restored := false }))
      fun _ => worker.Reset :=
    Triple.change fun g now => ⟨now.1.remembering _, rfl⟩
  unfold failed
  split
  next => exact cleared.seq fun _ => Triple.raise fun g reset => reset.inv
  next =>
    split
    next =>
      refine cleared.seq fun _ => ?_
      refine Triple.seq (I := worker.Reset) (Triple.attempt (H := fun _ => worker.Reset) ?_ ?_)
        fun _ => ?_
      · refine Triple.weaken (Service.read (fun _ _ same => same) (fun _ reset => reset.1)
          (fun _ _ moved reset => ⟨moved.safe reset.1, moved.memory ▸ reset.2⟩) ?_) fun _ _ now => now.2
        intro g second reset
        refine ⟨(failed_after reset.1 second).1, ?_⟩
        change (g.after second).memory.restored = false
        unfold SurveillanceStore.after
        split
        · rfl
        · exact reset.2
      · intro second
        split
        · exact Triple.change fun g reset => ⟨reset.1.remembering _, reset.2⟩
        · exact Triple.raise fun g reset => reset.inv
      · split
        · exact Triple.raise fun g reset => reset.inv
        · split
          · exact Triple.raise fun g reset => reset.inv
          · exact Triple.raise fun g reset => reset.inv
    next other ended =>
      -- only an interrupt is left, which has ended the process
      have interrupted : e = .interrupt := by
        cases e <;> simp_all [Exc.isException]
      exact Triple.raise fun g now => Reset.inv ⟨now.1, now.2 interrupted⟩

theorem tick_triple :
    Triple worker.spec (fun _ => worker.Inv) worker.Inv worker.tick fun _ => worker.Ready := by
  refine Triple.seq (I := worker.Inv) (Triple.change ?_) fun _ =>
    Triple.attempt scanned_triple fun e => failed_triple e _
  exact fun g inv => inv.remembering (fun _ => rfl) fun _ => rfl

/-! ### The outbox -/

/-- Tables without rows of the worker, and a process that has just begun. -/
structure Fresh (worker : LiveReadSurveillanceWorker) (g : SurveillanceStore) : Prop where
  increasing : ∀ table, Increasing (g.snapshots table)
  observations : ∀ table, worker.observations g table = []
  events : worker.events g = []
  memory : g.memory.restored = false

theorem Fresh.inv (fresh : worker.Fresh g) : worker.Inv g where
  safe :=
    { increasing := fresh.increasing
      filed := by simp [fresh.observations]
      ordered := by simp [fresh.observations]
      keyed := by simp [fresh.observations]
      distinct := by simp [fresh.events]
      sourced := by simp [fresh.events] }
  caught restored := by
    rw [fresh.memory] at restored
    cases restored

/-- What holds at every moment: an event is stored once at most and not without an observation
that carries it, and no stream moves backward. -/
structure Outbox (worker : LiveReadSurveillanceWorker) (g : SurveillanceStore) : Prop where
  once : ∀ table, ∀ stored ∈ worker.observations g table, ∀ event, stored.event = some event →
    (matching (worker.announces event.deduplicationKey) g.sentinelEvents).length ≤ 1
  sourced : ∀ payload ∈ worker.events g, ∃ stored, Held g stored ∧
    ∃ event, stored.event = some event ∧ payload = worker.document event
  forward : ∀ table, (worker.observations g table).Pairwise fun earlier later =>
    earlier.streamKey = later.streamKey → NotAfter earlier later

theorem Safe.outbox (safe : worker.Safe g) : worker.Outbox g where
  once table stored member event carried := by
    have own := safe.keyed table stored member event carried
    -- the rows that announce the event are the worker's, and those have different keys
    have among : matching (worker.announces event.deduplicationKey) g.sentinelEvents =
        matching (worker.announces event.deduplicationKey) (matching worker.ours g.sentinelEvents) := by
      unfold matching
      rw [List.filter_filter]
      refine List.filter_congr fun row _ => ?_
      cases announced : worker.announces event.deduplicationKey row.payload with
      | false => simp
      | true => simp [ours_of_announces own announced]
    rw [among]
    apply length_matching_le_one
    refine (List.pairwise_map.mp safe.distinct).imp fun {first second} apart announced => ?_
    by_contra both
    simp only [announces, Payload.has, Bool.not_eq_false, Bool.and_eq_true, beq_iff_eq] at announced both
    exact apart (announced.2.trans both.2.symm)
  sourced := safe.sourced
  forward := safe.ordered

/-- Every stored observation has its event stored as it is. -/
def AllPublished (worker : LiveReadSurveillanceWorker) (g : SurveillanceStore) : Prop :=
  ∀ table, ∀ stored ∈ worker.observations g table, worker.Published g stored

theorem idle_inv (moved : worker.idle g g') (inv : worker.Inv g) : worker.Inv g' := by
  obtain ⟨g₁, others, rfl | rfl⟩ := moved
  · exact others.inv inv
  · refine ⟨(others.safe inv.safe).remembering fun _ => {}, fun restored => ?_⟩
    cases restored

theorem idle_published (moved : worker.idle g g') (published : worker.AllPublished g) :
    worker.AllPublished g' := by
  obtain ⟨g₁, others, ended⟩ := moved
  have before : worker.AllPublished g₁ := fun table =>
    others.later.observations_eq table ▸ fun stored member =>
      others.later.published (published table stored member)
  rcases ended with rfl | rfl
  · exact before
  · exact before

/-- At every moment of any number of ticks, with calls that fail before or after they are
committed and processes that end at any of them, an event is stored once at most, not before an
observation that carries it, and no stream moves backward. After a tick that has returned, until
the next one begins, every stored observation has its event stored as it is. -/
theorem surveillance_outbox {g₀ : SurveillanceStore} (fresh : worker.Fresh g₀)
    {h : List (Done Exc LiveReadAns)} {waiting : Option LiveReadOp}
    {rs : List (Except Exc (List SentinelEvent))} {g : SurveillanceStore}
    (moment : Moment worker.rely worker.idle worker.tick g₀ h waiting rs g) :
    worker.Outbox g ∧ (waiting = none →
      ∀ events, rs.getLast? = some (.ok events) → worker.AllPublished g) := by
  have each : Triple ⟨fun _ _ g => worker.Safe g, worker.rely⟩ (fun _ g => worker.Inv g) worker.Inv
      worker.tick fun _ g => worker.Inv g ∧ worker.AllPublished g :=
    tick_triple.weaken fun _ _ ready => ⟨ready.inv, ready.caught.published⟩
  have sound := moment.sound (Triple.attempts fresh.inv (fun inv moved => idle_inv moved inv)
    (fun published moved => idle_published moved published) each)
  cases waiting with
  | none => exact ⟨sound.1.safe.outbox, fun _ => sound.2⟩
  | some op => exact ⟨Safe.outbox sound, fun none_ => nomatch none_⟩

end LiveReadSurveillanceWorker
namespace SurveillanceSample

open LiveReadSurveillanceWorker

/-- Digests that keep texts apart. -/
def hashing : Hashing where
  sha256Json
    | .str text => text
    | _ => "digest"
  uuid5 _ name := ⟨name.length⟩
  fillSeed := String.length

def worker : LiveReadSurveillanceWorker where
  hashing
  isoformat := toString
  isSpace := Char.isWhitespace
  decimal q := toString q.num
  content quote := .str quote.stream
  binding := ⟨.demo, some .brokerShadow, false, "demo"⟩
  identity := "feed"
  capabilityVersion := "1"
  watchlist := ["ACME"]

def metadata : ProviderMetadata := ⟨"feed", "1", 0, 0, none⟩

def equity : EquityQuote where
  snapshotId := ⟨1⟩
  symbol := "ACME"
  bid := 99
  ask := 101
  last := 100
  volume := 5
  metadata

theorem named : "call" ≠ "" := by decide

def contract : OptionContract :=
  ⟨"call", "ACME", .call, 100, 7, 100, named, amount_pos (nat_lit 100), count_pos (nat_lit 100)⟩

def chain : List Quote :=
  [.option { snapshotId := ⟨2⟩, contract, bid := 3, ask := 4, metadata }]

/-- Tables without rows, five seconds after the quotes. -/
def start : SurveillanceStore where
  snapshots _ := []
  sentinelEvents := []
  market := ⟨"feed", "1", { }⟩
  now := 5000000

/-- Calls that are committed. The process may end before an event is acknowledged. -/
def calls (ends : Bool) : (op : LiveReadOp) → SurveillanceStore →
    Except Exc (LiveReadAns op) × SurveillanceStore
  | .healthcheck, g => (.ok true, g)
  | .listObservations table before, g =>
    (.ok (listPayloads worker.keeps 1000 before (g.snapshots table)), g)
  | .findObservation table key, g => (.ok (findPayload (worker.keepsUnder key) (g.snapshots table)), g)
  | .findEvent key, g => (.ok (findPayload (worker.announces key) g.sentinelEvents), g)
  | .appendObservation table stored, g =>
    let rows := push { createdAt := stored.createdAt, payload := stored } (g.snapshots table)
    (.ok (), { g with snapshots := Function.update g.snapshots table rows })
  | .appendEvent event, g =>
    let rows := push (worker.binding.row event.createdAt (worker.document event)) g.sentinelEvents
    let stored := { g with sentinelEvents := rows }
    if ends then (.error .interrupt, stored.restart) else (.ok (), stored)
  | .appendHealth _ _ _ _, g => (.ok (), g)
  | .getEquityQuote _ _, g => (.ok (.equity equity), g)
  | .getOptionChain _ _, g => (.ok (some chain), g)

theorem others_refl (g : SurveillanceStore) : worker.Others g g where
  snapshots _ := Grows.refl _ _
  sentinelEvents := Grows.refl _ _
  memory := rfl

theorem calls_rely (ends : Bool) (op : LiveReadOp) (g : SurveillanceStore) :
    worker.rely op g (calls ends op g).1 (calls ends op g).2 := by
  refine ⟨g, others_refl g, ?_⟩
  cases op with
  | appendObservation table stored => exact ⟨trivial, _, appended_push _ _, rfl⟩
  | appendEvent event =>
    cases ends with
    | false => exact ⟨trivial, _, appended_push _ _, rfl⟩
    | true => exact ⟨_, .inr ⟨_, appended_push _ _, rfl⟩, rfl⟩
  | _ => exact ⟨by trivial, rfl⟩

theorem start_fresh : worker.Fresh start where
  increasing _ := List.Pairwise.nil
  observations _ := rfl
  events := rfl
  memory := rfl

/-- What an event that is stored but not acknowledged leaves. -/
def ended : SurveillanceStore := (worker.tick.run (calls true) start).2

end SurveillanceSample

open SurveillanceSample LiveReadSurveillanceWorker in
/-- A process that ends before its first event is acknowledged, and the next one. -/
theorem outbox_resumed :
    (worker.tick.run (calls true) start).1.toOption.isNone = true ∧
    (worker.tick.run (calls false) ended).1.toOption.isSome = true ∧
    ∃ h g, Moment worker.rely worker.idle worker.tick start h none
        [(worker.tick.run (calls true) start).1, (worker.tick.run (calls false) ended).1] g ∧
      worker.Outbox g ∧ worker.AllPublished g ∧ (worker.events g).length = 2 := by
  obtain ⟨h₁, first⟩ := passes_run (calls true) (calls_rely true) worker.tick start
  obtain ⟨h₂, second⟩ := passes_run (calls false) (calls_rely false) worker.tick ended
  have none_yet : Attempts worker.rely worker.idle worker.tick start [] [] start := .none
  have run := (none_yet.again first).again second
  obtain ⟨holds, published⟩ := surveillance_outbox start_fresh (.between run)
  have returned : (worker.tick.run (calls false) ended).1.toOption.isSome = true := by
    decide +kernel
  refine ⟨by decide +kernel, returned, _, _, .between run, holds, ?_, by decide +kernel⟩
  obtain ⟨events, shown⟩ := exists_ok returned
  exact published rfl events (by simp [shown])

end Sentry
