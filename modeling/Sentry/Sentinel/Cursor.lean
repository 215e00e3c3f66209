import Mathlib.Data.List.TakeWhile
import Sentry.Market.Snapshots
import Sentry.Sentinel.Offline

/-!
# The replay cursor

What a session keeps over any number of `step` calls in which any callback may fail and
the step is called again. A group under way is a run of finished records, one record at
some stage, and records that nothing was done for. What the repository was given is read
off the flags, and every checkpoint stands at the end of a group, where the constructor of
another session takes it up.
-/
namespace Sentry

open Support

/-! ### The entries of a session -/

namespace ReplayConfig

variable {cfg : ReplayConfig}

/-- Normalising keeps the records and their order. -/
theorem normalize_records {hashes : Dict UUID String} {records : List ReplayRecord}
    {entries : List ReplayEntry} (done : cfg.normalize hashes records = .ok entries) :
    entries.map ReplayEntry.record = records := by
  induction records generalizing hashes entries with
  | nil =>
    cases done
    rfl
  | cons record rest ih =>
    simp only [normalize] at done
    split at done
    · cases done
    next value read =>
      split at done
      · obtain ⟨others, later, built⟩ := bind_ok done
        cases built
        simp [ih later]
      · split at done
        · cases done
        · obtain ⟨others, later, built⟩ := bind_ok done
          cases built
          simp [ih later]

/-- What the constructor checked of its arguments and of the entries. -/
structure Prepared (cfg : ReplayConfig) (entries : List ReplayEntry) : Prop where
  normalized : cfg.normalize .empty cfg.fixture.ordered = .ok entries
  described : ∀ entry ∈ entries, cfg.describes entry = .ok ()
  bounded : ∀ group ∈ groups entries, group.length ≤ cfg.maxRecordsPerStep
  bus_pos : 0 < cfg.eventBusMaxsize

theorem forM_ok {entries : List ReplayEntry} {check : ReplayEntry → Except Exc Unit}
    (done : entries.forM check = .ok ()) : ∀ entry ∈ entries, check entry = .ok () := by
  induction entries with
  | nil => simp
  | cons first rest ih =>
    obtain ⟨⟨⟩, here, later⟩ := bind_ok (x := check first) done
    intro entry member
    rcases List.mem_cons.mp member with rfl | other
    · exact here
    · exact ih later entry other

theorem prepared_of_prepare {entries : List ReplayEntry} (done : cfg.prepare = .ok entries) :
    Prepared cfg entries := by
  unfold prepare at done
  split at done
  · cases done
  · split at done
    · cases done
    · split at done
      · cases done
      · split at done
        · cases done
        · obtain ⟨found, normal, done⟩ := bind_ok done
          split at done
          · cases done
          next small =>
            obtain ⟨⟨⟩, checked, done⟩ := bind_ok done
            split at done
            · cases done
            next positive =>
              cases done
              refine ⟨normal, forM_ok checked, ?_, not_le.mp positive⟩
              simpa using small

end ReplayConfig

namespace OfflineReplaySession

variable {W : Type} (session : OfflineReplaySession)

theorem prepared_spec : session.cfg.Prepared session.entries :=
  ReplayConfig.prepared_of_prepare session.prepared

theorem entries_records : session.entries.map ReplayEntry.record = session.cfg.fixture.ordered :=
  ReplayConfig.normalize_records session.prepared_spec.normalized

theorem entries_sequence : session.entries.Pairwise fun a b => a.sequence < b.sequence := by
  have strict := session.cfg.fixture.ordered_sequence
  rw [← session.entries_records, List.pairwise_map] at strict
  exact strict

theorem entries_available : session.entries.Pairwise fun a b => a.availableAt ≤ b.availableAt := by
  have observed := session.cfg.fixture.ordered_observed
  rw [← session.entries_records, List.pairwise_map] at observed
  refine observed.imp ?_
  intro a b earlier
  simpa [ReplayEntry.availableAt] using earlier

/-! ### Groups -/

theorem groupAt_front (i : ℕ) : session.groupAt i <+: session.entries.drop i := by
  unfold groupAt
  split
  · exact List.nil_prefix
  · exact List.takeWhile_prefix _

theorem groupAt_eq_take (i : ℕ) :
    session.groupAt i = (session.entries.drop i).take (session.groupAt i).length :=
  List.prefix_iff_eq_take.mp (session.groupAt_front i)

theorem take_groupAt (i : ℕ) :
    session.entries.take (i + (session.groupAt i).length) =
      session.entries.take i ++ session.groupAt i := by
  rw [List.take_add, ← session.groupAt_eq_take]

theorem groupAt_availableAt {i : ℕ} {first entry : ReplayEntry}
    (start : session.entries[i]? = some first) (member : entry ∈ session.groupAt i) :
    entry.availableAt = first.availableAt := by
  simp only [groupAt, start] at member
  simpa using List.mem_takeWhile_imp member

theorem groupAt_ne_nil {i : ℕ} {first : ReplayEntry} (start : session.entries[i]? = some first) :
    session.groupAt i ≠ [] := by
  have split : session.entries.drop i = first :: session.entries.drop (i + 1) := by
    obtain ⟨bound, here⟩ := List.getElem?_eq_some_iff.mp start
    rw [List.drop_eq_getElem_cons bound, here]
  simp [groupAt, start, split]

/-- The element after a longest prefix fails its test. -/
theorem not_taken {α : Type} {p : α → Bool} {xs : List α} {x : α}
    (after : xs[(xs.takeWhile p).length]? = some x) : p x = false := by
  induction xs with
  | nil => simp at after
  | cons first rest ih =>
    by_cases holds : p first = true
    · rw [List.takeWhile_cons_of_pos holds] at after
      exact ih (by simpa using after)
    · rw [List.takeWhile_cons_of_neg holds] at after
      simp only [List.length_nil, List.getElem?_cons_zero, Option.some.injEq] at after
      subst after
      simpa using holds

/-- A group ends where time moves on. -/
theorem groupAt_end {i : ℕ} {first next : ReplayEntry} (start : session.entries[i]? = some first)
    (after : session.entries[i + (session.groupAt i).length]? = some next) :
    first.availableAt < next.availableAt := by
  have later : first.availableAt ≤ next.availableAt := by
    obtain ⟨bound, here⟩ := List.getElem?_eq_some_iff.mp start
    obtain ⟨bound', there⟩ := List.getElem?_eq_some_iff.mp after
    have pairwise := List.pairwise_iff_getElem.mp session.entries_available
    have positive : 0 < (session.groupAt i).length :=
      List.length_pos_iff.mpr (session.groupAt_ne_nil start)
    have ordered := pairwise i (i + (session.groupAt i).length) bound bound' (by omega)
    rwa [here, there] at ordered
  refine lt_of_le_of_ne later ?_
  intro same
  -- the next entry is the first that the group does not take
  have stopped : (session.entries.drop i)[(session.groupAt i).length]? = some next := by
    rw [List.getElem?_drop, after]
  simp only [groupAt, start] at stopped
  have refused := not_taken stopped
  simp [same] at refused

/-! ### Checkpoints -/

/-- A checkpoint of this session that stands before the entry at an index. -/
structure Cursor (cp : OfflineReplayCheckpoint) (i : ℕ) : Prop where
  identity : mismatch cp (session.cfg.initial 0) = none
  index_le : i ≤ session.entries.length
  /-- Nothing was processed yet. -/
  unstarted : cp.lastSequence = none → i = 0 ∧ (cp.complete = true → session.entries = []) ∧
    ∀ first, session.entries[0]? = some first → cp.replayTime ≤ first.availableAt
  /-- The last processed entry ends its group. -/
  started : ∀ sequence, cp.lastSequence = some sequence → ∃ j last, i = j + 1 ∧
    session.entries[j]? = some last ∧ last.sequence = sequence ∧
    cp.replayTime = last.availableAt ∧
    (∀ next, session.entries[i]? = some next → last.availableAt < next.availableAt) ∧
    cp.complete = decide (i = session.entries.length)

variable {session}

theorem Cursor.complete_iff {cp : OfflineReplayCheckpoint} {i : ℕ} (cursor : session.Cursor cp i)
    (filled : session.entries ≠ []) : cp.complete = true ↔ i = session.entries.length := by
  cases place : cp.lastSequence with
  | none =>
    obtain ⟨rfl, empty, -⟩ := cursor.unstarted place
    constructor
    · exact fun complete => absurd (empty complete) filled
    · exact fun length => absurd (List.length_eq_zero_iff.mp length.symm) filled
  | some sequence =>
    obtain ⟨j, last, -, -, -, -, -, complete⟩ := cursor.started sequence place
    simp [complete]

/-- Sequence numbers find their entry. -/
theorem findIdx?_sequence {j : ℕ} {entry : ReplayEntry} (found : session.entries[j]? = some entry) :
    session.entries.findIdx? (fun other => other.sequence == entry.sequence) = some j := by
  obtain ⟨bound, here⟩ := List.getElem?_eq_some_iff.mp found
  rw [List.findIdx?_eq_some_iff_getElem]
  refine ⟨bound, by simp [here], ?_⟩
  intro k before
  have smaller := List.pairwise_iff_getElem.mp session.entries_sequence k j (by omega) bound before
  rw [here] at smaller
  simpa using Nat.ne_of_lt smaller

theorem resumeAt_of_cursor {cp : OfflineReplayCheckpoint} {i : ℕ} (cursor : session.Cursor cp i) :
    session.resumeAt cp = .ok i := by
  unfold resumeAt
  cases place : cp.lastSequence with
  | none =>
    obtain ⟨rfl, empty, -⟩ := cursor.unstarted place
    have allowed : ¬ (cp.complete = true ∧ session.entries ≠ []) :=
      fun both => both.2 (empty both.1)
    simp only [if_neg allowed]
  | some sequence =>
    obtain ⟨j, last, rfl, there, rfl, time, ends, complete⟩ := cursor.started sequence place
    have timely : ¬ (session.entries[j]?).any (fun entry => cp.replayTime != entry.availableAt) := by
      simp [there, time]
    have whole : ¬ (session.entries[j + 1]?).any
        (fun entry => entry.availableAt == cp.replayTime) := by
      cases after : session.entries[j + 1]? with
      | none => simp
      | some next =>
        have later := ends next after
        simp only [Option.any_some, beq_iff_eq, time]
        exact ne_of_gt later
    simp only [findIdx?_sequence there, if_neg timely, if_neg whole, complete, ne_eq,
      not_true_eq_false, if_false]

theorem cursor_of_resumeAt {cp : OfflineReplayCheckpoint} {i : ℕ}
    (identity : mismatch cp (session.cfg.initial 0) = none)
    (resumed : session.resumeAt cp = .ok i)
    (early : cp.lastSequence = none → ∀ first, session.entries[0]? = some first →
      cp.replayTime ≤ first.availableAt) :
    session.Cursor cp i := by
  unfold resumeAt at resumed
  split at resumed
  next place =>
    split at resumed
    · cases resumed
    next allowed =>
      cases resumed
      refine ⟨identity, Nat.zero_le _, fun _ => ⟨rfl, ?_, early place⟩, by simp [place]⟩
      exact fun complete => not_not.mp fun filled => allowed ⟨complete, filled⟩
  next sequence place =>
    split at resumed
    · cases resumed
    next j found =>
      rw [List.findIdx?_eq_some_iff_getElem] at found
      obtain ⟨bound, named, -⟩ := found
      have there : session.entries[j]? = some session.entries[j] := List.getElem?_eq_getElem bound
      split at resumed
      · cases resumed
      next timely =>
        split at resumed
        · cases resumed
        next whole =>
          split at resumed
          · cases resumed
          next complete =>
            cases resumed
            have time : cp.replayTime = session.entries[j].availableAt := by
              simpa [there] using timely
            refine ⟨identity, bound, by simp [place], ?_⟩
            intro sequence' same
            cases place.symm.trans same
            refine ⟨j, _, rfl, there, by simpa using named, time, ?_, not_not.mp complete⟩
            intro next after
            obtain ⟨bound', here⟩ := List.getElem?_eq_some_iff.mp after
            have later := List.pairwise_iff_getElem.mp session.entries_available j (j + 1) bound
              bound' (Nat.lt_succ_self j)
            rw [here] at later
            refine lt_of_le_of_ne later fun equal => whole ?_
            simp [after, time, equal]

/-! ### Restoring -/

/-- The session's own times of its freshness streams are the monitor's. -/
def Synchronous (s : ReplayState W) : Prop := s.freshness = s.freshnessTimes

theorem observeStream_synchronous (name : String) (effectiveAt : Time) {s : ReplayState W}
    (synchronous : Synchronous s) : ∃ s', s.observeStream name effectiveAt = .ok s' ∧
      Synchronous s' ∧ s' = { s with
        freshnessTimes := s'.freshnessTimes, freshness := s'.freshness } := by
  unfold ReplayState.observeStream
  unfold Synchronous at synchronous
  split
  next fresh =>
    have forward : ¬ ((s.freshness.get? name).any fun previous => decide (effectiveAt < previous)) := by
      rw [synchronous]
      cases known : s.freshnessTimes.get? name with
      | none => simp
      | some previous =>
        simp only [known, Option.all_some, decide_eq_true_eq] at fresh
        simpa using le_of_lt fresh
    rw [if_neg forward]
    exact ⟨_, rfl, by simp [Synchronous, synchronous], rfl⟩
  · exact ⟨s, rfl, synchronous, rfl⟩

theorem observed_synchronous (value : MarketObservation) {s : ReplayState W}
    (synchronous : Synchronous s) : ∃ s', observed value s = .ok s' ∧ Synchronous s' ∧
      s' = { s with freshnessTimes := s'.freshnessTimes, freshness := s'.freshness } := by
  obtain ⟨s₁, first, synchronous₁, frame₁⟩ :=
    observeStream_synchronous "market_data" value.metadata.effectiveAt synchronous
  obtain ⟨s₂, second, synchronous₂, frame₂⟩ :=
    observeStream_synchronous value.stream value.metadata.effectiveAt synchronous₁
  refine ⟨s₂, ?_, synchronous₂, ?_⟩
  · simp only [observed, first, bind, Except.bind, second]
  · rw [frame₂, frame₁]

/-- The snapshot identifiers of the option quotes among entries. -/
def optionIds (entries : List ReplayEntry) : List UUID :=
  entries.filterMap fun entry => entry.value.optionQuote.map (·.snapshotId)

theorem replayed_synchronous (entries : List ReplayEntry) {s : ReplayState W}
    (synchronous : Synchronous s) : ∃ s', replayed entries s = .ok s' ∧ Synchronous s' ∧
      s' = { s with
        consumedQuotes := s.consumedQuotes ++ optionIds entries
        freshnessTimes := s'.freshnessTimes
        freshness := s'.freshness } := by
  induction entries generalizing s with
  | nil => exact ⟨s, rfl, synchronous, by simp [optionIds]⟩
  | cons entry rest ih =>
    obtain ⟨s₁, first, synchronous₁, frame₁⟩ := observed_synchronous entry.value synchronous
    obtain ⟨s₂, second, synchronous₂, frame₂⟩ := ih
      (s := { s₁ with consumedQuotes :=
        s₁.consumedQuotes ++ (entry.value.optionQuote.map (·.snapshotId)).toList }) synchronous₁
    refine ⟨s₂, ?_, synchronous₂, ?_⟩
    · simp only [replayed, first, bind, Except.bind, second]
    · rw [frame₂, frame₁]
      cases quoted : entry.value.optionQuote <;> simp [optionIds, quoted]

/-- A state that the constructor made. -/
structure Restored (session : OfflineReplaySession) (now : Time) (saved : OfflineReplayCheckpoint)
    (world : W) (s : ReplayState W) : Prop where
  cursor : session.Cursor saved s.nextIndex
  synchronous : Synchronous s
  timely : saved.replayTime ≤ now
  ahead : ∀ next, session.entries[s.nextIndex]? = some next → now ≤ next.availableAt
  frame : s =
    { clock := now
      nextIndex := s.nextIndex
      consumedQuotes := optionIds (session.entries.take s.nextIndex)
      checkpoint := saved
      freshnessTimes := s.freshnessTimes
      freshness := s.freshness
      world }

theorem restored_of_cursor {cp : OfflineReplayCheckpoint} {i : ℕ} (cursor : session.Cursor cp i)
    {now : Time} (timely : cp.replayTime ≤ now) (still : cp.complete = true → now = cp.replayTime)
    (ahead : ∀ next, session.entries[i]? = some next → now ≤ next.availableAt) (world : W) :
    ∃ s, session.restore now cp world = .ok s ∧ s.nextIndex = i := by
  obtain ⟨s, replay, -, frame⟩ := replayed_synchronous (session.entries.take i)
    (s := ({ clock := now, nextIndex := i, checkpoint := cp, world } : ReplayState W)) rfl
  refine ⟨s, ?_, by rw [frame]⟩
  have identity : mismatch cp (session.cfg.initial now) = none := cursor.identity
  have early : ¬ (cp.lastSequence = none ∧ (session.entries[0]?).any
      fun entry => decide (entry.availableAt < cp.replayTime)) := by
    rintro ⟨place, late⟩
    cases first : session.entries[0]? with
    | none => simp [first] at late
    | some entry =>
      have bound := (cursor.unstarted place).2.2 entry first
      simp only [first, Option.any_some, decide_eq_true_eq] at late
      exact absurd late (not_lt.mpr bound)
  have unpassed : ¬ (session.entries[i]?).any fun entry => decide (entry.availableAt < now) := by
    cases next : session.entries[i]? with
    | none => simp
    | some entry => simpa using ahead entry next
  have punctual : ¬ (cp.complete = true ∧ now ≠ cp.replayTime) :=
    fun both => both.2 (still both.1)
  simp only [restore, identity, if_neg (not_lt.mpr timely), if_neg punctual,
    resumeAt_of_cursor cursor, if_neg early, if_neg unpassed, replay]

theorem restored_of_restore {now : Time} {saved : OfflineReplayCheckpoint} {world : W}
    {s : ReplayState W} (done : session.restore now saved world = .ok s) :
    Restored session now saved world s := by
  unfold restore at done
  split at done
  · cases done
  next identity =>
    split at done
    · cases done
    next timely =>
      split at done
      · cases done
      · split at done
        · cases done
        next i resumed =>
          split at done
          · cases done
          next early =>
            split at done
            · cases done
            next unpassed =>
              obtain ⟨s', replay, synchronous, frame⟩ :=
                replayed_synchronous (session.entries.take i)
                  (s := ({ clock := now, nextIndex := i, checkpoint := saved, world } :
                    ReplayState W)) rfl
              cases replay.symm.trans done
              have index : s.nextIndex = i := by rw [frame]
              have first : saved.lastSequence = none → ∀ entry, session.entries[0]? = some entry →
                  saved.replayTime ≤ entry.availableAt := by
                intro place entry there
                by_contra late
                exact early ⟨place, by simpa [there] using late⟩
              refine ⟨index ▸ cursor_of_resumeAt identity resumed first, synchronous,
                not_lt.mp timely, ?_, ?_⟩
              · intro next there
                rw [index] at there
                by_contra passed
                exact unpassed (by simpa [there] using passed)
              · rw [index]
                simpa using frame

/-! ### What callbacks were given -/

/-- The entries whose snapshot was appended. -/
def appendedSnapshots (h : List (Done Exc ReplayAns)) : List ReplayEntry :=
  h.filterMap fun item => match item with
    | ⟨.appendSnapshot row, .ok _⟩ => some row.entry
    | _ => none

/-- The entries whose event was appended. -/
def appendedEvents (h : List (Done Exc ReplayAns)) : List ReplayEntry :=
  h.filterMap fun item => match item with
    | ⟨.appendEvent row, .ok _⟩ => some row.entry
    | _ => none

/-- The snapshot identifiers of the quotes that were consumed. -/
def consumedIn (h : List (Done Exc ReplayAns)) : List UUID :=
  h.filterMap fun item => match item with
    | ⟨.consumeQuote quote, .ok _⟩ => some quote.snapshotId
    | _ => none

/-- The checkpoints that were stored. -/
def stored (h : List (Done Exc ReplayAns)) : List OfflineReplayCheckpoint :=
  h.filterMap fun item => match item with
    | ⟨.saveCheckpoint checkpoint, .ok _⟩ => some checkpoint
    | _ => none

/-- The checkpoints that were passed to the sink, stored or not. -/
def emitted (h : List (Done Exc ReplayAns)) : List OfflineReplayCheckpoint :=
  h.filterMap fun item => match item with
    | ⟨.saveCheckpoint checkpoint, _⟩ => some checkpoint
    | _ => none

/-- The sequences of the steps that returned. -/
def processed (rs : List (Except Exc OfflineReplayStep)) : List ℕ :=
  rs.flatMap fun r => match r with
    | .ok step => step.processedSequences
    | .error _ => []

/-- While a callback runs, others may move the clock forward, use the bus and the freshness
monitor, and change whatever the callbacks work on. -/
structure Undisturbed (s s' : ReplayState W) : Prop where
  nextIndex : s'.nextIndex = s.nextIndex
  pending : s'.pending = s.pending
  consumedQuotes : s'.consumedQuotes = s.consumedQuotes
  checkpoint : s'.checkpoint = s.checkpoint
  freshnessTimes : s'.freshnessTimes = s.freshnessTimes
  clock : s.clock ≤ s'.clock

/-- Any answer to any call. -/
def anyAnswer (op : ReplayOp) (s : ReplayState W) (_ : Except Exc (ReplayAns op))
    (s' : ReplayState W) : Prop := Undisturbed s s'

/-! ### Stages of a group -/

/-- Nothing is left to do for a record. -/
structure Finished (consumed : List UUID) (p : PendingRecord) : Prop where
  snapshot : p.snapshotPersisted = true
  event : p.eventPersisted = true
  dispatched : p.eventDispatched = true
  quote : ∀ quote, p.entry.value.optionQuote = some quote → quote.snapshotId ∈ consumed

/-- Nothing was appended for a record. -/
def Untouched (p : PendingRecord) : Prop := p.snapshotPersisted = false ∧ p.eventPersisted = false

/-- Finished records, then at most one that is being worked on, then untouched ones. -/
def Staged (consumed : List UUID) (ps : List PendingRecord) : Prop :=
  ∃ before after, ps = before ++ after ∧ (∀ p ∈ before, Finished consumed p) ∧
    ∀ p later, after = p :: later →
      (p.eventPersisted = true → p.snapshotPersisted = true) ∧ ∀ q ∈ later, Untouched q

/-- The entries of the records that a flag is set for. -/
def flagged (flag : PendingRecord → Bool) (ps : List PendingRecord) : List ReplayEntry :=
  (ps.filter flag).map PendingRecord.entry

theorem Finished.mono {consumed consumed' : List UUID} {p : PendingRecord}
    (finished : Finished consumed p) (more : consumed ⊆ consumed') : Finished consumed' p :=
  { finished with quote := fun quote found => more (finished.quote quote found) }

theorem Staged.mono {consumed consumed' : List UUID} {ps : List PendingRecord}
    (staged : Staged consumed ps) (more : consumed ⊆ consumed') : Staged consumed' ps := by
  obtain ⟨before, after, split, finished, rest⟩ := staged
  exact ⟨before, after, split, fun p member => (finished p member).mono more, rest⟩

/-- A flag that untouched records lack and finished ones have is set for a first part. -/
theorem flagged_front {consumed : List UUID} {ps : List PendingRecord}
    (staged : Staged consumed ps) {flag : PendingRecord → Bool}
    (set_ : ∀ p, Finished consumed p → flag p = true) (unset : ∀ p, Untouched p → flag p = false) :
    flagged flag ps <+: ps.map PendingRecord.entry := by
  obtain ⟨before, after, rfl, finished, rest⟩ := staged
  have first : before.filter flag = before :=
    List.filter_eq_self.mpr fun p member => set_ p (finished p member)
  have second : after.filter flag <+: after := by
    cases after with
    | nil => exact List.nil_prefix
    | cons p later =>
      have none_later : later.filter flag = [] := by
        rw [List.filter_eq_nil_iff]
        intro q member
        simp [unset q ((rest p later rfl).2 q member)]
      cases state : flag p <;> simp [state, none_later]
  rw [flagged, List.filter_append, first]
  exact (List.prefix_append_right_inj before |>.mpr second).map _

/-- The last sequence of one checkpoint is smaller than that of another. -/
def Precedes (a b : OfflineReplayCheckpoint) : Prop :=
  ∃ y, b.lastSequence = some y ∧ ∀ x, a.lastSequence = some x → x < y

/-- The last sequence of one checkpoint is not beyond that of another. -/
def NotAfter (a b : OfflineReplayCheckpoint) : Prop :=
  ∀ x, a.lastSequence = some x → ∃ y, b.lastSequence = some y ∧ x ≤ y

theorem Cursor.notAfter {a b : OfflineReplayCheckpoint} {i j : ℕ} (first : session.Cursor a i)
    (second : session.Cursor b j) (le : i ≤ j)
    (placed : session.entries ≠ [] → ∃ sequence, b.lastSequence = some sequence) : NotAfter a b := by
  intro x place
  obtain ⟨k, entry, rfl, here, rfl, -⟩ := first.started x place
  have filled : session.entries ≠ [] := by
    rintro empty
    simp [empty] at here
  obtain ⟨y, there⟩ := placed filled
  obtain ⟨l, other, rfl, later, rfl, -⟩ := second.started y there
  refine ⟨other.sequence, there, ?_⟩
  obtain ⟨bound, rfl⟩ := List.getElem?_eq_some_iff.mp here
  obtain ⟨bound', rfl⟩ := List.getElem?_eq_some_iff.mp later
  rcases Nat.lt_or_eq_of_le (Nat.le_of_succ_le_succ le) with before | rfl
  · exact (List.pairwise_iff_getElem.mp session.entries_sequence k l bound bound' before).le
  · exact le_refl _

/-! ### The invariant -/

/-- What holds of a session that started in the state `origin`, after a history of answered
calls and a number of steps that ended. -/
structure Inv (session : OfflineReplaySession) (origin : ReplayState W)
    (h : List (Done Exc ReplayAns)) (rs : List (Except Exc OfflineReplayStep))
    (s : ReplayState W) : Prop where
  index_le : origin.nextIndex ≤ s.nextIndex
  cursor : session.Cursor s.checkpoint s.nextIndex
  group : s.pending = [] ∨ s.pending.map PendingRecord.entry = session.groupAt s.nextIndex
  staged : Staged s.consumedQuotes s.pending
  snapshots : appendedSnapshots h = (session.entries.take s.nextIndex).drop origin.nextIndex ++
    flagged PendingRecord.snapshotPersisted s.pending
  events : appendedEvents h = (session.entries.take s.nextIndex).drop origin.nextIndex ++
    flagged PendingRecord.eventPersisted s.pending
  sequences : processed rs =
    ((session.entries.take s.nextIndex).drop origin.nextIndex).map ReplayEntry.sequence
  consumed_nodup : (consumedIn h).Nodup
  consumed_known : ∀ id ∈ consumedIn h, id ∈ s.consumedQuotes ∧ id ∉ origin.consumedQuotes
  origin_known : origin.consumedQuotes ⊆ s.consumedQuotes
  ascending : (stored h).Pairwise Precedes
  stored_before : session.entries ≠ [] → ∀ cp ∈ stored h,
    cp.lastSequence = s.checkpoint.lastSequence ∨ Precedes cp s.checkpoint
  stored_empty : session.entries = [] → stored h ≠ [] → s.checkpoint.complete = true
  emitted_cursor : ∀ cp ∈ emitted h, ∃ i, session.Cursor cp i ∧
    i ≤ s.nextIndex + s.pending.length ∧ cp.complete = decide (i = session.entries.length) ∧
    (session.entries ≠ [] → ∃ sequence, cp.lastSequence = some sequence)
  emitted_ascending : (emitted h).Pairwise NotAfter

section Steps

variable {origin s s' : ReplayState W} {h : List (Done Exc ReplayAns)}
  {rs : List (Except Exc OfflineReplayStep)}

theorem Inv.undisturbed (inv : Inv session origin h rs s) (still : Undisturbed s s') :
    Inv session origin h rs s' := by
  obtain ⟨nextIndex, pending, consumedQuotes, checkpoint, -, -⟩ := still
  refine
    { index_le := ?_, cursor := ?_, group := ?_, staged := ?_, snapshots := ?_, events := ?_
      sequences := ?_, consumed_nodup := inv.consumed_nodup, consumed_known := ?_
      origin_known := ?_, ascending := inv.ascending, stored_before := ?_, stored_empty := ?_
      emitted_cursor := ?_, emitted_ascending := inv.emitted_ascending }
  all_goals simp only [nextIndex, pending, consumedQuotes, checkpoint]
  · exact inv.index_le
  · exact inv.cursor
  · exact inv.group
  · exact inv.staged
  · exact inv.snapshots
  · exact inv.events
  · exact inv.sequences
  · exact inv.consumed_known
  · exact inv.origin_known
  · exact inv.stored_before
  · exact inv.stored_empty
  · exact inv.emitted_cursor

/-- What callbacks were given is the same after both histories. -/
structure SameLog (h h' : List (Done Exc ReplayAns)) : Prop where
  snapshots : appendedSnapshots h' = appendedSnapshots h
  events : appendedEvents h' = appendedEvents h
  consumed : consumedIn h' = consumedIn h
  stored : stored h' = stored h
  emitted : emitted h' = emitted h

/-- A call that failed leaves no trace, unless it was for a checkpoint. -/
theorem sameLog_failed (h : List (Done Exc ReplayAns)) {op : ReplayOp} (e : Exc)
    (other : ∀ checkpoint, op ≠ .saveCheckpoint checkpoint) :
    SameLog h (h ++ [⟨op, .error e⟩]) := by
  cases op with
  | saveCheckpoint checkpoint => exact absurd rfl (other checkpoint)
  | _ => constructor <;> simp [appendedSnapshots, appendedEvents, consumedIn, stored, emitted]

/-- Receiving an event leaves no trace either way. -/
theorem sameLog_receive (h : List (Done Exc ReplayAns)) (r : Except Exc SentinelEvent) :
    SameLog h (h ++ [⟨.receive, r⟩]) := by
  constructor <;> simp [appendedSnapshots, appendedEvents, consumedIn, stored, emitted]

theorem sameLog_handle (h : List (Done Exc ReplayAns)) (event : SentinelEvent)
    (r : Except Exc Unit) : SameLog h (h ++ [⟨.handleEvent event, r⟩]) := by
  constructor <;> simp [appendedSnapshots, appendedEvents, consumedIn, stored, emitted]

theorem Inv.of_sameLog (inv : Inv session origin h rs s) {h' : List (Done Exc ReplayAns)}
    (same : SameLog h h') : Inv session origin h' rs s :=
  { inv with
    snapshots := same.snapshots ▸ inv.snapshots
    events := same.events ▸ inv.events
    consumed_nodup := same.consumed ▸ inv.consumed_nodup
    consumed_known := same.consumed ▸ inv.consumed_known
    ascending := same.stored ▸ inv.ascending
    stored_before := same.stored ▸ inv.stored_before
    stored_empty := same.stored ▸ inv.stored_empty
    emitted_cursor := same.emitted ▸ inv.emitted_cursor
    emitted_ascending := same.emitted ▸ inv.emitted_ascending }

/-- The record `p` of the group is being worked on, after those in `before`. -/
structure Working (session : OfflineReplaySession) (origin : ReplayState W)
    (rs : List (Except Exc OfflineReplayStep)) (checkpoint : OfflineReplayCheckpoint)
    (before : List PendingRecord) (p : PendingRecord) (later : List PendingRecord)
    (h : List (Done Exc ReplayAns)) (s : ReplayState W) : Prop where
  inv : Inv session origin h rs s
  checkpoint_eq : s.checkpoint = checkpoint
  pending : s.pending = before ++ p :: later
  finished : ∀ q ∈ before, Finished s.consumedQuotes q
  begun : p.eventPersisted = true → p.snapshotPersisted = true
  untouched : ∀ q ∈ later, Untouched q

variable {checkpoint : OfflineReplayCheckpoint} {before later : List PendingRecord}
  {p : PendingRecord}

theorem Working.undisturbed (working : Working session origin rs checkpoint before p later h s)
    (still : Undisturbed s s') : Working session origin rs checkpoint before p later h s' where
  inv := working.inv.undisturbed still
  checkpoint_eq := still.checkpoint.trans working.checkpoint_eq
  pending := still.pending.trans working.pending
  finished := still.consumedQuotes ▸ working.finished
  begun := working.begun
  untouched := working.untouched

theorem modify_middle {α : Type} (xs : List α) (x : α) (ys : List α) (f : α → α) :
    (xs ++ x :: ys).modify xs.length f = xs ++ f x :: ys := by
  induction xs with
  | nil => rfl
  | cons first rest ih => simp [ih]

theorem staged_middle {consumed : List UUID} (finished : ∀ q ∈ before, Finished consumed q)
    (begun : p.eventPersisted = true → p.snapshotPersisted = true)
    (untouched : ∀ q ∈ later, Untouched q) : Staged consumed (before ++ p :: later) := by
  refine ⟨before, p :: later, rfl, finished, ?_⟩
  rintro q rest ⟨⟩
  exact ⟨begun, untouched⟩

/-- The flags of the records around the one that is being worked on. -/
theorem flagged_middle {consumed : List UUID} {flag : PendingRecord → Bool}
    (finished : ∀ q ∈ before, Finished consumed q) (untouched : ∀ q ∈ later, Untouched q)
    (set_ : ∀ p, Finished consumed p → flag p = true) (unset : ∀ p, Untouched p → flag p = false) :
    flagged flag (before ++ p :: later) =
      before.map PendingRecord.entry ++ if flag p then [p.entry] else [] := by
  have first : before.filter flag = before :=
    List.filter_eq_self.mpr fun q member => set_ q (finished q member)
  have none_later : later.filter flag = [] := by
    rw [List.filter_eq_nil_iff]
    intro q member
    simp [unset q (untouched q member)]
  rw [flagged, List.filter_append, List.filter_cons, first, none_later, List.map_append]
  split <;> rfl

/-- Rewriting the record that is being worked on, and what was appended along with it. -/
theorem Working.write (working : Working session origin rs checkpoint before p later h s)
    {h' : List (Done Exc ReplayAns)} {p' : PendingRecord} {f : PendingRecord → PendingRecord}
    (changed : f p = p') (entry : p'.entry = p.entry)
    (begun : p'.eventPersisted = true → p'.snapshotPersisted = true)
    (snapshots : appendedSnapshots h' = appendedSnapshots h ++
      if p'.snapshotPersisted && !p.snapshotPersisted then [p.entry] else [])
    (events : appendedEvents h' = appendedEvents h ++
      if p'.eventPersisted && !p.eventPersisted then [p.entry] else [])
    (kept : p.snapshotPersisted = true → p'.snapshotPersisted = true)
    (kept' : p.eventPersisted = true → p'.eventPersisted = true)
    (consumed : consumedIn h' = consumedIn h) (storedSame : stored h' = stored h)
    (emittedSame : emitted h' = emitted h) :
    Working session origin rs checkpoint before p' later h'
      { s with pending := s.pending.modify before.length f } := by
  have inv := working.inv
  have written : s.pending.modify before.length f = before ++ p' :: later := by
    rw [working.pending, modify_middle, changed]
  have snapshotsBefore := inv.snapshots
  have eventsBefore := inv.events
  rw [working.pending, flagged_middle working.finished working.untouched
    (fun _ done => done.snapshot) fun _ fresh => fresh.1] at snapshotsBefore
  rw [working.pending, flagged_middle working.finished working.untouched
    (fun _ done => done.event) fun _ fresh => fresh.2] at eventsBefore
  refine ⟨?_, working.checkpoint_eq, written, working.finished, begun, working.untouched⟩
  exact
    { inv with
      group := by
        right
        have grouped : s.pending.map PendingRecord.entry = session.groupAt s.nextIndex := by
          rcases inv.group with none_pending | grouped
          · rw [working.pending] at none_pending
            simp at none_pending
          · exact grouped
        rw [working.pending] at grouped
        simpa [written, entry] using grouped
      staged := by
        rw [written]
        exact staged_middle working.finished begun working.untouched
      snapshots := by
        rw [written, flagged_middle working.finished working.untouched
          (fun _ done => done.snapshot) fun _ fresh => fresh.1, snapshots, snapshotsBefore, entry]
        cases old : p.snapshotPersisted <;> cases new : p'.snapshotPersisted <;> simp_all
      events := by
        rw [written, flagged_middle working.finished working.untouched
          (fun _ done => done.event) fun _ fresh => fresh.2, events, eventsBefore, entry]
        cases old : p.eventPersisted <;> cases new : p'.eventPersisted <;> simp_all
      consumed_nodup := consumed ▸ inv.consumed_nodup
      consumed_known := consumed ▸ inv.consumed_known
      ascending := storedSame ▸ inv.ascending
      stored_before := storedSame ▸ inv.stored_before
      stored_empty := storedSame ▸ inv.stored_empty
      emitted_cursor := by
        rw [emittedSame, List.length_modify]
        exact inv.emitted_cursor
      emitted_ascending := emittedSame ▸ inv.emitted_ascending }

/-! ### The parts of a step -/

open Coroutine

/-- Whatever is called for, the invariant holds by then. -/
abbrev calling (session : OfflineReplaySession) (origin : ReplayState W)
    (rs : List (Except Exc OfflineReplayStep)) : Spec (ReplayState W) Exc ReplayAns :=
  ⟨fun h _ s => Inv session origin h rs s, anyAnswer⟩

/-- A part of a step ends as described, or raises and leaves the invariant. -/
def Leaves (session : OfflineReplaySession) (origin : ReplayState W)
    (rs : List (Except Exc OfflineReplayStep))
    (P : List (Done Exc ReplayAns) → ReplayState W → Prop) :
    Post (ReplayState W) Exc ReplayAns Unit
  | h, s, .ok _ => P h s
  | h, s, .error _ => Inv session origin h rs s

theorem sat_mark {P : List (Done Exc ReplayAns) → ReplayState W → Prop} {i : ℕ}
    {f : PendingRecord → PendingRecord}
    (after : P h { s with pending := s.pending.modify i f }) :
    Sat (calling session origin rs) (Leaves session origin rs P) (mark i f) h s := after

theorem sat_persistSnapshot (working : Working session origin rs checkpoint before p later h s) :
    Sat (calling session origin rs) (Leaves session origin rs
      (Working session origin rs checkpoint before { p with snapshotPersisted := true } later))
      (session.persistSnapshot before.length p) h s := by
  unfold persistSnapshot
  split
  next already =>
    have same : { p with snapshotPersisted := true } = p := by cases p; simp_all
    rw [same]
    exact working
  next missing =>
    refine Sat.call_bind working.inv ?_ ?_
    · intro e s' still
      exact (working.inv.undisturbed still).of_sameLog (sameLog_failed h e (by simp))
    · intro answer s' still
      apply sat_mark
      apply (working.undisturbed still).write
      · rfl
      all_goals simp_all [appendedSnapshots, appendedEvents, consumedIn, stored, emitted,
        snapshotRow]

theorem sat_persistEvent
    (working : Working session origin rs checkpoint before { p with snapshotPersisted := true }
      later h s) :
    Sat (calling session origin rs) (Leaves session origin rs
      (Working session origin rs checkpoint before
        { p with snapshotPersisted := true, eventPersisted := true } later))
      (session.persistEvent before.length p) h s := by
  unfold persistEvent
  split
  next already =>
    have same : { p with snapshotPersisted := true, eventPersisted := true } =
        { p with snapshotPersisted := true } := by cases p; simp_all
    rw [same]
    exact working
  next missing =>
    refine Sat.call_bind working.inv ?_ ?_
    · intro e s' still
      exact (working.inv.undisturbed still).of_sameLog (sameLog_failed h e (by simp))
    · intro answer s' still
      apply sat_mark
      apply (working.undisturbed still).write
      · rfl
      all_goals simp_all [appendedSnapshots, appendedEvents, consumedIn, stored, emitted, eventRow]

/-- A quote is noted as consumed, after the consumer took it or without one. -/
theorem Working.note (working : Working session origin rs checkpoint before p later h s)
    {h' : List (Done Exc ReplayAns)} {id : UUID} (new : id ∉ s.consumedQuotes)
    (consumed : consumedIn h' = consumedIn h ∨ consumedIn h' = consumedIn h ++ [id])
    (snapshots : appendedSnapshots h' = appendedSnapshots h)
    (events : appendedEvents h' = appendedEvents h) (storedSame : stored h' = stored h)
    (emittedSame : emitted h' = emitted h) :
    Working session origin rs checkpoint before p later h'
      { s with consumedQuotes := s.consumedQuotes ++ [id] } := by
  have inv := working.inv
  have more : s.consumedQuotes ⊆ s.consumedQuotes ++ [id] := List.subset_append_left _ _
  have unseen : id ∉ consumedIn h := fun member => new (inv.consumed_known id member).1
  refine ⟨?_, working.checkpoint_eq, working.pending,
    fun q member => (working.finished q member).mono more, working.begun, working.untouched⟩
  exact
    { inv with
      staged := inv.staged.mono more
      snapshots := snapshots ▸ inv.snapshots
      events := events ▸ inv.events
      consumed_nodup := by
        rcases consumed with same | added
        · rw [same]
          exact inv.consumed_nodup
        · rw [added, List.nodup_append]
          refine ⟨inv.consumed_nodup, List.nodup_singleton _, ?_⟩
          rintro a member b single rfl
          exact unseen (List.mem_singleton.mp single ▸ member)
      consumed_known := by
        intro id' member
        have cases_ : id' ∈ consumedIn h ∨ id' = id := by
          rcases consumed with same | added
          · exact Or.inl (same ▸ member)
          · simpa [added] using member
        rcases cases_ with old | rfl
        · exact ⟨more (inv.consumed_known id' old).1, (inv.consumed_known id' old).2⟩
        · exact ⟨by simp, fun known => new (inv.origin_known known)⟩
      origin_known := fun _ known => more (inv.origin_known known)
      ascending := storedSame ▸ inv.ascending
      stored_before := storedSame ▸ inv.stored_before
      stored_empty := storedSame ▸ inv.stored_empty
      emitted_cursor := emittedSame ▸ inv.emitted_cursor
      emitted_ascending := emittedSame ▸ inv.emitted_ascending }

/-- After this part, the quote of the record is known as consumed. -/
theorem sat_consume (working : Working session origin rs checkpoint before p later h s) :
    Sat (calling session origin rs) (Leaves session origin rs fun h s =>
      Working session origin rs checkpoint before p later h s ∧
        ∀ quote, p.entry.value.optionQuote = some quote → quote.snapshotId ∈ s.consumedQuotes)
      (session.consume p.entry.value) h s := by
  unfold consume
  split
  next none_quoted => exact ⟨working, by simp [none_quoted]⟩
  next quote quoted =>
    refine Sat.peek_bind ?_
    split
    next seen =>
      refine ⟨working, ?_⟩
      rintro quote' found
      cases quoted.symm.trans found
      simpa using seen
    next unseen =>
      have new : quote.snapshotId ∉ s.consumedQuotes := by simpa using unseen
      have known : ∀ quote', p.entry.value.optionQuote = some quote' →
          ∀ others : List UUID, quote'.snapshotId ∈ others ++ [quote.snapshotId] := by
        intro quote' found others
        cases quoted.symm.trans found
        simp
      unfold offer
      split
      · refine Sat.call_bind working.inv ?_ ?_
        · intro e s' still
          exact (working.inv.undisturbed still).of_sameLog (sameLog_failed h e (by simp))
        · intro answer s' still
          refine ⟨(working.undisturbed still).note (still.consumedQuotes ▸ new) ?_ ?_ ?_ ?_ ?_,
            fun quote' found => known quote' found _⟩
          all_goals simp [appendedSnapshots, appendedEvents, consumedIn, stored, emitted]
      · exact ⟨working.note new (Or.inl rfl) rfl rfl rfl rfl,
          fun quote' found => known quote' found _⟩

/-- The state with other freshness records. -/
abbrev refreshed (s : ReplayState W) (times monitor : Dict String Time) : ReplayState W :=
  { s with freshnessTimes := times, freshness := monitor }

theorem observeStream_frame {name : String} {effectiveAt : Time}
    (done : s.observeStream name effectiveAt = .ok s') :
    s' = refreshed s s'.freshnessTimes s'.freshness := by
  unfold ReplayState.observeStream at done
  split at done
  · split at done
    · cases done
    · cases done
      rfl
  · cases done
    rfl

/-- Observing only touches the freshness records. -/
theorem sat_observeOne {P : List (Done Exc ReplayAns) → ReplayState W → Prop}
    (inv : ∀ {h s}, P h s → Inv session origin h rs s)
    (stable : ∀ {h s} times monitor, P h s → P h (refreshed s times monitor))
    (name : String) (effectiveAt : Time) (holds : P h s) :
    Sat (calling session origin rs) (Leaves session origin rs P) (observeOne name effectiveAt)
      h s := by
  unfold observeOne
  simp only [Sat]
  split
  next s' done =>
    have after := stable s'.freshnessTimes s'.freshness holds
    rw [← observeStream_frame done] at after
    exact after
  · exact inv holds

theorem sat_observe {P : List (Done Exc ReplayAns) → ReplayState W → Prop}
    (inv : ∀ {h s}, P h s → Inv session origin h rs s)
    (stable : ∀ {h s} times monitor, P h s → P h (refreshed s times monitor))
    (value : MarketObservation) (holds : P h s) :
    Sat (calling session origin rs) (Leaves session origin rs P) (observe value) h s := by
  unfold observe
  rw [sat_bind]
  refine (sat_observeOne inv stable "market_data" value.metadata.effectiveAt holds).mono ?_
  rintro h s (e | ⟨⟩) first
  · exact first
  · exact sat_observeOne inv stable value.stream value.metadata.effectiveAt first

/-- Only the dispatch of the record is left. -/
structure Ready (session : OfflineReplaySession) (origin : ReplayState W)
    (rs : List (Except Exc OfflineReplayStep)) (checkpoint : OfflineReplayCheckpoint)
    (before : List PendingRecord) (entry : ReplayEntry) (later : List PendingRecord)
    (q : PendingRecord) (h : List (Done Exc ReplayAns)) (s : ReplayState W) : Prop where
  working : Working session origin rs checkpoint before q later h s
  entry_eq : q.entry = entry
  snapshot : q.snapshotPersisted = true
  event : q.eventPersisted = true
  quote : ∀ quote, entry.value.optionQuote = some quote → quote.snapshotId ∈ s.consumedQuotes

/-- The record is finished. -/
structure Reached (session : OfflineReplaySession) (origin : ReplayState W)
    (rs : List (Except Exc OfflineReplayStep)) (checkpoint : OfflineReplayCheckpoint)
    (before : List PendingRecord) (entry : ReplayEntry) (later : List PendingRecord)
    (q : PendingRecord) (h : List (Done Exc ReplayAns)) (s : ReplayState W) : Prop where
  inv : Inv session origin h rs s
  checkpoint_eq : s.checkpoint = checkpoint
  pending : s.pending = before ++ q :: later
  entry_eq : q.entry = entry
  finished : ∀ p ∈ before ++ [q], Finished s.consumedQuotes p

variable {entry : ReplayEntry} {q : PendingRecord}

theorem Ready.undisturbed (ready : Ready session origin rs checkpoint before entry later q h s)
    (still : Undisturbed s s') : Ready session origin rs checkpoint before entry later q h s' :=
  { ready with
    working := ready.working.undisturbed still
    quote := still.consumedQuotes ▸ ready.quote }

theorem Working.of_sameLog (working : Working session origin rs checkpoint before p later h s)
    {h' : List (Done Exc ReplayAns)} (same : SameLog h h') :
    Working session origin rs checkpoint before p later h' s :=
  { working with inv := working.inv.of_sameLog same }

/-- The dispatch flags say nothing about what was appended. -/
theorem Ready.mark (ready : Ready session origin rs checkpoint before entry later q h s)
    {f : PendingRecord → PendingRecord} (entry_eq : (f q).entry = q.entry)
    (snapshot : (f q).snapshotPersisted = q.snapshotPersisted)
    (event : (f q).eventPersisted = q.eventPersisted) :
    Ready session origin rs checkpoint before entry later (f q) h
      { s with pending := s.pending.modify before.length f } where
  working := by
    apply ready.working.write
    · rfl
    all_goals simp [entry_eq, snapshot, event, ready.snapshot, ready.event]
  entry_eq := entry_eq.trans ready.entry_eq
  snapshot := snapshot.trans ready.snapshot
  event := event.trans ready.event
  quote := ready.quote

theorem sat_enqueue (p : PendingRecord)
    (ready : Ready session origin rs checkpoint before entry later q h s) :
    Sat (calling session origin rs) (Leaves session origin rs fun h s =>
      ∃ q, Ready session origin rs checkpoint before entry later q h s)
      (session.enqueue before.length p) h s := by
  unfold enqueue publish
  split
  · exact ⟨q, ready⟩
  · rw [sat_bind]
    refine Sat.peek_bind (Sat.raiseIf_bind (fun _ => ready.working.inv) fun _ => ?_)
    have published : Ready session origin rs checkpoint before entry later q h
        { s with bus := s.bus ++ [p.event] } :=
      ready.undisturbed ⟨rfl, rfl, rfl, rfl, rfl, le_refl _⟩
    exact ⟨_, published.mark rfl rfl rfl⟩

theorem sat_handle (p : PendingRecord)
    (ready : Ready session origin rs checkpoint before entry later q h s) :
    Sat (calling session origin rs) (Leaves session origin rs fun h s =>
      ∃ q, Ready session origin rs checkpoint before entry later q h s)
      (session.handle before.length p) h s := by
  unfold handle
  split
  · rw [sat_bind]
    have handed : ∀ {q : PendingRecord} {h : List (Done Exc ReplayAns)} {s : ReplayState W},
        Ready session origin rs checkpoint before entry later q h s →
        Sat (calling session origin rs) (Leaves session origin rs fun h s =>
          ∃ q, Ready session origin rs checkpoint before entry later q h s)
          (call (ReplayOp.handleEvent p.event)) h s := by
      intro q h s ready
      refine (sat_call (ReplayOp.handleEvent p.event) _).mpr
        ⟨ready.working.inv, fun r s' still => ?_⟩
      have after := ready.undisturbed still
      cases r with
      | error e => exact after.working.inv.of_sameLog (sameLog_handle h p.event _)
      | ok _ =>
        exact ⟨q, { after with working := after.working.of_sameLog (sameLog_handle h p.event _) }⟩
    unfold takeBack
    split
    · exact handed ready
    · refine Sat.call_bind ready.working.inv ?_ ?_
      · intro e s' still
        exact (ready.undisturbed still).working.inv.of_sameLog (sameLog_receive h _)
      · intro received s' still
        have after := ready.undisturbed still
        have logged : Ready session origin rs checkpoint before entry later q
            (h ++ [⟨.receive, .ok received⟩]) s' :=
          { after with working := after.working.of_sameLog (sameLog_receive h _) }
        refine Sat.raiseIf_bind (fun _ => logged.working.inv) fun _ => ?_
        exact handed (logged.mark rfl rfl rfl)
  · exact ⟨q, ready⟩

theorem sat_dispatch (p : PendingRecord)
    (ready : Ready session origin rs checkpoint before entry later q h s)
    (flag : p.eventDispatched = true → q.eventDispatched = true) :
    Sat (calling session origin rs) (Leaves session origin rs fun h s =>
      ∃ q, Reached session origin rs checkpoint before entry later q h s)
      (session.dispatch before.length p) h s := by
  have finish : ∀ {q : PendingRecord} {h : List (Done Exc ReplayAns)} {s : ReplayState W},
      Ready session origin rs checkpoint before entry later q h s → q.eventDispatched = true →
      Reached session origin rs checkpoint before entry later q h s := by
    intro q h s ready dispatched
    refine ⟨ready.working.inv, ready.working.checkpoint_eq, ready.working.pending,
      ready.entry_eq, ?_⟩
    intro p member
    rcases List.mem_append.mp member with old | new
    · exact ready.working.finished p old
    · cases List.mem_singleton.mp new
      exact ⟨ready.snapshot, ready.event, dispatched, ready.entry_eq ▸ ready.quote⟩
  unfold dispatch
  split
  next already => exact ⟨q, finish ready (flag already)⟩
  next missing =>
    rw [sat_bind]
    refine (sat_enqueue p ready).mono ?_
    rintro h s (e | ⟨⟩) enqueued
    · exact enqueued
    obtain ⟨q, ready⟩ := enqueued
    change Sat _ _ (session.handle before.length p >>= _) h s
    rw [sat_bind]
    refine (sat_handle p ready).mono ?_
    rintro h s (e | ⟨⟩) handled
    · exact handled
    obtain ⟨q, ready⟩ := handled
    have marked := ready.mark (f := fun p => { p with eventDispatched := true }) rfl rfl rfl
    exact ⟨_, finish marked rfl⟩

/-- Processing a record that was not finished before. -/
theorem sat_process_working
    (working : Working session origin rs checkpoint before p later h s) :
    Sat (calling session origin rs) (Leaves session origin rs fun h s =>
      ∃ q, Reached session origin rs checkpoint before p.entry later q h s)
      (session.process before.length p) h s := by
  unfold process
  rw [sat_bind]
  refine (sat_persistSnapshot working).mono ?_
  rintro h s (e | ⟨⟩) first
  · exact first
  change Sat _ _ (session.persistEvent before.length p >>= _) h s
  rw [sat_bind]
  refine (sat_persistEvent first).mono ?_
  rintro h s (e | ⟨⟩) second
  · exact second
  change Sat _ _ (session.consume p.entry.value >>= _) h s
  rw [sat_bind]
  refine (sat_consume second).mono ?_
  rintro h s (e | ⟨⟩) third
  · exact third
  change Sat _ _ (observe p.entry.value >>= _) h s
  rw [sat_bind]
  have ready : Ready session origin rs checkpoint before p.entry later
      { p with snapshotPersisted := true, eventPersisted := true } h s :=
    ⟨third.1, rfl, rfl, rfl, third.2⟩
  refine (sat_observe (fun ready => ready.working.inv) ?_ p.entry.value ready).mono ?_
  · intro h s times monitor ready
    exact
      { ready with
        working := { ready.working with inv := { ready.working.inv with } } }
  rintro h s (e | ⟨⟩) fourth
  · exact fourth
  · exact sat_dispatch p fourth id

/-- A finished record is only observed again. -/
theorem sat_process_finished
    (reached : Reached session origin rs checkpoint before p.entry later p h s) :
    Sat (calling session origin rs) (Leaves session origin rs fun h s =>
      ∃ q, Reached session origin rs checkpoint before p.entry later q h s)
      (session.process before.length p) h s := by
  have finished := reached.finished p (by simp)
  have consumed : session.consume p.entry.value = (pure () : ReplayProgram W Unit) ∨
      ∃ quote, p.entry.value.optionQuote = some quote := by
    unfold consume
    cases p.entry.value.optionQuote with
    | none => exact Or.inl rfl
    | some quote => exact Or.inr ⟨quote, rfl⟩
  have observed : Sat (calling session origin rs) (Leaves session origin rs fun h s =>
      ∃ q, Reached session origin rs checkpoint before p.entry later q h s)
      (do observe p.entry.value; session.dispatch before.length p) h s := by
    rw [sat_bind]
    refine (sat_observe (P := Reached session origin rs checkpoint before p.entry later p)
      (fun reached => reached.inv) ?_ p.entry.value reached).mono ?_
    · intro h s times monitor reached
      exact { reached with inv := { reached.inv with } }
    rintro h s (e | ⟨⟩) after
    · exact after
    · unfold dispatch
      rw [if_pos finished.dispatched]
      exact ⟨p, after⟩
  unfold process persistSnapshot persistEvent
  rw [if_pos finished.snapshot, if_pos finished.event]
  refine Sat.pure_bind (Sat.pure_bind ?_)
  rcases consumed with skipped | ⟨quote, quoted⟩
  · rw [skipped]
    exact Sat.pure_bind observed
  · unfold consume
    simp only [quoted]
    rw [sat_bind]
    refine Sat.peek_bind ?_
    have seen : s.consumedQuotes.contains quote.snapshotId = true := by
      simpa using finished.quote quote quoted
    rw [if_pos seen]
    exact observed

theorem staged_cases {consumed : List UUID} (staged : Staged consumed (before ++ p :: later)) :
    Finished consumed p ∨
      (p.eventPersisted = true → p.snapshotPersisted = true) ∧ ∀ q ∈ later, Untouched q := by
  obtain ⟨front, back, split, finished, rest⟩ := staged
  rcases List.append_eq_append_iff.mp split with ⟨more, rfl, tail⟩ | ⟨more, rfl, rfl⟩
  · cases more with
    | nil => exact Or.inr (rest p later tail.symm)
    | cons first others =>
      -- the record lies in the finished part
      cases tail
      exact Or.inl (finished p (by simp))
  · cases more with
    | nil => exact Or.inr (rest p later rfl)
    | cons first others =>
      -- the record lies behind the one that is being worked on
      have untouched := (rest first (others ++ p :: later) rfl).2
      refine Or.inr ⟨?_, fun q member => untouched q (by simp [member])⟩
      simp [(untouched p (by simp)).2]

/-- The whole group is finished, at the time of its last record. -/
structure GroupDone (session : OfflineReplaySession) (origin : ReplayState W)
    (rs : List (Except Exc OfflineReplayStep)) (checkpoint : OfflineReplayCheckpoint)
    (group : List ReplayEntry) (h : List (Done Exc ReplayAns)) (s : ReplayState W) : Prop where
  inv : Inv session origin h rs s
  checkpoint_eq : s.checkpoint = checkpoint
  finished : ∀ p ∈ s.pending, Finished s.consumedQuotes p
  entries : s.pending.map PendingRecord.entry = group
  clock : ∀ last, group.getLast? = some last → s.clock = last.availableAt

theorem sat_processFrom (before rest : List PendingRecord)
    (inv : Inv session origin h rs s) (checkpoint_eq : s.checkpoint = checkpoint)
    (pending : s.pending = before ++ rest) (finished : ∀ q ∈ before, Finished s.consumedQuotes q)
    (clock : rest = [] → ∀ last, (before.map PendingRecord.entry).getLast? = some last →
      s.clock = last.availableAt) :
    Sat (calling session origin rs) (Leaves session origin rs
      (GroupDone session origin rs checkpoint ((before ++ rest).map PendingRecord.entry)))
      (session.processFrom before.length rest) h s := by
  induction rest generalizing before h s with
  | nil =>
    rw [List.append_nil] at pending ⊢
    exact ⟨inv, checkpoint_eq, pending ▸ finished, by rw [pending], clock rfl⟩
  | cons p rest ih =>
    have one : Sat (calling session origin rs) (Leaves session origin rs fun h s =>
        ∃ q, Reached session origin rs checkpoint before p.entry rest q h s)
        (session.process before.length p) h s := by
      have staged := inv.staged
      rw [pending] at staged
      rcases staged_cases staged with done | ⟨begun, untouched⟩
      · refine sat_process_finished ⟨inv, checkpoint_eq, pending, rfl, ?_⟩
        intro q member
        rcases List.mem_append.mp member with old | new
        · exact finished q old
        · cases List.mem_singleton.mp new
          exact done
      · exact sat_process_working ⟨inv, checkpoint_eq, pending, finished, begun, untouched⟩
    unfold processFrom processOne
    rw [sat_bind, sat_bind]
    refine one.mono ?_
    rintro h s (e | ⟨⟩) after
    · exact after
    obtain ⟨q, reached⟩ := after
    refine Sat.peek_bind ?_
    rw [sat_raiseIf]
    refine ⟨fun _ => reached.inv, fun onTime => ?_⟩
    have split : s.pending = (before ++ [q]) ++ rest := by simp [reached.pending]
    have length : before.length + 1 = (before ++ [q]).length := by simp
    have moved := ih (before ++ [q]) reached.inv reached.checkpoint_eq split
      reached.finished (by
        intro _ last found
        have same : last = q.entry := by simpa using found.symm
        simpa [same, reached.entry_eq] using onTime)
    simp only [Post.before, length]
    simpa [reached.entry_eq] using moved

theorem Inv.raised (inv : Inv session origin h rs s) (e : Exc) :
    Inv session origin h (rs ++ [.error e]) s :=
  { inv with
    sequences := by
      simp only [processed, List.flatMap_append, List.flatMap_cons, List.flatMap_nil,
        List.append_nil]
      exact inv.sequences }

/-- With nothing pending and nothing left, only an empty fixture is not complete. -/
theorem entries_nil_of_taken {cp : OfflineReplayCheckpoint} {i : ℕ} (cursor : session.Cursor cp i)
    (unfinished : cp.complete = false) (taken : session.entries[i]? = none) :
    session.entries = [] := by
  by_contra filled
  have finished : i = session.entries.length :=
    Nat.le_antisymm cursor.index_le (List.getElem?_eq_none_iff.mp taken)
  have complete := (cursor.complete_iff filled).mpr finished
  rw [unfinished] at complete
  cases complete

/-- The last entry of a group stands right before the next one. -/
theorem groupAt_last {i : ℕ} {last : ReplayEntry}
    (found : (session.groupAt i).getLast? = some last) :
    ∃ j, i + (session.groupAt i).length = j + 1 ∧ i ≤ j ∧ session.entries[j]? = some last := by
  have positive : 0 < (session.groupAt i).length := by
    cases group : session.groupAt i with
    | nil => simp [group] at found
    | cons first rest => simp
  refine ⟨i + ((session.groupAt i).length - 1), by omega, by omega, ?_⟩
  rw [List.getLast?_eq_getElem?, session.groupAt_eq_take, List.getElem?_take] at found
  rw [← session.groupAt_eq_take, if_pos (by omega), List.getElem?_drop] at found
  exact found

theorem Inv.grouped (inv : Inv session origin h rs s) (some_pending : s.pending ≠ []) :
    s.pending.map PendingRecord.entry = session.groupAt s.nextIndex :=
  inv.group.resolve_left some_pending

/-- Where the pending group ends, a checkpoint can stand. -/
theorem candidate_cursor (cursor : session.Cursor s.checkpoint s.nextIndex)
    (incomplete : s.checkpoint.complete = false)
    (grouped : s.pending ≠ [] →
      s.pending.map PendingRecord.entry = session.groupAt s.nextIndex)
    (clock : ∀ last, s.pending.getLast? = some last → s.clock = last.entry.availableAt)
    (taken : s.pending = [] → session.entries[s.nextIndex]? = none) :
    session.Cursor (session.candidate s) (s.nextIndex + s.pending.length) ∧
      (session.entries ≠ [] → Precedes s.checkpoint (session.candidate s)) := by
  have identity : mismatch (session.candidate s) (session.cfg.initial 0) = none := cursor.identity
  cases some_pending : s.pending with
  | nil =>
    have empty := entries_nil_of_taken cursor incomplete (taken some_pending)
    have start : s.nextIndex = 0 := by
      have bound := cursor.index_le
      rw [empty] at bound
      exact Nat.le_zero.mp bound
    have unstarted : s.checkpoint.lastSequence = none := by
      cases place : s.checkpoint.lastSequence with
      | none => rfl
      | some sequence =>
        obtain ⟨j, last, -, there, -⟩ := cursor.started sequence place
        simp [empty] at there
    have still : (session.candidate s).lastSequence = none := by
      simp [candidate, some_pending, unstarted]
    refine ⟨⟨identity, by simp [start], ?_, ?_⟩, fun filled => absurd empty filled⟩
    · exact fun _ => ⟨by simp [start], fun _ => empty, by simp [empty]⟩
    · intro sequence found
      rw [still] at found
      cases found
  | cons p rest =>
    have filled : s.pending ≠ [] := by simp [some_pending]
    have grouped := grouped filled
    have length : (session.groupAt s.nextIndex).length = s.pending.length := by
      rw [← grouped, List.length_map]
    obtain ⟨lastPending, lastFound⟩ : ∃ last, s.pending.getLast? = some last := by
      cases found : s.pending.getLast? with
      | none => exact absurd (List.getLast?_eq_none_iff.mp found) filled
      | some last => exact ⟨last, rfl⟩
    have lastEntry : (session.groupAt s.nextIndex).getLast? = some lastPending.entry := by
      rw [← grouped, List.getLast?_map, lastFound]
      rfl
    obtain ⟨j, index, within, there⟩ := groupAt_last lastEntry
    have sequence : (session.candidate s).lastSequence = some lastPending.entry.sequence := by
      simp [candidate, lastFound]
    have time : (session.candidate s).replayTime = lastPending.entry.availableAt :=
      clock _ lastFound
    rw [← some_pending, ← length]
    refine ⟨⟨identity, ?_, by simp [sequence], ?_⟩, ?_⟩
    · obtain ⟨bound, -⟩ := List.getElem?_eq_some_iff.mp there
      omega
    · intro sequence' found
      cases sequence.symm.trans found
      refine ⟨j, lastPending.entry, index, there, rfl, time, ?_, by simp [candidate, length]⟩
      intro next after
      cases start : session.entries[s.nextIndex]? with
      | none => simp [groupAt, start] at lastEntry
      | some first =>
        rw [session.groupAt_availableAt start (List.mem_of_getLast? lastEntry)]
        exact session.groupAt_end start after
    · intro _
      refine ⟨_, sequence, ?_⟩
      intro x before
      obtain ⟨k, previous, follows, there', rfl, -⟩ := cursor.started x before
      obtain ⟨bound, here⟩ := List.getElem?_eq_some_iff.mp there
      obtain ⟨bound', here'⟩ := List.getElem?_eq_some_iff.mp there'
      have ordered := List.pairwise_iff_getElem.mp session.entries_sequence k j bound' bound
        (by omega)
      rwa [here, here'] at ordered

/-- Where a finished group ends, a checkpoint can stand. -/
theorem GroupDone.cursor {group : List ReplayEntry}
    (done : GroupDone session origin rs checkpoint group h s)
    (unfinished : checkpoint.complete = false)
    (taken : s.pending = [] → session.entries[s.nextIndex]? = none) :
    session.Cursor (session.candidate s) (s.nextIndex + s.pending.length) ∧
      (session.entries ≠ [] → Precedes s.checkpoint (session.candidate s)) := by
  apply candidate_cursor done.inv.cursor (done.checkpoint_eq ▸ unfinished) done.inv.grouped
  · intro last found
    exact done.clock _ (by rw [← done.entries, List.getLast?_map, found]; rfl)
  · exact taken

/-- A checkpoint that stands behind the pending group is not before those emitted earlier. -/
theorem Inv.emitted_next (inv : Inv session origin h rs s) {cp : OfflineReplayCheckpoint} {i : ℕ}
    (here : i = s.nextIndex + s.pending.length) (cursor : session.Cursor cp i)
    (placed : session.entries ≠ [] → ∃ sequence, cp.lastSequence = some sequence) :
    (emitted h ++ [cp]).Pairwise NotAfter := by
  refine List.pairwise_append.mpr ⟨inv.emitted_ascending, List.pairwise_singleton _ _, ?_⟩
  intro earlier member new single
  cases List.mem_singleton.mp single
  obtain ⟨j, stands, before, -⟩ := inv.emitted_cursor earlier member
  exact stands.notAfter cursor (here ▸ before) placed

/-- A checkpoint that was passed to the sink, stored or not. -/
theorem Inv.emit (inv : Inv session origin h rs s) {cp : OfflineReplayCheckpoint} {i : ℕ}
    (here : i = s.nextIndex + s.pending.length) (cursor : session.Cursor cp i) (complete : cp.complete = decide (i = session.entries.length))
    (placed : session.entries ≠ [] → ∃ sequence, cp.lastSequence = some sequence) (e : Exc) :
    Inv session origin (h ++ [⟨.saveCheckpoint cp, .error e⟩]) rs s := by
  have logs : appendedSnapshots (h ++ [⟨.saveCheckpoint cp, .error e⟩]) = appendedSnapshots h ∧
      appendedEvents (h ++ [⟨.saveCheckpoint cp, .error e⟩]) = appendedEvents h ∧
      consumedIn (h ++ [⟨.saveCheckpoint cp, .error e⟩]) = consumedIn h ∧
      stored (h ++ [⟨.saveCheckpoint cp, .error e⟩]) = stored h ∧
      emitted (h ++ [⟨.saveCheckpoint cp, .error e⟩]) = emitted h ++ [cp] := by
    simp [appendedSnapshots, appendedEvents, consumedIn, stored, emitted]
  obtain ⟨snapshots, events, consumed, storedSame, added⟩ := logs
  exact
    { inv with
      snapshots := snapshots ▸ inv.snapshots
      events := events ▸ inv.events
      consumed_nodup := consumed ▸ inv.consumed_nodup
      consumed_known := consumed ▸ inv.consumed_known
      ascending := storedSame ▸ inv.ascending
      stored_before := storedSame ▸ inv.stored_before
      stored_empty := storedSame ▸ inv.stored_empty
      emitted_cursor := by
        intro cp' member
        rw [added] at member
        rcases List.mem_append.mp member with old | new
        · exact inv.emitted_cursor cp' old
        · cases List.mem_singleton.mp new
          exact ⟨i, cursor, here.le, complete, placed⟩
      emitted_ascending := added ▸ inv.emitted_next here cursor placed }

theorem flagged_finished {consumed : List UUID} {ps : List PendingRecord}
    {flag : PendingRecord → Bool} (finished : ∀ p ∈ ps, Finished consumed p)
    (set_ : ∀ p, Finished consumed p → flag p = true) :
    flagged flag ps = ps.map PendingRecord.entry := by
  rw [flagged, List.filter_eq_self.mpr fun p member => set_ p (finished p member)]

/-- Once its checkpoint is stored, the session has moved past the group. -/
theorem Inv.commit {group : List ReplayEntry}
    (done : GroupDone session origin rs checkpoint group h s)
    (unfinished : checkpoint.complete = false)
    (taken : s.pending = [] → session.entries[s.nextIndex]? = none) {cp : OfflineReplayCheckpoint}
    (candidate : session.candidate s = cp) (still : Undisturbed s s') :
    Inv session origin (h ++ [⟨.saveCheckpoint cp, .ok ()⟩]) (rs ++ [.ok (result s'.pending cp)])
      { s' with
        checkpoint := cp
        nextIndex := s'.nextIndex + s'.pending.length
        pending := [] } := by
  have inv := done.inv
  obtain ⟨cursor, precedes⟩ := done.cursor unfinished taken
  rw [candidate] at cursor precedes
  have complete : cp.complete = decide (s.nextIndex + s.pending.length = session.entries.length) := by
    rw [← candidate]
    rfl
  have logs : appendedSnapshots (h ++ [⟨.saveCheckpoint cp, .ok ()⟩]) = appendedSnapshots h ∧
      appendedEvents (h ++ [⟨.saveCheckpoint cp, .ok ()⟩]) = appendedEvents h ∧
      consumedIn (h ++ [⟨.saveCheckpoint cp, .ok ()⟩]) = consumedIn h ∧
      stored (h ++ [⟨.saveCheckpoint cp, .ok ()⟩]) = stored h ++ [cp] ∧
      emitted (h ++ [⟨.saveCheckpoint cp, .ok ()⟩]) = emitted h ++ [cp] := by
    simp [appendedSnapshots, appendedEvents, consumedIn, stored, emitted]
  obtain ⟨snapshots, events, consumed, storedMore, emittedMore⟩ := logs
  -- the processed part grows by exactly the pending group
  have grown : (session.entries.take (s.nextIndex + s.pending.length)).drop origin.nextIndex =
      (session.entries.take s.nextIndex).drop origin.nextIndex ++
        s.pending.map PendingRecord.entry := by
    rcases inv.group with none_pending | grouped
    · simp [none_pending]
    · have length : s.pending.length = (session.groupAt s.nextIndex).length := by
        rw [← grouped, List.length_map]
      have bound : origin.nextIndex ≤ (session.entries.take s.nextIndex).length := by
        rw [List.length_take]
        exact le_min inv.index_le (inv.index_le.trans inv.cursor.index_le)
      rw [length, session.take_groupAt, List.drop_append_of_le_length bound, grouped]
  have empty_sequence : session.entries = [] → stored h = [] := by
    intro empty
    by_contra earlier
    have complete := inv.stored_empty empty earlier
    rw [done.checkpoint_eq, unfinished] at complete
    cases complete
  have placed : session.entries ≠ [] → ∃ sequence, cp.lastSequence = some sequence := by
    intro filled
    obtain ⟨sequence, there, -⟩ := precedes filled
    exact ⟨sequence, there⟩
  simp only [still.nextIndex, still.pending, still.consumedQuotes]
  exact
    { index_le := inv.index_le.trans (Nat.le_add_right _ _)
      cursor
      group := Or.inl rfl
      staged := ⟨[], [], rfl, by simp, by simp⟩
      snapshots := by
        rw [snapshots, inv.snapshots, grown, flagged_finished done.finished fun _ f => f.snapshot]
        simp [flagged]
      events := by
        rw [events, inv.events, grown, flagged_finished done.finished fun _ f => f.event]
        simp [flagged]
      sequences := by
        rw [grown, List.map_append, ← inv.sequences]
        simp [processed, result, Function.comp_def]
      consumed_nodup := consumed ▸ inv.consumed_nodup
      consumed_known := consumed ▸ inv.consumed_known
      origin_known := inv.origin_known
      ascending := by
        rw [storedMore, List.pairwise_append]
        refine ⟨inv.ascending, List.pairwise_singleton _ _, ?_⟩
        intro earlier member new single
        cases List.mem_singleton.mp single
        by_cases filled : session.entries = []
        · rw [empty_sequence filled] at member
          cases member
        · obtain ⟨y, sequence, larger⟩ := precedes filled
          refine ⟨y, sequence, fun x before => ?_⟩
          rcases inv.stored_before filled earlier member with same | ⟨z, there, smaller⟩
          · exact larger x (same ▸ before)
          · exact (smaller x before).trans (larger z there)
      stored_before := by
        intro filled earlier member
        rw [storedMore] at member
        rcases List.mem_append.mp member with old | new
        · right
          obtain ⟨y, sequence, larger⟩ := precedes filled
          refine ⟨y, sequence, fun x before => ?_⟩
          rcases inv.stored_before filled earlier old with same | ⟨z, there, smaller⟩
          · exact larger x (same ▸ before)
          · exact (smaller x before).trans (larger z there)
        · cases List.mem_singleton.mp new
          exact Or.inl rfl
      stored_empty := by
        intro empty _
        have bound := cursor.index_le
        simp only [complete, decide_eq_true_eq]
        rw [empty] at bound ⊢
        exact Nat.le_zero.mp bound
      emitted_cursor := by
        intro cp' member
        rw [emittedMore] at member
        rcases List.mem_append.mp member with old | new
        · exact inv.emitted_cursor cp' old
        · cases List.mem_singleton.mp new
          exact ⟨_, cursor, le_refl _, complete, placed⟩
      emitted_ascending := emittedMore ▸ inv.emitted_next rfl cursor placed }

/-- Taking up the next group. -/
theorem Inv.takeUp (inv : Inv session origin h rs s) (idle : s.pending = []) (next : ReplayEntry) :
    Inv session origin h rs { s with
      clock := next.availableAt
      pending := (session.groupAt s.nextIndex).map fun entry =>
        { entry, event := session.cfg.event entry } } := by
  have none_flagged : ∀ flag : PendingRecord → Bool,
      (∀ entry event, flag { entry, event } = false) →
      flagged flag ((session.groupAt s.nextIndex).map fun entry =>
        { entry, event := session.cfg.event entry }) = [] := by
    intro flag unset
    rw [flagged, List.filter_eq_nil_iff.mpr, List.map_nil]
    intro p member
    obtain ⟨entry, -, rfl⟩ := List.mem_map.mp member
    simp [unset]
  exact
    { inv with
      group := by simp [Function.comp_def]
      staged := by
        refine ⟨[], _, rfl, by simp, ?_⟩
        intro p later split
        have untouched : ∀ q ∈ p :: later, Untouched q := by
          intro q member
          rw [← split] at member
          obtain ⟨entry, -, rfl⟩ := List.mem_map.mp member
          exact ⟨rfl, rfl⟩
        refine ⟨?_, fun q member => untouched q (List.mem_cons_of_mem _ member)⟩
        simp [(untouched p (by simp)).2]
      snapshots := by
        rw [none_flagged _ fun _ _ => rfl, inv.snapshots, idle]
        rfl
      events := by
        rw [none_flagged _ fun _ _ => rfl, inv.events, idle]
        rfl
      emitted_cursor := by
        intro cp member
        obtain ⟨i, cursor, before, found⟩ := inv.emitted_cursor cp member
        rw [idle, List.length_nil] at before
        exact ⟨i, cursor, before.trans (Nat.le_add_right _ _), found⟩ }

/-- The step is about to work on a group, unless the fixture is empty. -/
structure Loaded (session : OfflineReplaySession) (origin : ReplayState W)
    (rs : List (Except Exc OfflineReplayStep)) (checkpoint : OfflineReplayCheckpoint)
    (h : List (Done Exc ReplayAns)) (s : ReplayState W) : Prop where
  inv : Inv session origin h rs s
  checkpoint_eq : s.checkpoint = checkpoint
  taken : s.pending = [] → session.entries = []

theorem sat_takeUp (inv : Inv session origin h rs s) (unfinished : s.checkpoint.complete = false) :
    Sat (calling session origin rs)
      (Leaves session origin rs (Loaded session origin rs s.checkpoint)) session.takeUp h s := by
  unfold takeUp
  refine Sat.peek_bind ?_
  dsimp only [id]
  split
  next next idle start =>
    refine Sat.raiseIf_bind (fun _ => inv) fun _ => ?_
    refine ⟨inv.takeUp idle next, rfl, ?_⟩
    intro none_taken
    exact absurd (List.map_eq_nil_iff.mp none_taken) (session.groupAt_ne_nil start)
  next other =>
    refine ⟨inv, rfl, fun idle => entries_nil_of_taken inv.cursor unfinished ?_⟩
    cases start : session.entries[s.nextIndex]? with
    | none => rfl
    | some next => exact absurd start (other next idle)

theorem sat_commit {group : List ReplayEntry}
    (done : GroupDone session origin rs checkpoint group h s)
    (unfinished : checkpoint.complete = false) (taken : s.pending = [] → session.entries = []) :
    Sat (calling session origin rs) (fun h s r => Inv session origin h (rs ++ [r]) s)
      session.commit h s := by
  have nothing : s.pending = [] → session.entries[s.nextIndex]? = none := by
    intro idle
    simp [taken idle]
  unfold commit
  refine Sat.peek_bind (Sat.call_bind done.inv ?_ ?_)
  · intro e s' still
    obtain ⟨cursor, precedes⟩ := done.cursor unfinished nothing
    have placed : session.entries ≠ [] →
        ∃ sequence, (session.candidate s).lastSequence = some sequence := by
      intro filled
      obtain ⟨sequence, placed, -⟩ := precedes filled
      exact ⟨sequence, placed⟩
    exact ((done.inv.emit rfl cursor rfl placed e).undisturbed still).raised e
  · intro _ s' still
    exact Inv.commit done unfinished nothing rfl still

theorem sat_work (inv : Inv session origin h rs s) (unfinished : s.checkpoint.complete = false) :
    Sat (calling session origin rs) (fun h s r => Inv session origin h (rs ++ [r]) s)
      session.work h s := by
  unfold work
  rw [sat_bind]
  refine (sat_takeUp inv unfinished).mono ?_
  rintro h s (e | ⟨⟩) loaded
  · exact Inv.raised loaded e
  refine Sat.peek_bind (Sat.raiseIf_bind (fun _ => loaded.inv.raised _) fun _ => ?_)
  rw [sat_bind]
  have processing := sat_processFrom [] s.pending loaded.inv loaded.checkpoint_eq rfl (by simp)
    (by simp)
  refine processing.mono ?_
  rintro h' s' (e | ⟨⟩) done
  · exact Inv.raised done e
  refine sat_commit done unfinished fun idle => loaded.taken ?_
  have entries := done.entries
  rw [idle] at entries
  simpa using entries.symm

/-- One call of `step` keeps the invariant, however it ends. -/
theorem sat_step (inv : Inv session origin h rs s) :
    Sat (calling session origin rs) (fun h s r => Inv session origin h (rs ++ [r]) s)
      session.step h s := by
  unfold step
  refine Sat.peek_bind ?_
  split
  · exact
      { inv with
        sequences := by
          rw [← inv.sequences]
          simp [processed, result] }
  next unfinished => exact sat_work inv (by simpa using unfinished)

theorem inv_origin {now : Time} {saved : OfflineReplayCheckpoint} {world : W}
    (restored : Restored session now saved world origin) : Inv session origin [] [] origin := by
  have checkpoint : origin.checkpoint = saved := by rw [restored.frame]
  have pending : origin.pending = [] := by rw [restored.frame]
  exact
    { index_le := le_refl _
      cursor := checkpoint ▸ restored.cursor
      group := Or.inl pending
      staged := ⟨[], [], by simp [pending], by simp, by simp⟩
      snapshots := by simp [appendedSnapshots, flagged, pending]
      events := by simp [appendedEvents, flagged, pending]
      sequences := by simp [processed]
      consumed_nodup := List.nodup_nil
      consumed_known := by simp [consumedIn]
      origin_known := List.Subset.refl _
      ascending := List.Pairwise.nil
      stored_before := by simp [stored]
      stored_empty := by simp [stored]
      emitted_cursor := by simp [emitted]
      emitted_ascending := by simp [emitted] }

theorem attempts_sound {now : Time} {saved : OfflineReplayCheckpoint} {world : W}
    (restored : Restored session now saved world origin) :
    Attempts.Sound anyAnswer Undisturbed session.step origin
      (Inv session origin) (fun rs h _ s => Inv session origin h rs s) where
  start := inv_origin restored
  idle := fun inv still => inv.undisturbed still
  attempt := sat_step

end Steps

/-! ### Every run of a session -/

/-- What a session has done at some moment of a run, and what its checkpoints are good for. -/
structure CursorCorrect (session : OfflineReplaySession) (origin : ReplayState W)
    (h : List (Done Exc ReplayAns)) (rs : List (Except Exc OfflineReplayStep))
    (s : ReplayState W) : Prop where
  /-- The session replays the fixture's records in the order of their sequence. -/
  records : session.entries.map ReplayEntry.record = session.cfg.fixture.ordered
  ascending : session.entries.Pairwise fun a b => a.sequence < b.sequence
  /-- The steps that returned processed the records up to the cursor, one after the other. -/
  sequences : processed rs =
    ((session.entries.take s.nextIndex).drop origin.nextIndex).map ReplayEntry.sequence
  /-- Snapshots were appended once for each of these records, in order, and for no other
  records than the next ones. -/
  snapshots : (session.entries.take s.nextIndex).drop origin.nextIndex <+: appendedSnapshots h ∧
    appendedSnapshots h <+: session.entries.drop origin.nextIndex
  events : (session.entries.take s.nextIndex).drop origin.nextIndex <+: appendedEvents h ∧
    appendedEvents h <+: session.entries.drop origin.nextIndex
  /-- No quote was consumed twice, nor one that a restored session knew already. -/
  quotes : (consumedIn h).Nodup ∧ ∀ id ∈ consumedIn h, id ∉ origin.consumedQuotes
  /-- A checkpoint is emitted again where it was not stored. -/
  cursors : (emitted h).Pairwise NotAfter ∧ (stored h).Pairwise Precedes
  complete : session.entries ≠ [] →
    (s.checkpoint.complete = true ↔ s.nextIndex = session.entries.length)
  /-- Every checkpoint ends a group, is complete exactly at the end of the fixture, and is
  taken up by a new session at any time before the next group. -/
  checkpoints : ∀ cp ∈ emitted h, ∃ i, session.Cursor cp i ∧
    (cp.complete = true ↔ i = session.entries.length) ∧
    (session.entries ≠ [] → ∃ sequence, cp.lastSequence = some sequence) ∧
    ∀ (clock : Time) (world : W), cp.replayTime ≤ clock →
      (cp.complete = true → clock = cp.replayTime) →
      (∀ next, session.entries[i]? = some next → clock ≤ next.availableAt) →
      ∃ s', session.cfg.create clock (some cp) world = .ok (session, s') ∧ s'.nextIndex = i

theorem create_eq (session : OfflineReplaySession) (now : Time)
    (checkpoint : Option OfflineReplayCheckpoint) (world : W) :
    session.cfg.create now checkpoint world =
      (session.restore now (checkpoint.getD (session.cfg.initial now)) world).map
        (session, ·) := by
  obtain ⟨cfg, entries, prepared⟩ := session
  unfold ReplayConfig.create
  split
  next e failed => cases failed.symm.trans prepared
  next found again =>
    cases again.symm.trans prepared
    rfl

/-- The session that the constructor returns, and the state it starts in. -/
theorem created_restored {cfg : ReplayConfig} {now : Time}
    {checkpoint : Option OfflineReplayCheckpoint} {world : W} {origin : ReplayState W}
    (created : cfg.create now checkpoint world = .ok (session, origin)) :
    session.cfg = cfg ∧
      Restored session now (checkpoint.getD (cfg.initial now)) world origin := by
  have config : session.cfg = cfg := by
    unfold ReplayConfig.create at created
    split at created
    · cases created
    next entries prepared =>
      dsimp only at created
      cases restored : OfflineReplaySession.restore ⟨cfg, entries, prepared⟩ now
        (checkpoint.getD (cfg.initial now)) world with
      | error e => simp [restored, Except.map] at created
      | ok s =>
        simp only [restored, Except.map, Except.ok.injEq, Prod.mk.injEq] at created
        rw [← created.1]
  subst config
  refine ⟨rfl, ?_⟩
  rw [create_eq] at created
  cases restored : session.restore now (checkpoint.getD (session.cfg.initial now)) world with
  | error e => simp [restored, Except.map] at created
  | ok s =>
    simp only [restored, Except.map, Except.ok.injEq, Prod.mk.injEq, true_and] at created
    exact created ▸ restored_of_restore restored

theorem Inv.correct {origin s : ReplayState W} {h : List (Done Exc ReplayAns)}
    {rs : List (Except Exc OfflineReplayStep)} (inv : Inv session origin h rs s) :
    CursorCorrect session origin h rs s := by
  -- what is flagged of the pending group continues the processed part
  have continued : ∀ flag : PendingRecord → Bool,
      flagged flag s.pending <+: s.pending.map PendingRecord.entry →
      (session.entries.take s.nextIndex).drop origin.nextIndex ++ flagged flag s.pending <+:
        session.entries.drop origin.nextIndex := by
    intro flag first
    have bound : origin.nextIndex ≤ (session.entries.take s.nextIndex).length := by
      rw [List.length_take]
      exact le_min inv.index_le (inv.index_le.trans inv.cursor.index_le)
    have within : s.pending.map PendingRecord.entry <+: session.entries.drop s.nextIndex := by
      rcases inv.group with idle | grouped
      · simp [idle]
      · exact grouped ▸ session.groupAt_front s.nextIndex
    have whole : session.entries.drop origin.nextIndex =
        (session.entries.take s.nextIndex).drop origin.nextIndex ++
          session.entries.drop s.nextIndex := by
      rw [← List.drop_append_of_le_length bound, List.take_append_drop]
    rw [whole]
    exact (List.prefix_append_right_inj _).mpr (first.trans within)
  exact
    { records := session.entries_records
      ascending := session.entries_sequence
      sequences := inv.sequences
      snapshots := by
        rw [inv.snapshots]
        exact ⟨List.prefix_append _ _, continued _ (flagged_front inv.staged
          (fun _ done => done.snapshot) fun _ fresh => fresh.1)⟩
      events := by
        rw [inv.events]
        exact ⟨List.prefix_append _ _, continued _ (flagged_front inv.staged
          (fun _ done => done.event) fun _ fresh => fresh.2)⟩
      quotes := ⟨inv.consumed_nodup, fun id member => (inv.consumed_known id member).2⟩
      cursors := ⟨inv.emitted_ascending, inv.ascending⟩
      complete := fun filled => inv.cursor.complete_iff filled
      checkpoints := by
        intro cp member
        obtain ⟨i, cursor, -, complete, placed⟩ := inv.emitted_cursor cp member
        refine ⟨i, cursor, by simp [complete], placed, ?_⟩
        intro clock world timely still ahead
        obtain ⟨s', restored, index⟩ := restored_of_cursor cursor timely still ahead world
        exact ⟨s', by rw [create_eq, Option.getD_some, restored]; rfl, index⟩ }

/-- However often `step` is called and whichever calls it makes fail, the session processes
the fixture's records in order and exactly once, and its checkpoints can be resumed from. -/
theorem replay_cursor {cfg : ReplayConfig} {now : Time}
    {checkpoint : Option OfflineReplayCheckpoint} {world : W} {origin : ReplayState W}
    (created : cfg.create now checkpoint world = .ok (session, origin))
    {h : List (Done Exc ReplayAns)} {waiting : Option ReplayOp}
    {rs : List (Except Exc OfflineReplayStep)} {s : ReplayState W}
    (moment : Moment anyAnswer Undisturbed session.step origin h waiting rs s) :
    session.cfg = cfg ∧ CursorCorrect session origin h rs s := by
  obtain ⟨config, restored⟩ := created_restored created
  have holds := moment.sound (attempts_sound restored)
  refine ⟨config, ?_⟩
  cases waiting with
  | none => exact Inv.correct holds
  | some op => exact Inv.correct holds

end OfflineReplaySession
namespace ReplaySample

open OfflineReplaySession

/-- The day's opening brings two quotes, and the minute after it a third. -/
def observations : List ReplayRecord :=
  [observation 0 0 identifier "ACME", observation 1 0 [] "ACME", observation 2 60 [] "ACME"]

theorem observations_sequences : (observations.map ReplayRecord.sequence).Nodup := by
  simp [observations, observation]

theorem observations_order : (ReplayRecord.inSequence observations).IsChain
    fun a b => a.observedAt ≤ b.observedAt := by
  simp [observations, observation, ReplayRecord.inSequence]

/-- A session with a consumer and a handler. -/
def config : ReplayConfig where
  py :=
    { python with
      uuid := fun value => match value with
        | .str text => UUID.ofText text
        | _ => none }
  hashing :=
    { sha256Json := fun document => match document with
        | .str text => text
        | _ => ""
      uuid5 := fun _ name => ⟨name.toList.foldl (fun acc c => acc * 31 + c.toNat) 7 % 2 ^ 128⟩
      fillSeed := String.length }
  dump := fun value => .str ((value.snapshotId.map UUID.str).getD "")
  dumpFixture := fun _ => .null
  fixture :=
    { version := "fixture-v1"
      provider := "offline-replay"
      capabilityVersion := "replay-v1"
      records := observations
      sequences_unique := observations_sequences
      deterministic_order := observations_order
      version_ne := version_named
      provider_ne := provider_named
      capabilityVersion_ne := capabilityVersion_named }
  binding := ⟨.demo, some .offlineSim, false, "demo"⟩
  eventHandler := true
  quoteConsumer := true

theorem ok_of_isSome {ε α : Type} {x : Except ε α} {default : α} (found : x.toOption.isSome = true) :
    x = .ok (x.toOption.getD default) := by
  cases x with
  | error e => cases found
  | ok a => rfl

def worker : OfflineReplaySession where
  cfg := config
  entries := config.prepare.toOption.getD []
  prepared := ok_of_isSome (by decide +kernel)

/-- A second before the observation. -/
def early : Time := (opening - 1) * 1000000

def atStart : ReplayState Unit :=
  (worker.restore early (config.initial early) ()).toOption.getD
    { clock := 0, checkpoint := config.initial 0, world := () }

/-- Callbacks that work, but for those that fail. -/
def callbacks (failing : ReplayOp → Bool) : Handler (ReplayState Unit) Exc ReplayAns
  | .appendSnapshot value, s => (if failing (.appendSnapshot value) then .error .timeout else .ok (), s)
  | .appendEvent event, s => (if failing (.appendEvent event) then .error .timeout else .ok (), s)
  | .consumeQuote quote, s => (if failing (.consumeQuote quote) then .error .timeout else .ok (), s)
  | .receive, s =>
    match s.bus with
    | [] => (.error .cancelled, s)
    | event :: rest => (.ok event, { s with bus := rest })
  | .handleEvent event, s => (if failing (.handleEvent event) then .error .timeout else .ok (), s)
  | .saveCheckpoint checkpoint, s =>
    (if failing (.saveCheckpoint checkpoint) then .error .timeout else .ok (), s)

theorem callbacks_undisturbed (failing : ReplayOp → Bool) (op : ReplayOp) (s : ReplayState Unit) :
    anyAnswer op s (callbacks failing op s).1 (callbacks failing op s).2 := by
  unfold anyAnswer
  cases op with
  | receive =>
    simp only [callbacks]
    split <;> exact ⟨rfl, rfl, rfl, rfl, rfl, le_refl _⟩
  | _ => exact ⟨rfl, rfl, rfl, rfl, rfl, le_refl _⟩

def isQuote : ReplayOp → Bool
  | .consumeQuote _ => true
  | _ => false

def isCheckpoint : ReplayOp → Bool
  | .saveCheckpoint _ => true
  | _ => false

/-- The first step fails at a quote and the second at its checkpoint; the others return. -/
def handlers : List (Handler (ReplayState Unit) Exc ReplayAns) :=
  [callbacks isQuote, callbacks isCheckpoint, callbacks fun _ => false, callbacks fun _ => false]

theorem handlers_undisturbed : ∀ handler ∈ handlers, ∀ op s,
    anyAnswer op s (handler op s).1 (handler op s).2 := by
  simp only [handlers, List.forall_mem_cons]
  exact ⟨callbacks_undisturbed _, callbacks_undisturbed _, callbacks_undisturbed _,
    callbacks_undisturbed _, by simp⟩

theorem worker_created : config.create early none () = .ok (worker, atStart) := by
  change worker.cfg.create early none () = _
  have restored : worker.restore early (config.initial early) () = .ok atStart :=
    ok_of_isSome (by decide +kernel)
  rw [create_eq]
  change (worker.restore early (config.initial early) ()).map (worker, ·) = _
  rw [restored]
  rfl

/-- The history of the four steps, how they ended, and the state. -/
def retried : List (Done Exc ReplayAns) × List (Except Exc OfflineReplayStep) × ReplayState Unit :=
  attemptAll worker.step handlers atStart

theorem retried_moment : Moment anyAnswer Undisturbed worker.step atStart retried.1 none
    retried.2.1 retried.2.2 :=
  .between (attempts_attemptAll handlers_undisturbed atStart)

theorem no_observations : (ReplayRecord.inSequence []).IsChain
    fun a b => a.observedAt ≤ b.observedAt := by
  simp [ReplayRecord.inSequence]

/-- A session over no records. -/
def emptyConfig : ReplayConfig :=
  { config with
    fixture :=
      { config.fixture with
        records := []
        sequences_unique := List.nodup_nil
        deterministic_order := no_observations } }

def emptyWorker : OfflineReplaySession where
  cfg := emptyConfig
  entries := emptyConfig.prepare.toOption.getD []
  prepared := ok_of_isSome (by decide +kernel)

def emptyStart : ReplayState Unit :=
  (emptyWorker.restore early (emptyConfig.initial early) ()).toOption.getD
    { clock := 0, checkpoint := emptyConfig.initial 0, world := () }

end ReplaySample

open ReplaySample OfflineReplaySession in
/-- Three records in two groups. A step fails at its first quote, the next one at its checkpoint,
and the checkpoint is emitted again. -/
theorem replay_cursor_retried :
    retried.2.1.map Sentry.raised = [some .timeout, some .timeout, none, none] ∧
      processed retried.2.1 = [0, 1, 2] ∧
      (appendedSnapshots retried.1).map ReplayEntry.sequence = [0, 1, 2] ∧
      (stored retried.1).map (fun cp => (cp.lastSequence, cp.complete)) =
        [(some 1, false), (some 2, true)] ∧
      CursorCorrect worker atStart retried.1 retried.2.1 retried.2.2 :=
  ⟨by decide +kernel, by decide +kernel, by decide +kernel, by decide +kernel,
    (replay_cursor worker_created retried_moment).2⟩

open ReplaySample OfflineReplaySession in
/-- A checkpoint whose sink failed is emitted again with the same last sequence; and a session
over no records has processed all of them before it is complete. -/
theorem replay_cursor_repeats :
    ((emitted retried.1).map (fun cp => cp.lastSequence) = [some 1, some 1, some 2] ∧
      ¬ (emitted retried.1).Pairwise Precedes) ∧
    emptyConfig.create early none () = .ok (emptyWorker, emptyStart) ∧
      emptyWorker.entries = [] ∧ emptyStart.nextIndex = 0 ∧
      emptyStart.checkpoint.complete = false := by
  have sequences : (emitted retried.1).map (fun cp => cp.lastSequence) =
      [some 1, some 1, some 2] := by decide +kernel
  refine ⟨⟨sequences, fun increasing => ?_⟩, ?_, by decide +kernel, by decide +kernel,
    by decide +kernel⟩
  · have ordered : ((emitted retried.1).map fun cp => cp.lastSequence).Pairwise
        fun a b => ∃ y, b = some y ∧ ∀ x, a = some x → x < y := List.pairwise_map.mpr increasing
    rw [sequences] at ordered
    obtain ⟨y, same, smaller⟩ := (List.pairwise_cons.mp ordered).1 (some 1) (by simp)
    cases same
    exact lt_irrefl 1 (smaller 1 rfl)
  · change emptyWorker.cfg.create early none () = _
    have restored : emptyWorker.restore early (emptyConfig.initial early) () = .ok emptyStart :=
      ok_of_isSome (by decide +kernel)
    rw [create_eq]
    change (emptyWorker.restore early (emptyConfig.initial early) ()).map (emptyWorker, ·) = _
    rw [restored]
    rfl

end Sentry
