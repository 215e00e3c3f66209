import Sentry.Sentinel.Cursor

/-!
# Replaying over working storage

A step of a session whose callbacks do not fail, apart from a quote consumer that may
refuse a quote. The consumer acts on a state of its own; `feed` is what it makes of a list
of quotes. `sat_step_calm` says what a whole step does: the quotes of the group that were
not consumed before are fed in order, the cursor moves past the group, and at every call on
the way the consumer's state is that of a first part of the list.
-/
namespace Sentry

open Support Coroutine

/-- What the callbacks of a session do to the state they share. The quote consumer may look
at the session's checkpoint. -/
structure Callbacks (W : Type) where
  consume : Time → OfflineReplayCheckpoint → OptionQuote → W → Except Exc Unit × W
  save : OfflineReplayCheckpoint → W → W

namespace Callbacks

variable {W : Type} (cb : Callbacks W)

/-- Feed quotes one after the other, as long as they are accepted. -/
def feed (now : Time) (checkpoint : OfflineReplayCheckpoint) : List OptionQuote → W → Except Exc W
  | [], w => .ok w
  | quote :: rest, w =>
    match cb.consume now checkpoint quote w with
    | (.ok _, w') => feed now checkpoint rest w'
    | (.error e, _) => .error e

/-- Storage that works, and a bus nobody else uses. -/
def handler : (op : ReplayOp) → ReplayState W → Except Exc (ReplayAns op) × ReplayState W
  | .appendSnapshot _, s => (.ok (), s)
  | .appendEvent _, s => (.ok (), s)
  | .consumeQuote quote, s =>
    ((cb.consume s.clock s.checkpoint quote s.world).1,
      { s with world := (cb.consume s.clock s.checkpoint quote s.world).2 })
  | .receive, s =>
    match s.bus with
    | [] => (.error .cancelled, s)
    | event :: rest => (.ok event, { s with bus := rest })
  | .handleEvent _, s => (.ok (), s)
  | .saveCheckpoint checkpoint, s => (.ok (), { s with world := cb.save checkpoint s.world })

theorem feed_append (now : Time) (checkpoint : OfflineReplayCheckpoint)
    (first second : List OptionQuote) (w : W) :
    cb.feed now checkpoint (first ++ second) w =
      (cb.feed now checkpoint first w).bind (cb.feed now checkpoint second) := by
  induction first generalizing w with
  | nil => rfl
  | cons quote rest ih =>
    simp only [List.cons_append, feed]
    split
    · exact ih _
    · rfl

end Callbacks

namespace OfflineReplaySession

variable {W : Type} {session : OfflineReplaySession} {cb : Callbacks W}

/-- The quotes among entries that were not consumed before. -/
def offered : List UUID → List ReplayEntry → List OptionQuote
  | _, [] => []
  | consumed, entry :: rest =>
    match entry.value.optionQuote with
    | none => offered consumed rest
    | some quote =>
      if quote.snapshotId ∈ consumed then offered consumed rest
      else quote :: offered (consumed ++ [quote.snapshotId]) rest

theorem offered_append (consumed : List UUID) (first second : List ReplayEntry) :
    offered consumed (first ++ second) = offered consumed first ++
      offered (consumed ++ (offered consumed first).map OptionQuote.snapshotId) second := by
  induction first generalizing consumed with
  | nil => simp [offered]
  | cons entry rest ih =>
    simp only [List.cons_append, offered]
    split
    · exact ih consumed
    · split
      · exact ih consumed
      · simp [ih]

theorem mem_offered {consumed : List UUID} {entries : List ReplayEntry} {quote : OptionQuote}
    (member : quote ∈ offered consumed entries) :
    quote.snapshotId ∉ consumed ∧ ∃ entry ∈ entries, entry.value = .option quote := by
  induction entries generalizing consumed with
  | nil => cases member
  | cons entry rest ih =>
    simp only [offered] at member
    split at member
    · obtain ⟨new, other, there, value⟩ := ih member
      exact ⟨new, other, List.mem_cons_of_mem _ there, value⟩
    next found quoted =>
      split at member
      · obtain ⟨new, other, there, value⟩ := ih member
        exact ⟨new, other, List.mem_cons_of_mem _ there, value⟩
      next fresh =>
        rcases List.mem_cons.mp member with rfl | later
        · refine ⟨fresh, entry, List.mem_cons_self, ?_⟩
          cases kind : entry.value with
          | option _ => simp_all [MarketObservation.optionQuote]
          | equity _ => simp [kind, MarketObservation.optionQuote] at quoted
          | bar _ => simp [kind, MarketObservation.optionQuote] at quoted
        · obtain ⟨new, other, there, value⟩ := ih later
          refine ⟨fun old => new (List.mem_append_left _ old), other,
            List.mem_cons_of_mem _ there, value⟩

/-- No snapshot is offered twice. -/
theorem offered_nodup (consumed : List UUID) (entries : List ReplayEntry) :
    ((offered consumed entries).map OptionQuote.snapshotId).Nodup := by
  induction entries generalizing consumed with
  | nil => simp [offered]
  | cons entry rest ih =>
    simp only [offered]
    split
    · exact ih consumed
    · split
      · exact ih consumed
      next quote _ _ =>
        rw [List.map_cons, List.nodup_cons]
        refine ⟨?_, ih _⟩
        intro again
        obtain ⟨other, there, same⟩ := List.mem_map.mp again
        exact (mem_offered there).1 (by simp [same])

/-! ### Inside a step -/

/-- The quotes that a step feeds which took up its group in the state `start`. -/
def fedBy (start : ReplayState W) : List OptionQuote :=
  offered start.consumedQuotes (start.pending.map PendingRecord.entry)

/-- In the middle of a group that was taken up in the state `start`: the quotes of `rest` are
still to be looked at, and `waiting` events to be published. -/
structure Midway (session : OfflineReplaySession) (cb : Callbacks W) (start : ReplayState W)
    (rest : List ReplayEntry) (waiting : ℕ) (s : ReplayState W) : Prop where
  entries : s.pending.map PendingRecord.entry = start.pending.map PendingRecord.entry
  nextIndex : s.nextIndex = start.nextIndex
  checkpoint : s.checkpoint = start.checkpoint
  clock : s.clock = start.clock
  synchronous : Synchronous s
  fed : ∃ done, fedBy start = done ++ offered s.consumedQuotes rest ∧
    s.consumedQuotes = start.consumedQuotes ++ done.map OptionQuote.snapshotId ∧
    cb.feed start.clock start.checkpoint done start.world = .ok s.world
  handled : session.cfg.eventHandler = true → s.bus = []
  room : session.cfg.eventHandler = false →
    ((s.bus.length + waiting +
      (session.entries.length - (start.nextIndex + start.pending.length)) : ℕ) : ℤ) ≤
        session.cfg.eventBusMaxsize

/-- What holds when a callback is called: a first part of the quotes was fed. -/
def Underway (session : OfflineReplaySession) (cb : Callbacks W) (start : ReplayState W)
    (op : ReplayOp) (s : ReplayState W) : Prop :=
  ∃ done left, fedBy start = done ++ left ∧
    cb.feed start.clock start.checkpoint done start.world = .ok s.world ∧
    (∀ quote, op = .consumeQuote quote → ∃ later, left = quote :: later) ∧
    (∀ checkpoint, op = .saveCheckpoint checkpoint →
      left = [] ∧ checkpoint = session.candidate start)

/-- Every callback is called like that and answers as the handler does. -/
abbrev calmly (session : OfflineReplaySession) (cb : Callbacks W) (start : ReplayState W) :
    Spec (ReplayState W) Exc ReplayAns :=
  ⟨fun _ op s => Underway session cb start op s, fun op s r s' => cb.handler op s = (r, s')⟩

/-- A part of a step ends as described, unless a quote of the group is refused. -/
def Calm {α : Type} (cb : Callbacks W) (start : ReplayState W) (P : ReplayState W → α → Prop) :
    Post (ReplayState W) Exc ReplayAns α
  | _, s, .ok a => P s a
  | _, _, .error e => cb.feed start.clock start.checkpoint (fedBy start) start.world = .error e

section Parts

variable {start s : ReplayState W} {rest : List ReplayEntry} {waiting : ℕ}
  {h : List (Done Exc ReplayAns)}

theorem Midway.underway (midway : Midway session cb start rest waiting s) {op : ReplayOp}
    (other : ∀ quote, op ≠ .consumeQuote quote) (unsaved : ∀ cp, op ≠ .saveCheckpoint cp) :
    Underway session cb start op s := by
  obtain ⟨done, split, -, fed⟩ := midway.fed
  exact ⟨done, _, split, fed, fun quote same => absurd same (other quote),
    fun cp same => absurd same (unsaved cp)⟩

/-- Flags do not matter. -/
theorem Midway.mark (midway : Midway session cb start rest waiting s) (i : ℕ)
    {f : PendingRecord → PendingRecord} (same : ∀ p, (f p).entry = p.entry) :
    Midway session cb start rest waiting { s with pending := s.pending.modify i f } := by
  have entries : (s.pending.modify i f).map PendingRecord.entry =
      s.pending.map PendingRecord.entry := by
    apply List.ext_getElem?
    intro j
    simp only [List.getElem?_map, List.getElem?_modify]
    split
    · cases s.pending[j]? <;> simp [same]
    · cases s.pending[j]? <;> rfl
  exact { midway with entries := entries.trans midway.entries }

theorem calm_mark (midway : Midway session cb start rest waiting s) (i : ℕ)
    {f : PendingRecord → PendingRecord} (same : ∀ p, (f p).entry = p.entry) :
    Sat (calmly session cb start)
      (Calm cb start fun s _ => Midway session cb start rest waiting s) (mark i f) h s :=
  midway.mark i same

theorem calm_persistSnapshot (midway : Midway session cb start rest waiting s) (i : ℕ)
    (p : PendingRecord) : Sat (calmly session cb start)
      (Calm cb start fun s _ => Midway session cb start rest waiting s)
      (session.persistSnapshot i p) h s := by
  unfold persistSnapshot
  split
  · exact midway
  · apply Sat.call_bind (midway.underway (by simp) (by simp))
    · intro e s' moved
      simp [Callbacks.handler] at moved
    · intro _ s' moved
      simp only [Callbacks.handler, Prod.mk.injEq, true_and] at moved
      subst moved
      exact calm_mark midway i fun _ => rfl

theorem calm_persistEvent (midway : Midway session cb start rest waiting s) (i : ℕ)
    (p : PendingRecord) : Sat (calmly session cb start)
      (Calm cb start fun s _ => Midway session cb start rest waiting s)
      (session.persistEvent i p) h s := by
  unfold persistEvent
  split
  · exact midway
  · apply Sat.call_bind (midway.underway (by simp) (by simp))
    · intro e s' moved
      simp [Callbacks.handler] at moved
    · intro _ s' moved
      simp only [Callbacks.handler, Prod.mk.injEq, true_and] at moved
      subst moved
      exact calm_mark midway i fun _ => rfl

/-- A record without a new quote is passed over. -/
theorem Midway.skip {entry : ReplayEntry}
    (midway : Midway session cb start (entry :: rest) waiting s)
    (known : ∀ quote, entry.value.optionQuote = some quote → quote.snapshotId ∈ s.consumedQuotes) :
    Midway session cb start rest waiting s := by
  obtain ⟨done, split, consumed, fed⟩ := midway.fed
  refine { midway with fed := ⟨done, ?_, consumed, fed⟩ }
  rw [split]
  cases quoted : entry.value.optionQuote with
  | none => simp [offered, quoted]
  | some quote => simp [offered, quoted, known quote quoted]

/-- A new quote was fed. -/
theorem Midway.consumed {entry : ReplayEntry} {quote : OptionQuote} {w : W}
    (midway : Midway session cb start (entry :: rest) waiting s)
    (quoted : entry.value.optionQuote = some quote) (new : quote.snapshotId ∉ s.consumedQuotes)
    (accepted : (cb.consume s.clock s.checkpoint quote s.world) = (.ok (), w)) :
    Midway session cb start rest waiting
      { s with world := w, consumedQuotes := s.consumedQuotes ++ [quote.snapshotId] } := by
  obtain ⟨done, split, consumed, fed⟩ := midway.fed
  refine { midway with fed := ⟨done ++ [quote], ?_, ?_, ?_⟩ }
  · simp [split, offered, quoted, new]
  · simp [consumed]
  · rw [midway.clock, midway.checkpoint] at accepted
    rw [Callbacks.feed_append, fed]
    simp [Except.bind, Callbacks.feed, accepted]

theorem Midway.refused {entry : ReplayEntry} {quote : OptionQuote} {w : W} {e : Exc}
    (midway : Midway session cb start (entry :: rest) waiting s)
    (quoted : entry.value.optionQuote = some quote) (new : quote.snapshotId ∉ s.consumedQuotes)
    (rejected : (cb.consume s.clock s.checkpoint quote s.world) = (.error e, w)) :
    cb.feed start.clock start.checkpoint (fedBy start) start.world = .error e := by
  obtain ⟨done, split, consumed, fed⟩ := midway.fed
  rw [midway.clock, midway.checkpoint] at rejected
  rw [split, Callbacks.feed_append, fed]
  simp [Except.bind, offered, quoted, new, Callbacks.feed, rejected]

theorem calm_consume {entry : ReplayEntry}
    (midway : Midway session cb start (entry :: rest) waiting s)
    (consumer : session.cfg.quoteConsumer = true) : Sat (calmly session cb start)
      (Calm cb start fun s _ => Midway session cb start rest waiting s)
      (session.consume entry.value) h s := by
  unfold consume
  split
  next none_quoted => exact midway.skip (by simp [none_quoted])
  next quote quoted =>
    apply Sat.peek_bind
    split
    next seen =>
      apply midway.skip
      intro quote' same
      cases quoted.symm.trans same
      simpa using seen
    next unseen =>
      have new : quote.snapshotId ∉ s.consumedQuotes := by simpa using unseen
      simp only [offer, consumer, if_true]
      apply Sat.call_bind
      · obtain ⟨done, split, -, fed⟩ := midway.fed
        refine ⟨done, _, split, fed, ?_, by simp⟩
        intro quote' same
        cases same
        exact ⟨_, by simp [offered, quoted, new]; rfl⟩
      · intro e s' moved
        simp only [Callbacks.handler, Prod.mk.injEq] at moved
        exact midway.refused quoted new (Prod.ext moved.1 rfl)
      · intro _ s' moved
        simp only [Callbacks.handler, Prod.mk.injEq] at moved
        obtain ⟨accepted, rfl⟩ := moved
        exact midway.consumed quoted new (Prod.ext accepted rfl)

theorem Midway.refresh (midway : Midway session cb start rest waiting s) {s' : ReplayState W}
    (synchronous : Synchronous s')
    (frame : s' = { s with freshnessTimes := s'.freshnessTimes, freshness := s'.freshness }) :
    Midway session cb start rest waiting s' := by
  rw [frame] at synchronous ⊢
  exact { midway with synchronous }

theorem calm_observeOne (midway : Midway session cb start rest waiting s) (name : String)
    (effectiveAt : Time) : Sat (calmly session cb start)
      (Calm cb start fun s _ => Midway session cb start rest waiting s)
      (observeOne name effectiveAt) h s := by
  obtain ⟨s', observed, synchronous, frame⟩ :=
    observeStream_synchronous name effectiveAt midway.synchronous
  simp only [observeOne, Sat, observed]
  exact midway.refresh synchronous frame

theorem calm_observe (midway : Midway session cb start rest waiting s)
    (value : MarketObservation) : Sat (calmly session cb start)
      (Calm cb start fun s _ => Midway session cb start rest waiting s) (observe value) h s := by
  unfold observe
  rw [sat_bind]
  apply (calm_observeOne midway "market_data" value.metadata.effectiveAt).mono
  rintro h s (e | ⟨⟩) first
  · exact first
  · exact calm_observeOne first value.stream value.metadata.effectiveAt

/-- An event that is not yet on the bus finds room there. -/
theorem Midway.free (midway : Midway session cb start rest (waiting + 1) s) :
    ¬ session.cfg.eventBusMaxsize ≤ s.bus.length := by
  have positive := session.prepared_spec.bus_pos
  cases handler : session.cfg.eventHandler with
  | true =>
    rw [midway.handled handler]
    simpa using positive
  | false =>
    have room := midway.room handler
    push_cast at room
    omega

/-- The session's own handler takes the one event off the bus again. -/
theorem calm_handle {p : PendingRecord} (bus : s.bus = [p.event])
    (midway : Midway session cb start rest waiting { s with bus := [] }) (i : ℕ)
    (handler : session.cfg.eventHandler = true) (unreceived : p.eventReceived = false) :
    Sat (calmly session cb start)
      (Calm cb start fun s _ => Midway session cb start rest waiting s)
      (session.handle i p) h s := by
  simp only [handle, handler, takeBack, unreceived, Bool.false_eq_true, if_true, if_false]
  rw [sat_bind]
  apply Sat.call_bind
  · exact midway.underway (by simp) (by simp)
  · intro e s' moved
    simp [Callbacks.handler, bus] at moved
  intro received s' moved
  simp only [Callbacks.handler, bus, Prod.mk.injEq, Except.ok.injEq] at moved
  obtain ⟨rfl, rfl⟩ := moved
  apply Sat.raiseIf_bind
  · intro other
    simp at other
  intro _
  have marked := midway.mark i (f := fun p => { p with eventReceived := true }) fun _ => rfl
  -- the handler itself changes nothing
  apply (sat_call _ _).mpr
  refine ⟨marked.underway (by simp) (by simp), ?_⟩
  intro r s' moved
  simp only [Callbacks.handler, Prod.mk.injEq] at moved
  obtain ⟨rfl, rfl⟩ := moved
  exact marked

/-- Nothing of a record's event was done. -/
def Unsent (p : PendingRecord) : Prop :=
  p.eventEnqueued = false ∧ p.eventReceived = false ∧ p.eventDispatched = false

theorem calm_dispatch (midway : Midway session cb start rest (waiting + 1) s) (i : ℕ)
    {p : PendingRecord} (unsent : Unsent p) : Sat (calmly session cb start)
      (Calm cb start fun s _ => Midway session cb start rest waiting s)
      (session.dispatch i p) h s := by
  obtain ⟨enqueued, received, dispatched⟩ := unsent
  simp only [dispatch, dispatched, enqueue, enqueued, publish, Bool.false_eq_true, if_false]
  rw [sat_bind, sat_bind]
  apply Sat.peek_bind
  apply Sat.raiseIf_bind
  · intro full
    exact absurd (of_decide_eq_true full) midway.free
  intro _
  apply Sat.change_bind
  have marked := midway.mark i (f := fun p => { p with eventEnqueued := true }) fun _ => rfl
  change Sat _ _ (session.handle i p >>= fun _ => mark i _) h _
  rw [sat_bind]
  cases handler : session.cfg.eventHandler with
  | true =>
    have empty := midway.handled handler
    -- the bus held nothing, so the event that comes back is the one just published
    have taken : Midway session cb start rest waiting
        { s with pending := s.pending.modify i fun p => { p with eventEnqueued := true }, bus := [] } :=
      { marked with handled := fun _ => rfl, room := by simp [handler] }
    apply (calm_handle (p := p) (by simp [empty]) taken i handler received).mono
    rintro h s (e | ⟨⟩) after
    · exact after
    · exact calm_mark after i fun _ => rfl
  | false =>
    simp only [handle, handler, Bool.false_eq_true, if_false]
    have published : Midway session cb start rest waiting
        { s with
          pending := s.pending.modify i fun p => { p with eventEnqueued := true }
          bus := s.bus ++ [p.event] } :=
      { marked with
        handled := by simp [handler]
        room := by
          intro _
          have room := midway.room handler
          simp only [List.length_append, List.length_singleton]
          omega }
    exact calm_mark (h := h) published i fun _ => rfl

theorem calm_processOne {p : PendingRecord}
    (midway : Midway session cb start (p.entry :: rest) (waiting + 1) s) (i : ℕ)
    (consumer : session.cfg.quoteConsumer = true) (unsent : Unsent p)
    (timely : p.entry.availableAt = start.clock) : Sat (calmly session cb start)
      (Calm cb start fun s _ => Midway session cb start rest waiting s)
      (session.processOne i p) h s := by
  simp only [processOne, process]
  rw [sat_bind, sat_bind]
  apply (calm_persistSnapshot midway i p).mono
  rintro h s (e | ⟨⟩) midway
  · exact midway
  rw [Post.before, sat_bind]
  apply (calm_persistEvent midway i p).mono
  rintro h s (e | ⟨⟩) midway
  · exact midway
  rw [Post.before, sat_bind]
  apply (calm_consume midway consumer).mono
  rintro h s (e | ⟨⟩) midway
  · exact midway
  rw [Post.before, sat_bind]
  apply (calm_observe midway p.entry.value).mono
  rintro h s (e | ⟨⟩) midway
  · exact midway
  apply (calm_dispatch midway i unsent).mono
  rintro h s (e | ⟨⟩) midway
  · exact midway
  apply Sat.peek_bind
  apply (sat_raiseIf _ _ _).mpr
  constructor
  · intro moved
    exact absurd (midway.clock.trans timely.symm) (of_decide_eq_true moved)
  · exact fun _ => midway

theorem calm_processFrom (ps : List PendingRecord) (i : ℕ)
    (midway : Midway session cb start (ps.map PendingRecord.entry) ps.length s)
    (consumer : session.cfg.quoteConsumer = true) (unsent : ∀ p ∈ ps, Unsent p)
    (timely : ∀ p ∈ ps, p.entry.availableAt = start.clock) : Sat (calmly session cb start)
      (Calm cb start fun s _ => Midway session cb start [] 0 s)
      (session.processFrom i ps) h s := by
  induction ps generalizing i h s with
  | nil => exact midway
  | cons p later ih =>
    simp only [processFrom]
    rw [sat_bind]
    have processed := calm_processOne (h := h) midway i consumer (unsent p List.mem_cons_self)
      (timely p List.mem_cons_self)
    apply processed.mono
    rintro h s (e | ⟨⟩) midway
    · exact midway
    · exact ih (i + 1) midway (fun q member => unsent q (List.mem_cons_of_mem _ member))
        fun q member => timely q (List.mem_cons_of_mem _ member)

/-- What a step leaves that took up its group in the state `start`. -/
structure Committed (session : OfflineReplaySession) (cb : Callbacks W) (start : ReplayState W)
    (s : ReplayState W) (step : OfflineReplayStep) : Prop where
  idle : s.pending = []
  nextIndex : s.nextIndex = start.nextIndex + start.pending.length
  checkpoint : s.checkpoint = session.candidate start
  clock : s.clock = start.clock
  synchronous : Synchronous s
  consumed : s.consumedQuotes =
    start.consumedQuotes ++ (fedBy start).map OptionQuote.snapshotId
  fed : ∃ w, cb.feed start.clock start.checkpoint (fedBy start) start.world = .ok w ∧
    s.world = cb.save (session.candidate start) w
  handled : session.cfg.eventHandler = true → s.bus = []
  room : session.cfg.eventHandler = false →
    ((s.bus.length + (session.entries.length - s.nextIndex) : ℕ) : ℤ) ≤
      session.cfg.eventBusMaxsize
  sequences : step.processedSequences = start.pending.map fun p => p.entry.sequence
  reported : step.checkpoint = session.candidate start

theorem Midway.candidate (midway : Midway session cb start rest waiting s) :
    session.candidate s = session.candidate start := by
  have last := congrArg List.getLast? midway.entries
  have length := congrArg List.length midway.entries
  simp only [List.getLast?_map] at last
  simp only [List.length_map] at length
  have sequence : (s.pending.getLast?.map fun p => p.entry.sequence) =
      start.pending.getLast?.map fun p => p.entry.sequence := by
    have mapped := congrArg (Option.map ReplayEntry.sequence) last
    simpa [Option.map_map, Function.comp_def] using mapped
  simp only [OfflineReplaySession.candidate, midway.checkpoint, midway.clock, midway.nextIndex,
    length, sequence]

theorem calm_commit (midway : Midway session cb start [] 0 s) : Sat (calmly session cb start)
    (Calm cb start (Committed session cb start)) session.commit h s := by
  obtain ⟨done, split, consumed, fed⟩ := midway.fed
  have all : fedBy start = done := by simpa [offered] using split
  have same := midway.candidate
  have length : s.pending.length = start.pending.length := by
    simpa using congrArg List.length midway.entries
  unfold commit
  apply Sat.peek_bind
  apply Sat.call_bind
  · refine ⟨done, [], by simp [all], fed, by simp, ?_⟩
    intro cp saved
    cases saved
    exact ⟨rfl, same⟩
  · intro e s' moved
    simp [Callbacks.handler] at moved
  intro _ s' moved
  simp only [Callbacks.handler, Prod.mk.injEq, true_and] at moved
  subst moved
  apply Sat.peek_bind
  apply Sat.change_bind
  exact
    { idle := rfl
      nextIndex := by simp [midway.nextIndex, length]
      checkpoint := same
      clock := midway.clock
      synchronous := midway.synchronous
      consumed := by simp [consumed, all]
      fed := ⟨s.world, by rw [all, fed], by rw [same]⟩
      handled := midway.handled
      room := by
        intro silent
        have room := midway.room silent
        simp only [midway.nextIndex, length]
        simpa using room
      sequences := by
        have sequences := congrArg (List.map ReplayEntry.sequence) midway.entries
        simpa [result, Function.comp_def] using sequences
      reported := same }

end Parts

/-! ### Whole steps -/

/-- Where a session stands between two steps over working storage. -/
structure Standing (session : OfflineReplaySession) (s : ReplayState W) : Prop where
  idle : s.pending = []
  cursor : session.Cursor s.checkpoint s.nextIndex
  synchronous : Synchronous s
  ahead : ∀ next, session.entries[s.nextIndex]? = some next → s.clock ≤ next.availableAt
  handled : session.cfg.eventHandler = true → s.bus = []
  room : session.cfg.eventHandler = false →
    ((s.bus.length + (session.entries.length - s.nextIndex) : ℕ) : ℤ) ≤
      session.cfg.eventBusMaxsize

/-- The state in which a step begins to process the next group. -/
def takenUp (session : OfflineReplaySession) (s : ReplayState W) : ReplayState W :=
  match session.entries[s.nextIndex]? with
  | none => s
  | some next => { s with
      clock := next.availableAt
      pending := (session.groupAt s.nextIndex).map fun entry =>
        { entry, event := session.cfg.event entry } }

section Steps

variable {s s' : ReplayState W} {h : List (Done Exc ReplayAns)}

theorem takenUp_entries (standing : Standing session s) :
    (session.takenUp s).pending.map PendingRecord.entry = session.groupAt s.nextIndex := by
  unfold takenUp
  split
  next nothing => simp [standing.idle, groupAt, nothing]
  · simp [Function.comp_def]

theorem takenUp_frame (session : OfflineReplaySession) (s : ReplayState W) :
    session.takenUp s =
      { s with clock := (session.takenUp s).clock, pending := (session.takenUp s).pending } := by
  unfold takenUp
  split <;> rfl

theorem takenUp_unsent (standing : Standing session s) :
    ∀ p ∈ (session.takenUp s).pending, Unsent p := by
  unfold takenUp
  split
  · simp [standing.idle]
  · intro p member
    obtain ⟨entry, -, rfl⟩ := List.mem_map.mp member
    exact ⟨rfl, rfl, rfl⟩

theorem takenUp_timely (standing : Standing session s) :
    ∀ p ∈ (session.takenUp s).pending, p.entry.availableAt = (session.takenUp s).clock := by
  unfold takenUp
  split
  · simp [standing.idle]
  next next found =>
    intro p member
    obtain ⟨entry, there, rfl⟩ := List.mem_map.mp member
    exact session.groupAt_availableAt found there

theorem takenUp_length (standing : Standing session s) :
    (session.takenUp s).pending.length = (session.groupAt s.nextIndex).length := by
  simpa using congrArg List.length (takenUp_entries standing)

/-- The group lies inside the entries. -/
theorem groupAt_within (standing : Standing session s) :
    s.nextIndex + (session.groupAt s.nextIndex).length ≤ session.entries.length := by
  have bound := (session.groupAt_front s.nextIndex).length_le
  have index := standing.cursor.index_le
  rw [List.length_drop] at bound
  omega

/-- At the start of a group nothing was fed. -/
theorem Standing.midway (standing : Standing session s) :
    Midway session cb (session.takenUp s)
      ((session.takenUp s).pending.map PendingRecord.entry) (session.takenUp s).pending.length
      (session.takenUp s) := by
  have frame := takenUp_frame session s
  have bus : (session.takenUp s).bus = s.bus := by rw [frame]
  have index : (session.takenUp s).nextIndex = s.nextIndex := by rw [frame]
  exact
    { entries := rfl
      nextIndex := rfl
      checkpoint := rfl
      clock := rfl
      synchronous := by
        have synchronous := standing.synchronous
        rw [frame]
        exact synchronous
      fed := ⟨[], rfl, by simp, rfl⟩
      handled := fun handler => bus.trans (standing.handled handler)
      room := by
        intro silent
        have room := standing.room silent
        have within := groupAt_within standing
        rw [bus, index, takenUp_length standing]
        omega }

theorem calm_takeUp (standing : Standing session s) {start : ReplayState W}
    {β : Type} {Q : Post (ReplayState W) Exc ReplayAns β} {f : Unit → ReplayProgram W β}
    (rest : Sat (calmly session cb start) Q (f ()) h (session.takenUp s)) :
    Sat (calmly session cb start) Q (session.takeUp >>= f) h s := by
  unfold takeUp
  rw [sat_bind]
  apply Sat.peek_bind
  dsimp only [id]
  cases found : session.entries[s.nextIndex]? with
  | none =>
    simp only [takenUp, found] at rest
    simp only [standing.idle]
    exact rest
  | some next =>
    simp only [takenUp, found] at rest
    simp only [standing.idle]
    apply Sat.raiseIf_bind
    · intro late
      exact absurd (of_decide_eq_true late) (not_lt.mpr (standing.ahead next found))
    · exact fun _ => rest

/-- One step: the new quotes of the next group are fed, and the cursor moves past it. -/
theorem sat_step_calm (standing : Standing session s) (unfinished : s.checkpoint.complete = false)
    (consumer : session.cfg.quoteConsumer = true) :
    Sat (calmly session cb (session.takenUp s))
      (Calm cb (session.takenUp s) (Committed session cb (session.takenUp s)))
      session.step h s := by
  have timely := takenUp_timely standing
  simp only [step, work]
  apply Sat.peek_bind
  rw [if_neg (by simp [unfinished])]
  apply calm_takeUp standing
  apply Sat.peek_bind
  apply Sat.raiseIf_bind
  · intro changed
    cases first : (session.takenUp s).pending with
    | nil => simp [first] at changed
    | cons p later =>
      have same := timely p (by simp [first])
      simp [first, same] at changed
  intro _
  rw [sat_bind]
  have midway : Midway session cb (session.takenUp s)
      ((session.takenUp s).pending.map PendingRecord.entry) (session.takenUp s).pending.length
      (session.takenUp s) := standing.midway
  have processed := calm_processFrom (h := h) (session.takenUp s).pending 0 midway consumer
    (takenUp_unsent standing) timely
  apply processed.mono
  rintro h s (e | ⟨⟩) midway
  · exact midway
  · exact calm_commit midway

/-- After a step the session stands at the next group. -/
theorem Committed.standing {step : OfflineReplayStep} (standing : Standing session s)
    (unfinished : s.checkpoint.complete = false)
    (committed : Committed session cb (session.takenUp s) s' step) : Standing session s' := by
  have frame := takenUp_frame session s
  have index : (session.takenUp s).nextIndex = s.nextIndex := by rw [frame]
  have checkpoint : (session.takenUp s).checkpoint = s.checkpoint := by rw [frame]
  have length := takenUp_length standing
  have moved : s'.nextIndex = s.nextIndex + (session.groupAt s.nextIndex).length := by
    rw [committed.nextIndex, index, length]
  have cursor : session.Cursor (session.candidate (session.takenUp s))
      ((session.takenUp s).nextIndex + (session.takenUp s).pending.length) := by
    refine (candidate_cursor ?_ ?_ ?_ ?_ ?_).1
    · rw [checkpoint, index]
      exact standing.cursor
    · rw [checkpoint, unfinished]
    · intro _
      rw [index, takenUp_entries standing]
    · intro last found
      exact (takenUp_timely standing last (List.mem_of_getLast? found)).symm
    · intro none_taken
      rw [index]
      by_contra some_next
      obtain ⟨next, found⟩ := Option.ne_none_iff_exists'.mp some_next
      refine session.groupAt_ne_nil found ?_
      rw [← takenUp_entries standing, none_taken]
      rfl
  rw [← committed.checkpoint, ← committed.nextIndex] at cursor
  exact
    { idle := committed.idle
      cursor := cursor
      synchronous := committed.synchronous
      ahead := by
        intro next found
        rw [committed.clock]
        rw [moved] at found
        -- the clock stands at the group's time, and the next record is later
        cases first : session.entries[s.nextIndex]? with
        | none =>
          have nothing : session.groupAt s.nextIndex = [] := by simp [groupAt, first]
          rw [nothing, List.length_nil, Nat.add_zero, first] at found
          cases found
        | some entry =>
          have later := session.groupAt_end first found
          have here : (session.takenUp s).clock = entry.availableAt := by simp [takenUp, first]
          rw [here]
          exact le_of_lt later
      handled := committed.handled
      room := committed.room }

/-- A step over working storage returns, or raises what the consumer raised. -/
theorem step_run (cb : Callbacks W) (standing : Standing session s) (unfinished : s.checkpoint.complete = false)
    (consumer : session.cfg.quoteConsumer = true) :
    (∃ step s', session.step.run cb.handler s = (.ok step, s') ∧
      Committed session cb (session.takenUp s) s' step) ∨
    ∃ e s', session.step.run cb.handler s = (.error e, s') ∧
      cb.feed (session.takenUp s).clock s.checkpoint (fedBy (session.takenUp s)) s.world =
        .error e := by
  have sat : Sat (calmly session cb (session.takenUp s))
      (Calm cb (session.takenUp s) (Committed session cb (session.takenUp s)))
      session.step [] s := sat_step_calm standing unfinished consumer
  have conforms : ∀ op s', (calmly session cb (session.takenUp s)).rely op s'
      (cb.handler op s').1 (cb.handler op s').2 := fun _ _ => rfl
  obtain ⟨h, ended⟩ := sat.run conforms
  rcases outcome : session.step.run cb.handler s with ⟨e | step, s'⟩
  · rw [outcome] at ended
    refine Or.inr ⟨e, s', rfl, ?_⟩
    have frame := takenUp_frame session s
    have checkpoint : (session.takenUp s).checkpoint = s.checkpoint := by rw [frame]
    have world : (session.takenUp s).world = s.world := by rw [frame]
    rw [← checkpoint, ← world]
    exact ended
  · rw [outcome] at ended
    exact Or.inl ⟨step, s', rfl, ended⟩

/-- A finished session has nothing to do. -/
theorem step_run_finished (finished : s.checkpoint.complete = true) :
    session.step.run cb.handler s = (.ok (result [] s.checkpoint), s) := by
  change run cb.handler (if s.checkpoint.complete then pure (result [] s.checkpoint)
    else session.work) s = _
  rw [if_pos finished]
  rfl

end Steps

/-- So many steps, one after the other, until one raises. -/
def steps (session : OfflineReplaySession) (cb : Callbacks W) :
    ℕ → ReplayState W → Except Exc (List OfflineReplayStep) × ReplayState W
  | 0, s => (.ok [], s)
  | n + 1, s =>
    match session.step.run cb.handler s with
    | (.error e, s') => (.error e, s')
    | (.ok step, s') =>
      match steps session cb n s' with
      | (.error e, s'') => (.error e, s'')
      | (.ok later, s'') => (.ok (step :: later), s'')

end OfflineReplaySession
end Sentry
