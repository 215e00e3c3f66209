import Sentry.Sentinel.Feeding
import Sentry.Ledger.Solvency

/-!
# Which fixtures a ledger can replay

A session that feeds a new ledger. The fixture orders its records by the time they were
observed, the ledger refuses a quote that takes effect before the last one of its
instrument. A fixture is replayed to its end exactly when, within each instrument, the
quotes that are fed take effect in the order they are fed in.
-/
namespace Sentry

open Support

/-- Within each instrument no quote takes effect before an earlier one. -/
def InOrder (quotes : List OptionQuote) : Prop :=
  quotes.Pairwise fun a b => a.contract.instrumentId = b.contract.instrumentId →
    a.metadata.effectiveAt ≤ b.metadata.effectiveAt

/-- Each instrument identifier stands for one contract. -/
def SingleContracts (quotes : List OptionQuote) : Prop :=
  ∀ a ∈ quotes, ∀ b ∈ quotes, a.contract.instrumentId = b.contract.instrumentId →
    a.contract = b.contract

namespace ShadowLedger

variable (D : Decimal.Context) (cfg : LedgerConfig) (ids : OptionQuote → FreshIds)

/-- `observe_quote` as the quote consumer of a session. -/
def callbacks : Callbacks ShadowLedger where
  consume now _ quote ledger :=
    (observeQuote D cfg now (ids quote) quote ledger).map (fun r => r.map fun _ => ()) id
  save _ ledger := ledger

/-- A ledger that was fed quotes and holds no order. -/
structure Fed (quotes : List OptionQuote) (ledger : ShadowLedger) : Prop where
  orders : ledger.orders = .empty
  latest : ∀ i, ledger.quotes.get? i =
    (quotes.filter fun quote => quote.contract.instrumentId == i).getLast?

variable {D cfg ids} {quotes : List OptionQuote} {ledger : ShadowLedger} {now : Time}
  {checkpoint : OfflineReplayCheckpoint} {quote : OptionQuote}

theorem fresh_fed : Fed [] (fresh cfg) where
  orders := rfl
  latest := by simp [fresh]

/-- What the ledger knows of an instrument is the last quote it was fed. -/
theorem Fed.prior (fed : Fed quotes ledger) {i : String} {prior : OptionQuote}
    (found : ledger.quotes.get? i = some prior) :
    prior ∈ quotes ∧ prior.contract.instrumentId = i := by
  rw [fed.latest] at found
  have member := List.mem_filter.mp (List.mem_of_getLast? found)
  exact ⟨member.1, by simpa using member.2⟩

/-- In an ordered list the last quote of an instrument is the latest one. -/
theorem Fed.latest_le (fed : Fed quotes ledger) (ordered : InOrder quotes) {i : String}
    {prior other : OptionQuote} (found : ledger.quotes.get? i = some prior)
    (member : other ∈ quotes) (same : other.contract.instrumentId = i) :
    other.metadata.effectiveAt ≤ prior.metadata.effectiveAt := by
  rw [fed.latest] at found
  obtain ⟨before, split⟩ := List.getLast?_eq_some_iff.mp found
  have instruments : ∀ quote ∈ quotes.filter fun quote => quote.contract.instrumentId == i,
      quote.contract.instrumentId = i := by
    intro quote listed
    simpa using (List.mem_filter.mp listed).2
  have kept : other ∈ quotes.filter fun quote => quote.contract.instrumentId == i :=
    List.mem_filter.mpr ⟨member, by simpa using same⟩
  have pairwise : InOrder (quotes.filter fun quote => quote.contract.instrumentId == i) :=
    List.Pairwise.filter _ ordered
  rw [split] at kept pairwise instruments
  rcases List.mem_append.mp kept with earlier | last
  · have last : prior ∈ before ++ [prior] := by simp
    exact (List.pairwise_append.mp pairwise).2.2 other earlier prior (by simp)
      (same.trans (instruments prior last).symm)
  · rw [List.mem_singleton.mp last]

variable (D cfg ids checkpoint) in
/-- A quote that was admitted is the latest of its instrument, and no order is touched. -/
theorem Fed.observed (fed : Fed quotes ledger) (admitted : admitQuote now quote ledger = .ok true) :
    ∃ ledger', (callbacks D cfg ids).consume now checkpoint quote ledger = (.ok (), ledger') ∧
      Fed (quotes ++ [quote]) ledger' := by
  have marked : Fed (quotes ++ [quote]) (markPosition D quote
      { ledger with quotes := ledger.quotes.set quote.contract.instrumentId quote }) := by
    constructor
    · rw [markPosition_orders]
      exact fed.orders
    · intro i
      rw [markPosition_frame, Dict.get?_set, List.filter_append]
      by_cases same : quote.contract.instrumentId = i
      · simp [same]
      · simp [same, fed.latest i]
  have untouched : ∀ ids, considerOrders D cfg now ids quote
      (markPosition D quote
        { ledger with quotes := ledger.quotes.set quote.contract.instrumentId quote }).orders.keys
      (markPosition D quote
        { ledger with quotes := ledger.quotes.set quote.contract.instrumentId quote }) =
      (.ok [], markPosition D quote
        { ledger with quotes := ledger.quotes.set quote.contract.instrumentId quote }) := by
    intro ids
    rw [markPosition_orders, fed.orders]
    rfl
  refine ⟨_, ?_, marked⟩
  simp only [callbacks, observeQuote, observeQuoteLog, admitted, untouched]
  split <;> rfl

/-- A new quote in its time is admitted unless it breaks the order. -/
theorem admitQuote_new (fed : Fed quotes ledger)
    (timely : quote.metadata.effectiveAt ≤ now ∧ quote.metadata.observedAt ≤ now)
    (new : quote.snapshotId ∉ quotes.map OptionQuote.snapshotId)
    (single : SingleContracts (quotes ++ [quote])) :
    admitQuote now quote ledger = .ok true ∨
      admitQuote now quote ledger =
        .error (.dataInvalid "out-of-order option quote cannot rewind ledger state") ∧
      ¬ InOrder (quotes ++ [quote]) := by
  have present : ¬ (quote.metadata.effectiveAt > now ∨ quote.metadata.observedAt > now) := by
    rintro (late | late)
    · exact absurd late (not_lt.mpr timely.1)
    · exact absurd late (not_lt.mpr timely.2)
  unfold admitQuote
  rw [if_neg present]
  cases found : ledger.quotes.get? quote.contract.instrumentId with
  | none => exact Or.inl rfl
  | some prior =>
    obtain ⟨member, same⟩ := fed.prior found
    have different : prior.snapshotId ≠ quote.snapshotId := by
      intro equal
      exact new (equal ▸ List.mem_map_of_mem member)
    have contract : prior.contract = quote.contract :=
      single prior (by simp [member]) quote (by simp) same
    simp only [if_neg different]
    split
    next backward =>
      refine Or.inr ⟨rfl, fun whole => ?_⟩
      have kept := (List.pairwise_append.mp whole).2.2 prior member quote (by simp) same
      exact absurd backward (not_lt.mpr kept)
    · simp [contract]

theorem inOrder_of_admitted (fed : Fed quotes ledger) (ordered : InOrder quotes)
    (admitted : admitQuote now quote ledger = .ok true) :
    InOrder (quotes ++ [quote]) := by
  refine List.pairwise_append.mpr ⟨ordered, List.pairwise_singleton _ _, ?_⟩
  intro other member last isLast same
  cases List.mem_singleton.mp isLast
  -- an admitted quote is not before the one the ledger knew
  unfold admitQuote at admitted
  split at admitted
  · cases admitted
  split at admitted
  next nothing =>
    have among : other ∈ quotes.filter fun q => q.contract.instrumentId == quote.contract.instrumentId :=
      List.mem_filter.mpr ⟨member, by simpa using same⟩
    rw [fed.latest, List.getLast?_eq_none_iff] at nothing
    rw [nothing] at among
    cases among
  next prior found =>
    split at admitted
    · split at admitted <;> cases admitted
    split at admitted
    · cases admitted
    next forward => exact le_trans (fed.latest_le ordered found member same) (not_lt.mp forward)

variable (D cfg ids checkpoint) in
/-- A list of new quotes is accepted exactly when it keeps the order. -/
theorem feed_inOrder (more : List OptionQuote) (fed : Fed quotes ledger) (ordered : InOrder quotes)
    (timely : ∀ quote ∈ more, quote.metadata.effectiveAt ≤ now ∧ quote.metadata.observedAt ≤ now)
    (nodup : ((quotes ++ more).map OptionQuote.snapshotId).Nodup)
    (single : SingleContracts (quotes ++ more)) :
    (∃ ledger', (callbacks D cfg ids).feed now checkpoint more ledger = .ok ledger' ∧
      Fed (quotes ++ more) ledger' ∧ InOrder (quotes ++ more)) ∨
    (callbacks D cfg ids).feed now checkpoint more ledger =
        .error (.dataInvalid "out-of-order option quote cannot rewind ledger state") ∧
      ¬ InOrder (quotes ++ more) := by
  induction more generalizing quotes ledger with
  | nil =>
    refine Or.inl ⟨ledger, rfl, ?_, ?_⟩
    · simpa using fed
    · simpa using ordered
  | cons quote rest ih =>
    have regroup : quotes ++ quote :: rest = (quotes ++ [quote]) ++ rest := by simp
    have new : quote.snapshotId ∉ quotes.map OptionQuote.snapshotId := by
      rw [List.map_append, List.nodup_append] at nodup
      intro known
      exact nodup.2.2 _ known quote.snapshotId (by simp) rfl
    have among : SingleContracts (quotes ++ [quote]) := by
      intro a first b second
      exact single a (by simp at first ⊢; tauto) b (by simp at second ⊢; tauto)
    rcases admitQuote_new fed (timely quote (by simp)) new among with
      admitted | ⟨refused, broken⟩
    · have next := inOrder_of_admitted fed ordered admitted
      obtain ⟨ledger', consumed, fed'⟩ := fed.observed D cfg ids checkpoint admitted
      rw [regroup] at nodup single ⊢
      have continued := ih fed' next (fun q member => timely q (by simp [member])) nodup single
      simp only [Callbacks.feed, consumed]
      exact continued
    · refine Or.inr ⟨?_, ?_⟩
      · simp [Callbacks.feed, callbacks, observeQuote, observeQuoteLog, refused, Except.map]
      · intro whole
        rw [regroup] at whole
        exact broken (List.pairwise_append.mp whole).1

end ShadowLedger

namespace OfflineReplaySession

variable {session : OfflineReplaySession} {s s' : ReplayState ShadowLedger}

/-- An option quote is known by its effective time and not before it was observed. -/
theorem quote_timely {entry : ReplayEntry} {quote : OptionQuote} (member : entry ∈ session.entries)
    (value : entry.value = .option quote) :
    quote.metadata.effectiveAt ≤ entry.availableAt ∧
      quote.metadata.observedAt ≤ entry.availableAt := by
  have described := session.prepared_spec.described entry member
  unfold ReplayConfig.describes at described
  dsimp only at described
  rw [value] at described
  split at described
  · cases described
  split at described
  · cases described
  split at described
  · cases described
  next observed =>
    split at described
    · cases described
    next effective =>
      have observed := not_not.mp observed
      have effective := not_not.mp effective
      simp only [MarketObservation.metadata] at observed effective
      rw [effective, observed]
      simp only [ReplayEntry.availableAt, ReplayRecord.availableAt_eq]
      exact ⟨entry.record.observation_is_not_early, le_refl _⟩

/-- The quotes that a session feeds over its whole life. -/
def allOffered (session : OfflineReplaySession) : List OptionQuote := offered [] session.entries

/-- Where a session stands that feeds a ledger from the start of its fixture. -/
structure Fed (session : OfflineReplaySession) (s : ReplayState ShadowLedger) : Prop where
  standing : Standing session s
  consumed : s.consumedQuotes =
    (offered [] (session.entries.take s.nextIndex)).map OptionQuote.snapshotId
  ledger : ShadowLedger.Fed (offered [] (session.entries.take s.nextIndex)) s.world
  ordered : InOrder (offered [] (session.entries.take s.nextIndex))

/-- The quotes of the next group follow those fed so far. -/
theorem Fed.extended (fed : Fed session s) :
    offered [] (session.entries.take (s.nextIndex + (session.groupAt s.nextIndex).length)) =
      offered [] (session.entries.take s.nextIndex) ++ fedBy (session.takenUp s) := by
  have frame := takenUp_frame session s
  have consumed : (session.takenUp s).consumedQuotes = s.consumedQuotes := by rw [frame]
  rw [take_groupAt, offered_append, fedBy, takenUp_entries fed.standing, consumed, fed.consumed]
  simp

/-- What is offered of a first part of the entries is a first part of what is offered. -/
theorem offered_take (session : OfflineReplaySession) (i : ℕ) : ∃ later, session.allOffered =
    offered [] (session.entries.take i) ++ later := by
  have split := offered_append [] (session.entries.take i) (session.entries.drop i)
  rw [List.take_append_drop] at split
  exact ⟨_, split⟩

section Feeding

variable (D : Decimal.Context) (cfg : LedgerConfig) (ids : OptionQuote → FreshIds)

/-- The ledger takes the quotes of the next group exactly when they keep the order. -/
theorem Fed.group (fed : Fed session s) (single : SingleContracts session.allOffered) :
    (∃ ledger', (ShadowLedger.callbacks D cfg ids).feed (session.takenUp s).clock s.checkpoint
        (fedBy (session.takenUp s)) s.world = .ok ledger' ∧
      ShadowLedger.Fed (offered [] (session.entries.take
        (s.nextIndex + (session.groupAt s.nextIndex).length))) ledger' ∧
      InOrder (offered [] (session.entries.take
        (s.nextIndex + (session.groupAt s.nextIndex).length)))) ∨
    (ShadowLedger.callbacks D cfg ids).feed (session.takenUp s).clock s.checkpoint
        (fedBy (session.takenUp s)) s.world =
      .error (.dataInvalid "out-of-order option quote cannot rewind ledger state") ∧
      ¬ InOrder session.allOffered := by
  obtain ⟨later, whole⟩ := session.offered_take
    (s.nextIndex + (session.groupAt s.nextIndex).length)
  have timely : ∀ quote ∈ fedBy (session.takenUp s),
      quote.metadata.effectiveAt ≤ (session.takenUp s).clock ∧
        quote.metadata.observedAt ≤ (session.takenUp s).clock := by
    intro quote member
    obtain ⟨-, entry, there, value⟩ := mem_offered member
    obtain ⟨p, pending, rfl⟩ := List.mem_map.mp there
    rw [takenUp_entries fed.standing] at there
    have listed := List.mem_of_mem_drop ((session.groupAt_front s.nextIndex).mem there)
    have bounds := quote_timely listed value
    rwa [takenUp_timely fed.standing p pending] at bounds
  have among : SingleContracts (offered [] (session.entries.take
      (s.nextIndex + (session.groupAt s.nextIndex).length))) := by
    intro a first b second
    exact single a (by simp [whole, first]) b (by simp [whole, second])
  have nodup := offered_nodup [] (session.entries.take
    (s.nextIndex + (session.groupAt s.nextIndex).length))
  rw [fed.extended] at among nodup whole ⊢
  rcases ShadowLedger.feed_inOrder D cfg ids s.checkpoint
    (fedBy (session.takenUp s)) fed.ledger fed.ordered timely nodup among with
    accepted | ⟨refused, broken⟩
  · exact Or.inl accepted
  · refine Or.inr ⟨refused, fun ordered => broken ?_⟩
    rw [whole] at ordered
    exact (List.pairwise_append.mp ordered).1

/-- A step over a ledger: it moves on, or the fixture is out of order. -/
theorem Fed.step (fed : Fed session s) (unfinished : s.checkpoint.complete = false)
    (consumer : session.cfg.quoteConsumer = true) (single : SingleContracts session.allOffered) :
    (∃ step s', session.step.run (ShadowLedger.callbacks D cfg ids).handler s = (.ok step, s') ∧
      Fed session s' ∧
      s'.nextIndex = s.nextIndex + (session.groupAt s.nextIndex).length ∧
      step.processedSequences = (session.groupAt s.nextIndex).map ReplayEntry.sequence ∧
      s'.checkpoint.complete = decide (s'.nextIndex = session.entries.length)) ∨
    (∃ s', session.step.run (ShadowLedger.callbacks D cfg ids).handler s =
        (.error (.dataInvalid "out-of-order option quote cannot rewind ledger state"), s')) ∧
      ¬ InOrder session.allOffered := by
  have frame := takenUp_frame session s
  have index : (session.takenUp s).nextIndex = s.nextIndex := by rw [frame]
  have checkpoint : (session.takenUp s).checkpoint = s.checkpoint := by rw [frame]
  have world : (session.takenUp s).world = s.world := by rw [frame]
  have consumed : (session.takenUp s).consumedQuotes = s.consumedQuotes := by rw [frame]
  rcases step_run (ShadowLedger.callbacks D cfg ids) fed.standing unfinished consumer with
    ⟨step, s', ran, committed⟩ | ⟨e, s', ran, refused⟩
  · obtain ⟨ledger, accepted, saved⟩ := committed.fed
    rw [checkpoint, world] at accepted
    rcases fed.group D cfg ids single with
      ⟨ledger', accepted', ledgerFed, ordered⟩ | ⟨refused, -⟩
    · cases accepted.symm.trans accepted'
      have moved : s'.nextIndex = s.nextIndex + (session.groupAt s.nextIndex).length := by
        rw [committed.nextIndex, index, takenUp_length fed.standing]
      refine Or.inl ⟨step, s', ran, ?_, moved, ?_, ?_⟩
      · exact
          { standing := committed.standing fed.standing unfinished
            consumed := by
              rw [committed.consumed, consumed, fed.consumed, moved, fed.extended,
                List.map_append]
            ledger := by
              rw [moved, saved]
              exact ledgerFed
            ordered := by
              rw [moved]
              exact ordered }
      · rw [committed.sequences, ← takenUp_entries fed.standing, List.map_map]
        rfl
      · rw [committed.checkpoint, committed.nextIndex]
        rfl
    · cases accepted.symm.trans refused
  · rcases fed.group D cfg ids single with
      ⟨ledger', accepted, -⟩ | ⟨refused', broken⟩
    · cases accepted.symm.trans refused
    · cases refused.symm.trans refused'
      exact Or.inr ⟨⟨s', ran⟩, broken⟩

/-- No step raises, and enough of them process all that is left. -/
def Replays (session : OfflineReplaySession) (cb : Callbacks W) (s : ReplayState W) : Prop :=
  ∀ n, ∃ returned s', session.steps cb n s = (.ok returned, s') ∧
    (session.entries.length - s.nextIndex < n →
      (returned.flatMap OfflineReplayStep.processedSequences =
        (session.entries.drop s.nextIndex).map ReplayEntry.sequence) ∧
      s'.checkpoint.complete = true)

theorem steps_finished (cb : Callbacks W) {s : ReplayState W}
    (finished : s.checkpoint.complete = true) (n : ℕ) :
    session.steps cb n s = (.ok (List.replicate n (result [] s.checkpoint)), s) := by
  induction n with
  | zero => rfl
  | succ n ih => simp only [steps, step_run_finished finished, ih, List.replicate_succ]

/-- A complete cursor stands at the end of the fixture. -/
theorem Fed.atEnd (fed : Fed session s) (finished : s.checkpoint.complete = true) :
    s.nextIndex = session.entries.length := by
  by_cases filled : session.entries = []
  · have bound := fed.standing.cursor.index_le
    simp only [filled, List.length_nil] at bound ⊢
    omega
  · exact (fed.standing.cursor.complete_iff filled).mp finished

theorem Fed.replays_finished (fed : Fed session s) (finished : s.checkpoint.complete = true)
    (cb : Callbacks ShadowLedger) : Replays session cb s := by
  intro n
  refine ⟨_, _, steps_finished cb finished n, fun _ => ⟨?_, finished⟩⟩
  rw [fed.atEnd finished, List.drop_length]
  simp [List.flatMap_replicate, result]

/-- A step that returned, before steps that process the rest. -/
theorem Fed.replays_step {cb : Callbacks ShadowLedger} {step : OfflineReplayStep}
    (fed : Fed session s') (ran : session.step.run cb.handler s = (.ok step, s'))
    (moved : s'.nextIndex = s.nextIndex + (session.groupAt s.nextIndex).length)
    (sequences : step.processedSequences = (session.groupAt s.nextIndex).map ReplayEntry.sequence)
    (progress : s.nextIndex < s'.nextIndex ∨ s'.checkpoint.complete = true)
    (later : Replays session cb s') : Replays session cb s := by
  have split : session.groupAt s.nextIndex ++ session.entries.drop s'.nextIndex =
      session.entries.drop s.nextIndex := by
    rw [moved, ← List.drop_drop]
    exact (List.prefix_append_drop (session.groupAt_front s.nextIndex)).symm
  intro n
  cases n with
  | zero => exact ⟨[], s, rfl, fun few => absurd few (Nat.not_lt_zero _)⟩
  | succ n =>
    obtain ⟨returned, s'', ran', all⟩ := later n
    refine ⟨step :: returned, s'', by simp only [steps, ran, ran'], fun enough => ?_⟩
    -- either the cursor moved, so that one step less is enough, or nothing is left
    have rest : returned.flatMap OfflineReplayStep.processedSequences =
        (session.entries.drop s'.nextIndex).map ReplayEntry.sequence ∧
        s''.checkpoint.complete = true := by
      rcases progress with forward | finished
      · apply all
        have bound := fed.standing.cursor.index_le
        omega
      · rw [steps_finished cb finished n] at ran'
        cases ran'
        rw [fed.atEnd finished, List.drop_length]
        exact ⟨by simp [List.flatMap_replicate, result], finished⟩
    refine ⟨?_, rest.2⟩
    rw [List.flatMap_cons, sequences, rest.1, ← List.map_append, split]

/-- Either the fixture is in order and replayed to its end, or some step raises. -/
theorem Fed.replays_or (fed : Fed session s) (consumer : session.cfg.quoteConsumer = true)
    (single : SingleContracts session.allOffered) :
    InOrder session.allOffered ∧ Replays session (ShadowLedger.callbacks D cfg ids) s ∨
    ¬ InOrder session.allOffered ∧ ∃ n s',
      session.steps (ShadowLedger.callbacks D cfg ids) n s =
        (.error (.dataInvalid "out-of-order option quote cannot rewind ledger state"), s') := by
  -- by induction on the number of entries that are left
  generalize measure : session.entries.length - s.nextIndex = left
  induction left using Nat.strong_induction_on generalizing s with
  | _ left ih =>
    have ended : ∀ {s}, Fed session s → s.checkpoint.complete = true →
        InOrder session.allOffered ∧ Replays session (ShadowLedger.callbacks D cfg ids) s := by
      intro s fed finished
      have ordered := fed.ordered
      rw [fed.atEnd finished, List.take_length] at ordered
      exact ⟨ordered, fed.replays_finished finished _⟩
    by_cases finished : s.checkpoint.complete = true
    · exact Or.inl (ended fed finished)
    have unfinished : s.checkpoint.complete = false := by simpa using finished
    rcases fed.step D cfg ids unfinished consumer single with
      ⟨step, s', ran, fed', moved, sequences, complete⟩ | ⟨⟨s', ran⟩, broken⟩
    · have progress : s.nextIndex < s'.nextIndex ∨ s'.checkpoint.complete = true := by
        cases next : session.entries[s.nextIndex]? with
        | some entry =>
          have filled := List.length_pos_iff.mpr (session.groupAt_ne_nil next)
          left
          omega
        | none =>
          right
          rw [complete, decide_eq_true_eq, moved]
          have nothing : session.groupAt s.nextIndex = [] := by simp [groupAt, next]
          have bound := List.getElem?_eq_none_iff.mp next
          have index := fed.standing.cursor.index_le
          rw [nothing, List.length_nil]
          omega
      by_cases finished' : s'.checkpoint.complete = true
      · obtain ⟨ordered, later⟩ := ended fed' finished'
        exact Or.inl ⟨ordered, fed'.replays_step ran moved sequences progress later⟩
      have forward := progress.resolve_right finished'
      have bound := fed'.standing.cursor.index_le
      rcases ih _ (by omega) fed' rfl with ⟨ordered, later⟩ | ⟨broken, n, s'', raised⟩
      · exact Or.inl ⟨ordered, fed'.replays_step ran moved sequences progress later⟩
      · exact Or.inr ⟨broken, n + 1, s'', by simp only [steps, ran, raised]⟩
    · exact Or.inr ⟨broken, 1, s', by simp only [steps, ran]⟩

end Feeding

/-- A session just created stands at the start of its fixture. -/
theorem created_fed {config : ReplayConfig} {now : Time} {cfg : LedgerConfig}
    (created : config.create now none (ShadowLedger.fresh cfg) = .ok (session, s))
    (room : config.eventHandler = true ∨ config.fixture.records.length ≤ config.eventBusMaxsize) :
    Fed session s := by
  obtain ⟨same, restored⟩ := created_restored created
  have start : s.nextIndex = 0 := (restored.cursor.unstarted rfl).1
  have frame := restored.frame
  have records : session.entries.length = config.fixture.records.length := by
    rw [← same, ← List.length_map ReplayEntry.record, session.entries_records]
    exact (List.perm_insertionSort _ _).length_eq
  have consumed : s.consumedQuotes = optionIds (session.entries.take s.nextIndex) := by rw [frame]
  rw [start, List.take_zero] at consumed
  refine ⟨?_, by simpa [start, offered, optionIds] using consumed, ?_, ?_⟩
  · exact
      { idle := by rw [frame]
        cursor := by
          have cursor := restored.cursor
          rw [frame]
          exact cursor
        synchronous := restored.synchronous
        ahead := by
          have ahead := restored.ahead
          rw [frame]
          exact ahead
        handled := fun _ => by rw [frame]
        room := by
          intro silent
          have empty : s.bus = [] := by rw [frame]
          rw [same] at silent ⊢
          have bound := room.resolve_left (by simp [silent])
          rw [empty, start, records]
          simpa using bound }
  · have world : s.world = ShadowLedger.fresh cfg := by rw [frame]
    rw [start, world]
    exact ShadowLedger.fresh_fed
  · rw [start]
    exact List.Pairwise.nil

/-- A fixture whose instruments stand for one contract each is replayed to its end over a new
ledger exactly when the quotes of each instrument take effect in sequence; otherwise some step
raises the refusal of the ledger. Where no handler takes the events off the bus, it has to hold
all of them. -/
theorem replayable {config : ReplayConfig} {now : Time} {D : Decimal.Context} {cfg : LedgerConfig}
    {ids : OptionQuote → FreshIds}
    (created : config.create now none (ShadowLedger.fresh cfg) = .ok (session, s))
    (consumer : config.quoteConsumer = true)
    (room : config.eventHandler = true ∨ config.fixture.records.length ≤ config.eventBusMaxsize)
    (single : SingleContracts session.allOffered) :
    (Replays session (ShadowLedger.callbacks D cfg ids) s ↔ InOrder session.allOffered) ∧
      (¬ InOrder session.allOffered → ∃ n s',
        session.steps (ShadowLedger.callbacks D cfg ids) n s =
          (.error (.dataInvalid "out-of-order option quote cannot rewind ledger state"), s')) := by
  obtain ⟨same, -⟩ := created_restored created
  have fed := created_fed created room
  rcases fed.replays_or D cfg ids (same ▸ consumer) single with
    ⟨ordered, replays⟩ | ⟨broken, n, s', raised⟩
  · exact ⟨⟨fun _ => ordered, fun _ => replays⟩, fun broken => absurd ordered broken⟩
  · refine ⟨⟨fun replays => ?_, fun ordered => absurd ordered broken⟩, fun _ => ⟨n, s', raised⟩⟩
    obtain ⟨returned, s'', ran, -⟩ := replays n
    cases raised.symm.trans ran

end OfflineReplaySession

namespace ReplaySample

open OfflineReplaySession

/-- A minute after the opening, an observation that took effect so many seconds after it. -/
def followUp (effective : ℤ) (early : effective ≤ 60) : ReplayRecord where
  sequence := 1
  kind := .optionQuote
  observedAt := (opening + 60) * 1000000
  effectiveAt := (opening + effective) * 1000000
  payload := [("contract", .obj [("instrument_id", .str "ACME-20260123-C-102"),
        ("symbol", .str "ACME"), ("option_type", .str "call"), ("strike", .int 102),
        ("expiration", .str "2026-01-23")]),
      ("bid", .int 1), ("ask", .int 2),
      ("metadata", .obj [("provider", .str "offline-replay"),
        ("capability_version", .str "replay-v1"), ("observed_at", .int (opening + 60)),
        ("effective_at", .int (opening + effective))])]
  observation_is_not_early := by simp; omega

/-- Two quotes of one instrument; neither carries a snapshot identifier. -/
def twoQuotes (effective : ℤ) (early : effective ≤ 60) : ReplayConfig :=
  { config with
    fixture :=
      { version := "fixture-v1"
        provider := "offline-replay"
        capabilityVersion := "replay-v1"
        records := [observation 0 0 [] "ACME", followUp effective early]
        sequences_unique := by simp [observation, followUp]
        deterministic_order := by simp [observation, followUp, ReplayRecord.inSequence]
        version_ne := version_named
        provider_ne := provider_named
        capabilityVersion_ne := capabilityVersion_named } }

/-- The second quote takes effect half a minute after the first. -/
def forward : OfflineReplaySession where
  cfg := twoQuotes 30 (by decide)
  entries := (twoQuotes 30 (by decide)).prepare.toOption.getD []
  prepared := ok_of_isSome (by decide +kernel)

/-- The second quote takes effect a minute before the first. -/
def backward : OfflineReplaySession where
  cfg := twoQuotes (-60) (by decide)
  entries := (twoQuotes (-60) (by decide)).prepare.toOption.getD []
  prepared := ok_of_isSome (by decide +kernel)

def withLedger (session : OfflineReplaySession) : ReplayState ShadowLedger :=
  (session.restore early (session.cfg.initial early) (.fresh ShadowLedger.sampleConfig)).toOption.getD
    { clock := 0, checkpoint := session.cfg.initial 0, world := .fresh ShadowLedger.sampleConfig }

theorem created_withLedger {session : OfflineReplaySession}
    (accepted : (session.restore early (session.cfg.initial early)
      (ShadowLedger.fresh ShadowLedger.sampleConfig)).toOption.isSome = true) :
    session.cfg.create early none (ShadowLedger.fresh ShadowLedger.sampleConfig) =
      .ok (session, withLedger session) := by
  have restored : session.restore early (session.cfg.initial early)
      (ShadowLedger.fresh ShadowLedger.sampleConfig) = .ok (withLedger session) :=
    ok_of_isSome accepted
  rw [create_eq, Option.getD_none, restored]
  rfl

abbrev ledger : Callbacks ShadowLedger :=
  ShadowLedger.callbacks .exact ShadowLedger.sampleConfig fun _ => ShadowLedger.sampleIds

end ReplaySample

open ReplaySample OfflineReplaySession in
theorem replayable_forward :
    forward.cfg.create early none (.fresh ShadowLedger.sampleConfig) =
      .ok (forward, withLedger forward) ∧
    forward.allOffered.length = 2 ∧ Replays forward ledger (withLedger forward) := by
  have created : forward.cfg.create early none (.fresh ShadowLedger.sampleConfig) =
      .ok (forward, withLedger forward) := created_withLedger (by decide +kernel)
  refine ⟨created, by decide +kernel, ?_⟩
  apply (replayable created rfl (Or.inl rfl) ?_).1.mpr
  · unfold InOrder
    decide +kernel
  · unfold SingleContracts
    decide +kernel

open ReplaySample OfflineReplaySession in
/-- The session of an accepted fixture in which every instrument stands for one contract; its
second step raises what the ledger raised. -/
theorem replay_refused :
    backward.cfg.create early none (.fresh ShadowLedger.sampleConfig) =
      .ok (backward, withLedger backward) ∧
    backward.cfg.quoteConsumer = true ∧ backward.cfg.eventHandler = true ∧
    SingleContracts backward.allOffered ∧
    Sentry.raised (backward.steps ledger 2 (withLedger backward)).1 =
      some (.dataInvalid "out-of-order option quote cannot rewind ledger state") ∧
    ¬ Replays backward ledger (withLedger backward) := by
  have refusal : Sentry.raised (backward.steps ledger 2 (withLedger backward)).1 =
      some (.dataInvalid "out-of-order option quote cannot rewind ledger state") := by
    decide +kernel
  refine ⟨created_withLedger (by decide +kernel), rfl, rfl, ?_, refusal, ?_⟩
  · unfold SingleContracts
    decide +kernel
  · intro replays
    obtain ⟨returned, s, ran, -⟩ := replays 2
    rw [ran] at refusal
    cases refusal

end Sentry
