import Sentry.Replay.Engine

/-!
# Causality of a replay

One turn of the loop either raises before anything is delivered or delivers its event at the
time of the event. So the context of a call holds what was delivered up to it, in causal
order, and a run up to some place in that order does not depend on what comes later. Distinct
ids make the causal order strict, and then the order of the list does not matter either.
-/
namespace Sentry

open Support

theorem ReplayEvent.eventId_of_causalKey {event event' : ReplayEvent}
    (same : event.causalKey = event'.causalKey) : event.eventId = event'.eventId := by
  have inner := (Prod.mk.inj (congrArg ofLex same)).2
  have innermost := (Prod.mk.inj (congrArg ofLex inner)).2
  exact (Prod.mk.inj (congrArg ofLex innermost)).2

/-- The events up to a place in the causal order. -/
def upTo (key : Time ×ₗ ℤ ×ₗ Time ×ₗ String) (events : List ReplayEvent) : List ReplayEvent :=
  events.filter fun event => decide (event.causalKey ≤ key)

section Order

variable {events events' before after : List ReplayEvent}

theorem distinguished_of_ids (distinct : (events.map ReplayEvent.eventId).Nodup) :
    Distinguished ReplayEvent.causalKey events := by
  apply (List.pairwise_map.mp distinct).imp
  intro event event' apart same
  exact apart (ReplayEvent.eventId_of_causalKey same)

/-- What comes up to a place is a beginning of a list in causal order. -/
theorem upTo_append (key : Time ×ₗ ℤ ×ₗ Time ×ₗ String)
    (strict : events.Pairwise fun event event' => event.causalKey < event'.causalKey) :
    ∃ later, events = upTo key events ++ later := by
  induction events with
  | nil => exact ⟨[], rfl⟩
  | cons event rest ih =>
    obtain ⟨first, strict⟩ := List.pairwise_cons.mp strict
    by_cases early : event.causalKey ≤ key
    · obtain ⟨later, split⟩ := ih strict
      refine ⟨later, ?_⟩
      rw [upTo, List.filter_cons_of_pos (by simpa using early), List.cons_append, ← upTo, ← split]
    · -- everything after it is later still
      have none_early : upTo key rest = [] := by
        rw [upTo, List.filter_eq_nil_iff]
        intro event' listed
        simpa using (not_le.mp early).trans (first event' listed)
      refine ⟨event :: rest, ?_⟩
      rw [upTo, List.filter_cons_of_neg (by simpa using early), ← upTo, none_early, List.nil_append]

/-- What comes up to an event of the list are the events before it and itself. -/
theorem upTo_event {event : ReplayEvent}
    (strict : (before ++ event :: after).Pairwise fun event event' =>
      event.causalKey < event'.causalKey) :
    upTo event.causalKey (before ++ event :: after) = before ++ [event] := by
  obtain ⟨-, tail, across⟩ := List.pairwise_append.mp strict
  obtain ⟨later, -⟩ := List.pairwise_cons.mp tail
  have all_before : before.filter (fun other => decide (other.causalKey ≤ event.causalKey)) =
      before :=
    List.filter_eq_self.mpr fun other listed => by
      simpa using (across other listed event List.mem_cons_self).le
  have none_after : after.filter (fun other => decide (other.causalKey ≤ event.causalKey)) = [] :=
    List.filter_eq_nil_iff.mpr fun other listed => by simpa using later other listed
  rw [upTo, List.filter_append, List.filter_cons_of_pos (by simp), all_before, none_after]

/-- Lists with the same events up to a place agree up to it when they are in causal order. -/
theorem upTo_ranking_congr {key : Time ×ₗ ℤ ×ₗ Time ×ₗ String}
    (distinct : (events.map ReplayEvent.eventId).Nodup)
    (distinct' : (events'.map ReplayEvent.eventId).Nodup)
    (same : (upTo key events).Perm (upTo key events')) :
    upTo key (ranking ReplayEvent.causalKey events) =
      upTo key (ranking ReplayEvent.causalKey events') := by
  have strict := (ranking_strict (distinguished_of_ids distinct)).filter
    fun event => decide (event.causalKey ≤ key)
  have strict' := (ranking_strict (distinguished_of_ids distinct')).filter
    fun event => decide (event.causalKey ≤ key)
  refine List.Perm.eq_of_pairwise ?_ strict strict' ?_
  · intro event event' _ _ less more
    exact absurd (less.trans more) (lt_irrefl _)
  · exact ((ranking_perm _ events).filter _).trans
      (same.trans ((ranking_perm _ events').filter _).symm)

end Order

namespace ReplayEngine

variable {rt : ReplayRuntime} {engine : ReplayEngine} {event : ReplayEvent} {s : Progress}
  {events events' : List ReplayEvent}

/-- Whether events of the kind have a handler. -/
def handles (engine : ReplayEngine) (event : ReplayEvent) : Bool :=
  (engine.handlers.get? event.kind).isSome

/-! ### One turn -/

theorem advanceTo_ok {context moved : CausalReplayContext} {target : Time}
    (ok : context.advanceTo target = .ok moved) :
    moved.now = target ∧ moved.observed = context.observed := by
  rw [CausalReplayContext.advanceTo] at ok
  split at ok
  · cases ok
  · cases ok
    exact ⟨rfl, rfl⟩

theorem observe_ok {context context' : CausalReplayContext} (ok : context.observe event = .ok context') :
    context'.now = context.now ∧ context'.observed = context.observed ++ [event] := by
  rw [CausalReplayContext.observe] at ok
  split at ok
  · cases ok
  · split at ok
    · cases ok
    · cases ok
      exact ⟨rfl, rfl⟩

/-- A turn has called no handler, or the one of its event with the event just delivered. -/
theorem deliver_calls (rt : ReplayRuntime) (engine : ReplayEngine) (event : ReplayEvent)
    (s : Progress) {s' : Progress} {failed : Option Exc}
    (turn : deliver rt engine event s = (s', failed)) :
    (failed = none → s'.context.observed = s.context.observed ++ [event]) ∧
      ∀ call ∈ s'.calls, call ∈ s.calls ∨
        call.1 = event ∧ call.2.now = event.availableAt ∧
          call.2.observed = s.context.observed ++ [event] := by
  rw [deliver] at turn
  split at turn
  · cases turn
    exact ⟨fun impossible => (by cases impossible), fun call listed => Or.inl listed⟩
  next moved advanced =>
    obtain ⟨now, kept⟩ := advanceTo_ok advanced
    split at turn
    · cases turn
      exact ⟨fun impossible => (by cases impossible), fun call listed => Or.inl listed⟩
    next context taken =>
      obtain ⟨still, observed⟩ := observe_ok taken
      rw [now] at still
      rw [kept] at observed
      -- from here on the event is delivered, whatever its handler does
      have called : ∀ call ∈ s.calls ++ [(event, context)], call ∈ s.calls ∨
          call.1 = event ∧ call.2.now = event.availableAt ∧
            call.2.observed = s.context.observed ++ [event] := by
        intro call listed
        rcases List.mem_append.mp listed with before | here
        · exact Or.inl before
        · rw [List.mem_singleton.mp here]
          exact Or.inr ⟨rfl, still, observed⟩
      split at turn
      · cases turn
        exact ⟨fun _ => observed, fun call listed => Or.inl listed⟩
      · split at turn
        · cases turn
          exact ⟨fun impossible => (by cases impossible), called⟩
        · cases turn
          exact ⟨fun _ => observed, called⟩

/-- A turn that does not raise adds the output of a handled event. -/
theorem deliver_outputs {s' : Progress} (turn : deliver rt engine event s = (s', none)) :
    ∃ added, s'.outputs = s.outputs ++ added ∧
      added.length = if engine.handles event then 1 else 0 := by
  rw [deliver] at turn
  split at turn
  · cases turn
  · split at turn
    · cases turn
    · split at turn
      next unhandled =>
        cases turn
        exact ⟨[], by simp, by simp [handles, unhandled]⟩
      next handler handled =>
        split at turn
        · cases turn
        next hash _ =>
          cases turn
          exact ⟨[hash], rfl, by simp [handles, handled]⟩

/-! ### Runs of turns -/

/-- A call is made with what was delivered up to its event. -/
theorem loop_calls (rest : List ReplayEvent) (s : Progress) {s' : Progress} {failed : Option Exc}
    (ended : loop rt engine rest s = (s', failed)) :
    ∀ call ∈ s'.calls, call ∈ s.calls ∨ ∃ before after, rest = before ++ call.1 :: after ∧
      call.2.now = call.1.availableAt ∧
      call.2.observed = s.context.observed ++ (before ++ [call.1]) := by
  induction rest generalizing s with
  | nil =>
    cases ended
    exact fun call listed => Or.inl listed
  | cons event rest ih =>
    intro call listed
    rw [loop] at ended
    split at ended
    next middle exc turn =>
      cases ended
      rcases (deliver_calls rt engine event s turn).2 call listed with before | ⟨rfl, now, observed⟩
      · exact Or.inl before
      · exact Or.inr ⟨[], rest, rfl, now, observed⟩
    next middle turn =>
      obtain ⟨delivered, calls⟩ := deliver_calls rt engine event s turn
      rcases ih middle ended call listed with before | ⟨before, after, split, now, observed⟩
      · rcases calls call before with earlier | ⟨rfl, now, observed⟩
        · exact Or.inl earlier
        · exact Or.inr ⟨[], rest, rfl, now, observed⟩
      · refine Or.inr ⟨event :: before, after, by rw [split, List.cons_append], now, ?_⟩
        rw [observed, delivered rfl]
        simp

/-- A loop that does not raise adds one output for every handled event. -/
theorem loop_outputs (rest : List ReplayEvent) (s : Progress) {s' : Progress}
    (ended : loop rt engine rest s = (s', none)) :
    ∃ added, s'.outputs = s.outputs ++ added ∧ added.length = rest.countP engine.handles := by
  induction rest generalizing s with
  | nil =>
    cases ended
    exact ⟨[], by simp, rfl⟩
  | cons event rest ih =>
    rw [loop] at ended
    split at ended
    · cases ended
    next middle turn =>
      obtain ⟨added, outputs, length⟩ := deliver_outputs turn
      obtain ⟨added', outputs', length'⟩ := ih middle ended
      refine ⟨added ++ added', by rw [outputs', outputs, List.append_assoc], ?_⟩
      rw [List.length_append, length, length', List.countP_cons, add_comm]

/-- A loop that does not raise has gone through each beginning of it. -/
theorem loop_append (before later : List ReplayEvent) (s : Progress) {s' : Progress}
    (ended : loop rt engine (before ++ later) s = (s', none)) :
    ∃ middle, loop rt engine before s = (middle, none) ∧
      loop rt engine later middle = (s', none) := by
  induction before generalizing s with
  | nil => exact ⟨s, rfl, ended⟩
  | cons event before ih =>
    rw [List.cons_append, loop] at ended
    split at ended
    · cases ended
    next next_ turn =>
      obtain ⟨middle, went, rest⟩ := ih next_ ended
      refine ⟨middle, ?_, rest⟩
      rw [loop, turn]
      exact went

/-! ### Runs -/

/-- A run that returns has gone through its events in causal order. -/
theorem run_ok {r : ReplayResult} (ok : (run rt engine events).result = .ok r) :
    (events.map ReplayEvent.eventId).Nodup ∧
      ∃ s, loop rt engine (ranking ReplayEvent.causalKey events) { context := engine.context } =
        (s, none) ∧ r.outputHashes = s.outputs := by
  rw [run] at ok
  split at ok
  · cases ok
  next distinct =>
    split at ok
    · cases ok
    · split at ok
      · cases ok
      next s ended =>
        have ids := ((ranking_perm ReplayEvent.causalKey events).map ReplayEvent.eventId).nodup_iff
        refine ⟨ids.mp (not_not.mp distinct), s, ended, ?_⟩
        obtain ⟨hashes, -, ok⟩ := bind_ok ok
        obtain ⟨replayHash, -, ok⟩ := bind_ok ok
        cases ok
        rfl

theorem run_perm (rt : ReplayRuntime) (engine : ReplayEngine) (same : events.Perm events')
    (distinct : (events.map ReplayEvent.eventId).Nodup) :
    run rt engine events = run rt engine events' := by
  rw [run, run, ranking_eq_of_perm (distinguished_of_ids distinct) same]

/-- A handler finds what was observed before the run and the events up to its own. -/
theorem run_calls (rt : ReplayRuntime) (engine : ReplayEngine) (events : List ReplayEvent) :
    ∀ call ∈ (run rt engine events).calls, call.1 ∈ events ∧
      call.2.now = call.1.availableAt ∧
      call.2.observed = engine.context.observed ++
        upTo call.1.causalKey (ranking ReplayEvent.causalKey events) := by
  intro call listed
  rw [run] at listed
  split at listed
  · cases listed
  next distinct =>
    split at listed
    · cases listed
    · have ids := ((ranking_perm ReplayEvent.causalKey events).map ReplayEvent.eventId).nodup_iff
      have strict := ranking_strict (distinguished_of_ids (ids.mp (not_not.mp distinct)))
      have calls : ∃ before after, ranking ReplayEvent.causalKey events =
          before ++ call.1 :: after ∧ call.2.now = call.1.availableAt ∧
          call.2.observed = engine.context.observed ++ (before ++ [call.1]) := by
        split at listed
        next s exc ended =>
          exact (loop_calls _ _ ended call listed).resolve_left List.not_mem_nil
        next s ended =>
          exact (loop_calls _ _ ended call listed).resolve_left List.not_mem_nil
      obtain ⟨before, after, split, now, observed⟩ := calls
      have member : call.1 ∈ ranking ReplayEvent.causalKey events := by simp [split]
      refine ⟨(ranking_perm _ events).mem_iff.mp member, now, ?_⟩
      rw [split] at strict
      rw [observed, split, upTo_event strict]

/-- Runs whose events are the same up to a place agree on the outputs of these events. -/
theorem run_prefix {key : Time ×ₗ ℤ ×ₗ Time ×ₗ String} {r r' : ReplayResult}
    (same : (upTo key events).Perm (upTo key events'))
    (ok : (run rt engine events).result = .ok r) (ok' : (run rt engine events').result = .ok r') :
    ∃ outputs, outputs.length = (upTo key events).countP engine.handles ∧
      outputs <+: r.outputHashes ∧ outputs <+: r'.outputHashes := by
  obtain ⟨distinct, s, ended, hashes⟩ := run_ok ok
  obtain ⟨distinct', s', ended', hashes'⟩ := run_ok ok'
  obtain ⟨later, split⟩ := upTo_append key (ranking_strict (distinguished_of_ids distinct))
  obtain ⟨later', split'⟩ := upTo_append key (ranking_strict (distinguished_of_ids distinct'))
  rw [← upTo_ranking_congr distinct distinct' same] at split'
  rw [split] at ended
  rw [split'] at ended'
  obtain ⟨middle, went, rest⟩ := loop_append _ _ _ ended
  obtain ⟨middle', went', rest'⟩ := loop_append _ _ _ ended'
  -- both runs have gone through the same beginning
  obtain rfl : middle = middle' := congrArg Prod.fst (went.symm.trans went')
  obtain ⟨outputs, started, length⟩ := loop_outputs _ _ went
  obtain ⟨added, all, -⟩ := loop_outputs _ _ rest
  obtain ⟨added', all', -⟩ := loop_outputs _ _ rest'
  rw [List.nil_append] at started
  have sorted : (upTo key (ranking ReplayEvent.causalKey events)).Perm (upTo key events) :=
    (ranking_perm _ events).filter _
  refine ⟨outputs, by rw [length, sorted.countP_eq], ⟨added, ?_⟩, ⟨added', ?_⟩⟩
  · rw [hashes, all, started]
  · rw [hashes', all', started]

/-- A replay is causal: it does not depend on the order of the list, a handler sees what was
observed before the run and exactly the events up to its own, none of which is later than
the clock, and the outputs up to a place do not depend on the events after it. -/
theorem replay_causal (rt : ReplayRuntime) (engine : ReplayEngine) :
    (∀ events events', events.Perm events' → (events.map ReplayEvent.eventId).Nodup →
      run rt engine events = run rt engine events') ∧
    (∀ events, ∀ call ∈ (run rt engine events).calls, call.1 ∈ events ∧
      call.2.now = call.1.availableAt ∧
      call.2.events none = engine.context.observed ++
        upTo call.1.causalKey (ranking ReplayEvent.causalKey events) ∧
      (∀ kind, call.2.events (some kind) =
        (call.2.events none).filter fun event => event.kind == kind) ∧
      ∀ event ∈ call.2.events none, event.availableAt ≤ call.2.now) ∧
    ∀ key events events' r r', (upTo key events).Perm (upTo key events') →
      (run rt engine events).result = .ok r → (run rt engine events').result = .ok r' →
      ∃ outputs, outputs.length = (upTo key events).countP engine.handles ∧
        outputs <+: r.outputHashes ∧ outputs <+: r'.outputHashes := by
  refine ⟨fun events events' => run_perm rt engine, fun events call listed => ?_,
    fun key events events' r r' => run_prefix⟩
  obtain ⟨member, now, observed⟩ := run_calls rt engine events call listed
  have all : call.2.events none = call.2.observed := by
    rw [call.2.events_eq]
    simp
  refine ⟨member, now, all.trans observed, fun kind => ?_, ?_⟩
  · rw [all, call.2.events_eq]
    simp
  · rw [all]
    exact call.2.available

namespace EngineSample

/-- A digest that tells numbers apart. -/
def digests : ReplayRuntime where
  sha256Json := fun value =>
    match value with
    | .scalar (.int n) => .ok (toString n)
    | _ => .ok "digest"
  str := fun at_ => toString at_

theorem quote_named (id : String) (ne : id ≠ "") : id ≠ "" ∧ "quote" ≠ "" := ⟨ne, by simp⟩

def quoteAt (id : String) (ne : id ≠ "") (at_ : Time) : ReplayEvent where
  eventId := id
  kind := "quote"
  effectiveAt := at_
  availableAt := at_
  payload := .mapping []
  named := quote_named id ne
  ordered := le_rfl
  sequence_nonneg := le_rfl

theorem first_named : "first" ≠ "" := by simp

theorem later_named : "later" ≠ "" := by simp

theorem versions_named : "strategy-v1" ≠ "" ∧ "config-v1" ≠ "" := by simp

/-- An engine whose only handler counts what it sees. -/
def counting : ReplayEngine where
  mode := .deterministicRegression
  strategyVersion := "strategy-v1"
  configVersion := "config-v1"
  handlers := Dict.empty.set "quote" fun _ context =>
    .ok (.scalar (.int (context.events none).length))
  context := .fresh 0
  versioned := versions_named

end EngineSample

open EngineSample in
theorem replay_causal_swapped :
    run digests counting [quoteAt "later" later_named 2, quoteAt "first" first_named 1] =
      run digests counting [quoteAt "first" first_named 1, quoteAt "later" later_named 2] :=
  (replay_causal digests counting).1 _ _ (.swap _ _ []) (by simp [quoteAt])

end ReplayEngine

end Sentry
