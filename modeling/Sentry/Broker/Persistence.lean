import Sentry.Broker.RoundTrip
import Sentry.Support.Locked

/-!
# What the recorder was given

The parts of `SimulatedBroker` and `RobinhoodShadowBroker` that run under the broker's
lock, with every await a suspension point: the write firewall, the recorder of commands
and the recorder of snapshots. A call that is refused before it takes the lock, and what
a shadow review does after it has released it, touch neither the ledger nor the commands.

A broker is honest when its flag can be trusted: as long as it says that its state is
persisted, the snapshot the recorder accepted last is the state the broker would export.
-/
namespace Sentry

open Support Coroutine LocalBroker Relation

/-- An operation awaited under the lock. -/
inductive RecorderOp where
  | evaluateFirewall (command : BrokerCommandIntent)
  | recordCommand (command : BrokerCommandIntent)
  | recordState (snapshot : LedgerSnapshot)

/-- A broker, its clock and the snapshots its recorder has accepted. -/
structure Recorded where
  broker : LocalBroker
  now : Time
  stored : List LedgerSnapshot := []

abbrev Guarded (α : Type) := Coroutine Recorded Exc (fun _ : RecorderOp => Unit) α

inductive BrokerKind where
  | simulated
  | shadow
  deriving DecidableEq

/-- What a broker is constructed with. Its state recorder is always there. -/
structure Recorder where
  context : Decimal.Context
  ledger : LedgerConfig
  commandRecorder : Bool

namespace Recorder

variable (R : Recorder)

def setDirty (dirty : Bool) (g : Recorded) : Recorded :=
  { g with broker := { g.broker with stateDirty := dirty } }

def recordBrokerCommandIntent (command : BrokerCommandIntent) : Guarded Unit := do
  let b ← peek Recorded.broker
  match b.recordedCommands.get? command.commandIntentId with
  | some existing =>
    raiseIf (existing.commandHash R.ledger.hashing != command.commandHash R.ledger.hashing)
      (.safetyCritical "command intent ID was reused with different content")
  | none =>
    match b.commandIdempotency.get? command.idempotencyKey with
    | some existingId =>
      match b.recordedCommands.get? existingId with
      | none => raise (.unlisted "KeyError")
      | some other =>
        raiseIf (other.commandHash R.ledger.hashing != command.commandHash R.ledger.hashing)
          (.safetyCritical "broker idempotency key was reused for a different command")
    | none =>
      -- the recorder comes first, so that a failure leaves the command unrecorded
      if R.commandRecorder then call (.recordCommand command) else pure ()
      change fun g => { g with broker := withCommand command g.broker }

/-- `_persist_state`. -/
def persistState : Guarded Unit := do
  change (setDirty true)
  let g ← peek id
  let snapshot ← lift (g.broker.exportState R.ledger g.now)
  call (.recordState snapshot)
  change (setDirty false)

/-- A ledger operation, at the time of the clock. -/
def applied (op : ShadowLedger.Op) (g : Recorded) : ShadowLedger.Answer × ShadowLedger :=
  g.broker.ledger.perform R.context R.ledger g.now op

/-- A ledger operation and the persistence of its outcome. -/
def applyToLedger (op : ShadowLedger.Op) : Guarded Unit := do
  let answer ← peek fun g => (R.applied op g).1
  change fun g => { g with broker := { g.broker with ledger := (R.applied op g).2 } }
  match answer.raised? with
  | some e => raise e
  | none => R.persistState

/-- `_ensure_clean`. -/
def ensureClean (text : String) : Guarded Unit := do
  let dirty ← peek fun g => g.broker.stateDirty
  raiseIf dirty (.safetyCritical text)

/-- `_deny_write`. -/
def denyWrite (command : BrokerCommandIntent) : Guarded Unit := do
  raiseIf (command.environment != .demo || command.namespace_ != R.ledger.namespace_)
    (.safetyCritical "shadow command does not match the immutable runtime binding")
  call (.evaluateFirewall command)

/-- What a call does with the command it carries, if it carries one. -/
def withCommandOf (c : Call) (f : BrokerCommandIntent → Guarded Unit) : Guarded Unit :=
  match c.command? with
  | some command => f command
  | none => pure ()

/-- The operations of `SimulatedBroker`, from the acquisition of its lock to its release. -/
def simulatedCall (c : Call) : Guarded Unit :=
  match c.op? with
  | none => R.persistState
  | some op => do
    ensureClean SimulatedBroker.dirtyText
    withCommandOf c R.recordBrokerCommandIntent
    R.applyToLedger op

/-- The operations of `RobinhoodShadowBroker`, from the acquisition of its lock to its
release. The state is dirty from before the first mutation on. -/
def shadowCall (c : Call) : Guarded Unit :=
  match c.op? with
  | none => R.persistState
  | some op => do
    ensureClean RobinhoodShadowBroker.dirtyText
    withCommandOf c R.denyWrite
    change (setDirty true)
    withCommandOf c R.recordBrokerCommandIntent
    R.applyToLedger op

def body : BrokerKind → Call → Guarded Unit
  | .simulated => R.simulatedCall
  | .shadow => R.shadowCall

/-- Whether `reconcile` reports success: the ledger has no discrepancies, nor has what was
observed at the real broker, and nothing is unpersisted. -/
def reconciles (observed : List String) (g : Recorded) : Bool :=
  (g.broker.ledger.invariantDiscrepancies R.context).isEmpty && observed.isEmpty &&
    !g.broker.stateDirty

/-! ### Calls without interruption -/

/-- The outside of a call that answers at once. -/
def answering (out : Outside) (op : RecorderOp) (g : Recorded) : Except Exc Unit × Recorded :=
  match op with
  | .evaluateFirewall _ => (out.firewall, g)
  | .recordCommand _ => (out.commandRecorder.getD (.ok ()), g)
  | .recordState snapshot =>
    match out.stateRecorder.getD (.ok ()) with
    | .ok () => (.ok (), { g with stored := g.stored ++ [snapshot] })
    | .error e => (.error e, g)

/-- What an uninterrupted program makes of the broker. -/
def outcome (out : Outside) (p : Guarded Unit) (g : Recorded) : Except Exc Unit × LocalBroker :=
  Prod.map id Recorded.broker (p.run (answering out) g)

section Atomic

variable {R} {out : Outside} {g : Recorded}

theorem outcome_bind (p q : Guarded Unit) :
    outcome out (p >>= fun _ => q) g = match p.run (answering out) g with
      | (.ok _, g') => outcome out q g'
      | (.error e, g') => (.error e, g'.broker) := by
  unfold outcome
  rw [run_bind]
  cases p.run (answering out) g with
  | mk r g' => cases r <;> rfl

theorem outcome_persistState (there : out.stateRecorder.isSome = true) :
    outcome out R.persistState g = LocalBroker.persistState R.ledger g.now out g.broker := by
  obtain ⟨recorder, found⟩ := Option.isSome_iff_exists.mp there
  have export_ : ∀ dirty, LocalBroker.exportState R.ledger g.now
      { g.broker with stateDirty := dirty } = g.broker.exportState R.ledger g.now := fun _ => rfl
  unfold LocalBroker.persistState
  rw [found]
  change Prod.map id Recorded.broker (Coroutine.run (answering out)
    (lift (LocalBroker.exportState R.ledger g.now { g.broker with stateDirty := true }) >>= _)
    (setDirty true g)) = _
  rw [export_, run_bind]
  cases exported : g.broker.exportState R.ledger g.now with
  | error e => rfl
  | ok snapshot =>
    cases recorder with
    | error e => simp [lift, Coroutine.run, Coroutine.call, run_bind, answering, found, setDirty]
    | ok u => simp [lift, Coroutine.run, Coroutine.call, run_bind, answering, found, setDirty, change]

theorem run_record (same : R.commandRecorder = out.commandRecorder.isSome)
    (command : BrokerCommandIntent) :
    (R.recordBrokerCommandIntent command).run (answering out) g =
      ((LocalBroker.recordBrokerCommandIntent R.ledger out command g.broker).1,
        { g with broker := (LocalBroker.recordBrokerCommandIntent R.ledger out command g.broker).2 }) := by
  unfold recordBrokerCommandIntent LocalBroker.recordBrokerCommandIntent
  change Coroutine.run _ (match g.broker.recordedCommands.get? command.commandIntentId with
    | some existing => _
    | none => _) g = _
  cases g.broker.recordedCommands.get? command.commandIntentId with
  | some existing =>
    dsimp only
    split
    next differs => simp [raiseIf, differs, Coroutine.run]
    next equal => simp [raiseIf, not_not.mp equal, Coroutine.run]
  | none =>
    dsimp only
    cases g.broker.commandIdempotency.get? command.idempotencyKey with
    | some existingId =>
      dsimp only
      cases g.broker.recordedCommands.get? existingId with
      | none => rfl
      | some other =>
        dsimp only
        split
        next differs => simp [raiseIf, differs, Coroutine.run]
        next equal => simp [raiseIf, not_not.mp equal, Coroutine.run]
    | none =>
      dsimp only
      rw [same]
      cases found : out.commandRecorder with
      | none => rfl
      | some recorder =>
        rw [if_pos (by rfl), run_bind]
        simp only [Coroutine.call, Coroutine.run, answering, found, Option.getD_some]
        cases recorder <;> rfl

theorem outcome_applyToLedger (there : out.stateRecorder.isSome = true) (op : ShadowLedger.Op) :
    outcome out (R.applyToLedger op) g =
      settle (LocalBroker.applyToLedger R.context R.ledger g.now out op g.broker) := by
  have performed : g.broker.ledger.perform R.context R.ledger g.now op = R.applied op g := rfl
  have started : outcome out (R.applyToLedger op) g = Prod.map id Recorded.broker
      (Coroutine.run (answering out) _
        { g with broker := { g.broker with ledger := (R.applied op g).2 } }) := rfl
  rw [started, LocalBroker.applyToLedger, performed]
  dsimp only
  cases R.applied op g with
  | mk answer ledger =>
    dsimp only
    cases answer.raised? with
    | some e => rfl
    | none =>
      change outcome out R.persistState _ = _
      rw [outcome_persistState there]
      dsimp only
      cases LocalBroker.persistState R.ledger g.now out { g.broker with ledger := ledger } with
      | mk r b => cases r <;> rfl

theorem outcome_recordAndApply (there : out.stateRecorder.isSome = true)
    (same : R.commandRecorder = out.commandRecorder.isSome) (command : BrokerCommandIntent)
    (op : ShadowLedger.Op) :
    outcome out (R.recordBrokerCommandIntent command >>= fun _ => R.applyToLedger op) g =
      settle (recordAndApply R.context R.ledger g.now out command op g.broker) := by
  rw [outcome_bind, run_record same]
  unfold recordAndApply
  cases LocalBroker.recordBrokerCommandIntent R.ledger out command g.broker with
  | mk r b =>
    cases r with
    | error e => rfl
    | ok u => exact outcome_applyToLedger there op

theorem outcome_ensureClean (text : String) (p : Guarded Unit)
    {work : LocalBroker → Except Exc ShadowLedger.Answer × LocalBroker}
    (works : outcome out p g = settle (work g.broker)) :
    outcome out (ensureClean text >>= fun _ => p) g =
      settle (LocalBroker.ensureClean text g.broker work) := by
  rw [outcome_bind]
  unfold LocalBroker.ensureClean
  cases dirty : g.broker.stateDirty with
  | true => simp [ensureClean, run_bind, peek, raiseIf, Coroutine.run, dirty, LocalBroker.settle, Except.map]
  | false => simpa [ensureClean, run_bind, peek, raiseIf, Coroutine.run, dirty] using works

/-- A call of the simulated broker that is answered at once is the call as one step. -/
theorem outcome_simulatedCall (validated : out.validateCommand = .ok ())
    (there : out.stateRecorder.isSome = true)
    (same : R.commandRecorder = out.commandRecorder.isSome) (c : Call) :
    outcome out (R.simulatedCall c) g =
      SimulatedBroker.call R.context R.ledger g.now out c g.broker := by
  unfold SimulatedBroker.call
  rw [validated]
  cases c with
  | flushState => exact outcome_persistState there
  | place command contract =>
    exact outcome_ensureClean _ _ (outcome_recordAndApply there same command _)
  | cancel command ref =>
    exact outcome_ensureClean _ _ (outcome_recordAndApply there same command _)
  | _ => exact outcome_ensureClean _ _ (outcome_applyToLedger there _)

/-- The calls that the shadow broker does not refuse before it takes its lock. -/
def Enters : Call → Prop
  | .review _ proposal => proposal.environment = .demo
  | .place command _ => command.action = .placeOptionOrder
  | .cancel command _ => command.action = .cancelOptionOrder
  | _ => True

theorem run_denyWrite (command : BrokerCommandIntent) :
    (R.denyWrite command).run (answering out) g =
      (RobinhoodShadowBroker.denyWrite R.ledger out command, g) := by
  unfold denyWrite RobinhoodShadowBroker.denyWrite
  by_cases foreign : command.environment ≠ .demo ∨ command.namespace_ ≠ R.ledger.namespace_
  · rw [if_pos foreign, run_bind]
    have raised : (command.environment != .demo || command.namespace_ != R.ledger.namespace_) =
        true := by simpa using foreign
    simp [raiseIf, raised, Coroutine.run]
  · rw [if_neg foreign, run_bind]
    have passed : (command.environment != .demo || command.namespace_ != R.ledger.namespace_) =
        false := by simpa using foreign
    simp only [raiseIf, passed, Coroutine.run, Coroutine.call, answering, Bool.false_eq_true, if_false]
    cases out.firewall <;> rfl

theorem setDirty_beginMutation (there : out.stateRecorder.isSome = true) :
    (setDirty true g).broker = RobinhoodShadowBroker.beginMutation out g.broker := by
  unfold RobinhoodShadowBroker.beginMutation
  rw [if_pos there]
  rfl

/-- A call of the shadow broker that comes to its lock and is answered at once leaves the
state that the call as one step leaves. -/
theorem outcome_shadowCall (validated : out.validateCommand = .ok ())
    (there : out.stateRecorder.isSome = true)
    (same : R.commandRecorder = out.commandRecorder.isSome) {c : Call} (enters : Enters c) :
    (outcome out (R.shadowCall c) g).2 =
      (RobinhoodShadowBroker.call R.context R.ledger g.now out c g.broker).2 := by
  -- what a call without a command does under the lock
  have plain : ∀ op, outcome out (change (setDirty true) >>= fun _ => R.applyToLedger op) g =
      settle (LocalBroker.applyToLedger R.context R.ledger g.now out op
        (RobinhoodShadowBroker.beginMutation out g.broker)) := by
    intro op
    rw [← setDirty_beginMutation there]
    exact outcome_applyToLedger there op
  -- and one with a command, once the firewall has seen it
  have written : ∀ command op, outcome out (R.denyWrite command >>= fun _ =>
      change (setDirty true) >>= fun _ => R.recordBrokerCommandIntent command >>= fun _ =>
        R.applyToLedger op) g =
      settle (RobinhoodShadowBroker.write R.context R.ledger g.now out command op g.broker) := by
    intro command op
    rw [outcome_bind, run_denyWrite]
    unfold RobinhoodShadowBroker.write
    cases RobinhoodShadowBroker.denyWrite R.ledger out command with
    | error e => rfl
    | ok u =>
      rw [← setDirty_beginMutation there]
      exact outcome_recordAndApply there same command op
  unfold RobinhoodShadowBroker.call
  rw [validated]
  cases c with
  | flushState => exact congrArg Prod.snd (outcome_persistState there)
  | review ids proposal =>
    have demo : proposal.environment = .demo := enters
    dsimp only
    rw [if_neg (not_not.mpr demo)]
    have step : outcome out (R.shadowCall (.review ids proposal)) g =
        settle (LocalBroker.ensureClean RobinhoodShadowBroker.dirtyText g.broker fun b =>
          LocalBroker.applyToLedger R.context R.ledger g.now out (.review ids proposal)
            (RobinhoodShadowBroker.beginMutation out b)) :=
      outcome_ensureClean _ _ (plain _)
    refine (congrArg Prod.snd step).trans ?_
    split
    next failed => rw [failed]
    next done => rw [done]
  | place command contract =>
    have placement : command.action = .placeOptionOrder := enters
    dsimp only
    rw [if_neg (not_not.mpr placement)]
    exact congrArg Prod.snd (outcome_ensureClean _ _ (written command _))
  | cancel command ref =>
    have cancellation : command.action = .cancelOptionOrder := enters
    dsimp only
    rw [if_neg (not_not.mpr cancellation)]
    exact congrArg Prod.snd (outcome_ensureClean _ _ (written command _))
  | _ => exact congrArg Prod.snd (outcome_ensureClean _ _ (plain _))

end Atomic

/-! ### Runs -/

/-- A recorder that returns has accepted its snapshot; one that fails, or is cut off, may
have accepted it as well. Nothing else that is awaited touches the state. -/
def performs : (op : RecorderOp) → Recorded → Except Exc Unit → Recorded → Prop
  | .recordState snapshot, g, r, g' =>
    g' = { g with stored := g.stored ++ [snapshot] } ∨ g' = g ∧ ∃ e, r = .error e
  | _, g, _, g' => g' = g

/-- Which calls a run makes, and which commands it hands to `record_broker_command_intent`
directly, past the lock. -/
structure Terms where
  calls : Call → Recorded → Prop
  direct : BrokerCommandIntent → Recorded → Prop

inductive Event (terms : Terms) (g : Recorded) : Recorded → Prop where
  | clock (now : Time) : Event terms g { g with now := now }
  | direct (command : BrokerCommandIntent) (allowed : terms.direct command g) :
      Event terms g { g with
        broker := (LocalBroker.recordBrokerCommandIntent R.ledger {} command g.broker).2 }

def world (kind : BrokerKind) (terms : Terms) :
    Locked Recorded Exc (fun _ : RecorderOp => Unit) Unit Call where
  body := R.body kind
  performs := performs
  event := R.Event terms
  admits := terms.calls

/-! ### Honesty -/

/-- As long as the flag says so, the recorder has what the broker would export, at whatever
time it is exported. -/
def Honest (g : Recorded) : Prop :=
  ∀ last, g.stored.getLast? = some last → g.broker.stateDirty = false →
    ∀ time, g.broker.exportState R.ledger time = .ok (last.at_ time)

/-- The broker has recorded the command, or its idempotency key, before. -/
def Known (command : BrokerCommandIntent) (b : LocalBroker) : Prop :=
  b.recordedCommands.get? command.commandIntentId ≠ none ∨
    b.commandIdempotency.get? command.idempotencyKey ≠ none

/-- A ledger operation that raises has left the ledger as it was, and came with no command
that the broker had to record first. -/
def Tidy (c : Call) (g : Recorded) : Prop :=
  ∀ op e, c.op? = some op → (R.applied op g).1.raised? = some e →
    (R.applied op g).2 = g.broker.ledger ∧ ∀ command, c.command? = some command →
      Known command g.broker

/-- The runs that keep a broker of some kind honest. -/
structure Terms.Fair (terms : Terms) (kind : BrokerKind) : Prop where
  calls : ∀ c g, terms.calls c g → kind = .simulated → R.Tidy c g
  direct : ∀ command g, terms.direct command g → Known command g.broker

variable {R} {kind : BrokerKind} {terms : Terms} {g g' : Recorded}

theorem honest_of_dirty (dirty : g.broker.stateDirty = true) : R.Honest g := by
  intro last _ clean
  rw [dirty] at clean
  cases clean

theorem Honest.of_same (honest : R.Honest g) (broker : g'.broker = g.broker)
    (stored : g'.stored = g.stored) : R.Honest g' := by
  unfold Honest
  rw [broker, stored]
  exact honest

theorem record_known {command : BrokerCommandIntent} {b : LocalBroker} (known : Known command b) :
    (LocalBroker.recordBrokerCommandIntent R.ledger {} command b).2 = b := by
  rcases record_cases R.ledger {} command b with
    ⟨e, refused⟩ | ⟨c, found, -⟩ | ⟨id, c, found, -⟩ | ⟨-, newId, newKey⟩
  · rw [refused]
  · rw [found]
  · rw [found]
  · rcases known with known | known
    · exact absurd newId known
    · exact absurd newKey known

theorem event_same (fair : terms.Fair R kind) (event : R.Event terms g g') :
    g'.broker = g.broker ∧ g'.stored = g.stored := by
  cases event with
  | clock now => exact ⟨rfl, rfl⟩
  | direct command allowed => exact ⟨record_known (fair.direct command g allowed), rfl⟩

/-- Whether the ledger raises on an order does not depend on the time, nor on the commands
that are recorded. -/
theorem applied_raised {c : Call} {op : ShadowLedger.Op} {command : BrokerCommandIntent}
    (comes : c.op? = some op) (carried : c.command? = some command)
    (ledger : g'.broker.ledger = g.broker.ledger) :
    (R.applied op g').1.raised? = (R.applied op g).1.raised? := by
  unfold applied
  rw [ledger]
  cases c with
  | place command contract =>
    cases comes
    change raised (ShadowLedger.submit _ _ _ _ _ _).1 = raised (ShadowLedger.submit _ _ _ _ _ _).1
    unfold ShadowLedger.submit
    split
    · rfl
    · split <;> rfl
  | cancel command ref =>
    cases comes
    rfl
  | _ => cases carried

/-! ### What is known after an await -/

section Awaits

variable (fair : terms.Fair R kind)
include fair

theorem nudge_same {op : RecorderOp} (nudge : (R.world kind terms).Nudge (fun _ => True) op g g') :
    g'.broker = g.broker ∧ (g'.stored = g.stored ∨
      ∃ snapshot, op = .recordState snapshot ∧ g'.stored = g.stored ++ [snapshot]) := by
  obtain ⟨-, -, event | ⟨r, performed⟩⟩ := nudge
  · obtain ⟨broker, stored⟩ := event_same fair event
    exact ⟨broker, Or.inl stored⟩
  · cases op with
    | recordState snapshot =>
      rcases performed with rfl | ⟨rfl, -⟩
      · exact ⟨rfl, Or.inr ⟨snapshot, rfl, rfl⟩⟩
      · exact ⟨rfl, Or.inl rfl⟩
    | evaluateFirewall command =>
      obtain rfl : g' = g := performed
      exact ⟨rfl, Or.inl rfl⟩
    | recordCommand command =>
      obtain rfl : g' = g := performed
      exact ⟨rfl, Or.inl rfl⟩

/-- Nothing but the recorder of snapshots changes what is stored. -/
theorem nudges_same {op : RecorderOp}
    (nudges : ReflTransGen ((R.world kind terms).Nudge (fun _ => True) op) g g') :
    g'.broker = g.broker ∧ ((∀ snapshot, op ≠ .recordState snapshot) → g'.stored = g.stored) := by
  induction nudges with
  | refl => exact ⟨rfl, fun _ => rfl⟩
  | tail _ nudge ih =>
    obtain ⟨broker, stored⟩ := nudge_same fair nudge
    refine ⟨broker.trans ih.1, fun other => ?_⟩
    rcases stored with same | ⟨snapshot, recording, -⟩
    · exact same.trans (ih.2 other)
    · exact absurd recording (other snapshot)

/-- A snapshot that was stored last stays the last while it is being recorded. -/
theorem nudges_last {snapshot : LedgerSnapshot} (last : g.stored.getLast? = some snapshot)
    (nudges : ReflTransGen ((R.world kind terms).Nudge (fun _ => True) (.recordState snapshot))
      g g') :
    g'.stored.getLast? = some snapshot := by
  induction nudges with
  | refl => exact last
  | tail _ nudge ih =>
    rcases (nudge_same fair nudge).2 with same | ⟨other, recording, appended⟩
    · rw [same]
      exact ih
    · cases recording
      rw [appended]
      exact List.getLast?_concat

theorem relied_recordState {snapshot : LedgerSnapshot} {r : Except Exc Unit}
    (relied : (R.world kind terms).Relied (fun _ => True) (.recordState snapshot) g r g') :
    g'.broker = g.broker ∧ (∀ u, r = .ok u → g'.stored.getLast? = some snapshot) := by
  refine ⟨(nudges_same fair relied.moved).1, fun u ok => ?_⟩
  obtain ⟨m, m', -, -, performed, after⟩ := relied.answered u ok
  rcases performed with rfl | ⟨-, e, failed⟩
  · exact nudges_last fair List.getLast?_concat after
  · cases failed

/-- A persisted state is honest, and one that could not be persisted stays dirty. -/
theorem sat_persistState {h : List (Done Exc fun _ : RecorderOp => Unit)} :
    Sat ⟨fun _ _ _ => True, (R.world kind terms).Relied fun _ => True⟩ (fun _ g _ => R.Honest g)
      R.persistState h g := by
  refine Sat.change_bind (Sat.peek_bind (Sat.lift_bind ?_ ?_))
  · exact fun e _ => honest_of_dirty rfl
  intro snapshot exported
  refine Sat.call_bind trivial ?_ ?_
  · intro e g' relied
    apply honest_of_dirty
    rw [(relied_recordState fair relied).1]
    rfl
  · intro u g' relied
    obtain ⟨broker, stored⟩ := relied_recordState fair relied
    intro last latest _ time
    obtain rfl : snapshot = last := Option.some.inj ((stored u rfl).symm.trans latest)
    have again := ShadowLedger.exportState_at R.ledger _ time _ _ exported
    change LocalBroker.exportState R.ledger time { g'.broker with stateDirty := false } = _
    rw [broker]
    exact again

omit fair in
theorem sat_ensureClean {text : String} {f : Unit → Guarded Unit}
    {S : Spec Recorded Exc fun _ : RecorderOp => Unit}
    {Q : Post Recorded Exc (fun _ : RecorderOp => Unit) Unit}
    {h : List (Done Exc fun _ : RecorderOp => Unit)}
    (refused : ∀ e, Q h g (.error e)) (clean : Sat S Q (f ()) h g) :
    Sat S Q (ensureClean text >>= f) h g := by
  rw [sat_bind]
  exact Sat.peek_bind ((sat_raiseIf ..).mpr ⟨fun _ => refused _, fun _ => clean⟩)

theorem sat_applyToLedger {op : ShadowLedger.Op} {h : List (Done Exc fun _ : RecorderOp => Unit)}
    (raised : ∀ e, (R.applied op g).1.raised? = some e →
      R.Honest { g with broker := { g.broker with ledger := (R.applied op g).2 } }) :
    Sat ⟨fun _ _ _ => True, (R.world kind terms).Relied fun _ => True⟩ (fun _ g _ => R.Honest g)
      (R.applyToLedger op) h g := by
  refine Sat.peek_bind (Sat.change_bind ?_)
  split
  next e failed => exact raised e failed
  · exact sat_persistState fair

/-- Recording a command refuses it, finds it, or writes it. -/
theorem sat_record {command : BrokerCommandIntent}
    {h : List (Done Exc fun _ : RecorderOp => Unit)}
    {Q : Post Recorded Exc (fun _ : RecorderOp => Unit) Unit}
    (refused : ∀ h g' e, g'.broker = g.broker → g'.stored = g.stored → Q h g' (.error e))
    (found : Known command g.broker → Q h g (.ok ()))
    (recorded : ∀ h g', ¬ Known command g.broker → g'.broker = withCommand command g.broker →
      g'.stored = g.stored → Q h g' (.ok ())) :
    Sat ⟨fun _ _ _ => True, (R.world kind terms).Relied fun _ => True⟩ Q
      (R.recordBrokerCommandIntent command) h g := by
  refine Sat.peek_bind ?_
  split
  next existing byId =>
    rw [sat_raiseIf]
    exact ⟨fun _ => refused _ _ _ rfl rfl, fun _ => found (Or.inl (by simp [byId]))⟩
  next byId =>
    split
    next existingId byKey =>
      split
      · exact refused _ _ _ rfl rfl
      · rw [sat_raiseIf]
        exact ⟨fun _ => refused _ _ _ rfl rfl, fun _ => found (Or.inr (by simp [byKey]))⟩
    next byKey =>
      have unknown : ¬ Known command g.broker := by simp [Known, byId, byKey]
      split
      · refine Sat.call_bind trivial ?_ ?_
        · intro e g' relied
          obtain ⟨broker, stored⟩ := nudges_same fair relied.moved
          refine refused _ g' e broker (stored fun _ equal => ?_)
          cases equal
        · intro u g' relied
          obtain ⟨broker, stored⟩ := nudges_same fair relied.moved
          refine recorded _ _ unknown (congrArg (withCommand command) broker) (stored fun _ equal => ?_)
          cases equal
      · exact recorded _ _ unknown rfl rfl

omit fair in
theorem sat_withCommandOf {c : Call} {f : BrokerCommandIntent → Guarded Unit}
    {rest : Unit → Guarded Unit} {S : Spec Recorded Exc fun _ : RecorderOp => Unit}
    {Q : Post Recorded Exc (fun _ : RecorderOp => Unit) Unit}
    {h : List (Done Exc fun _ : RecorderOp => Unit)}
    (carried : ∀ command, c.command? = some command → Sat S (Post.before S Q rest) (f command) h g)
    (bare : c.command? = none → Sat S Q (rest ()) h g) :
    Sat S Q (withCommandOf c f >>= rest) h g := by
  rw [sat_bind]
  unfold withCommandOf
  split
  next command found => exact carried command found
  next missing => exact bare missing

theorem sat_simulatedCall {c : Call} (simulated : kind = .simulated) (allowed : terms.calls c g)
    (honest : R.Honest g) :
    Sat ⟨fun _ _ _ => True, (R.world kind terms).Relied fun _ => True⟩ (fun _ g _ => R.Honest g)
      (R.simulatedCall c) [] g := by
  have tidy := fair.calls c g allowed simulated
  unfold simulatedCall
  split
  · exact sat_persistState fair
  next op comes =>
    refine sat_ensureClean (fun _ => honest) ?_
    -- where nothing has been recorded yet, what raises has changed nothing
    have untouched : ∀ e, (R.applied op g).1.raised? = some e →
        R.Honest { g with broker := { g.broker with ledger := (R.applied op g).2 } } := by
      intro e raised
      rw [(tidy op e comes raised).1]
      exact honest
    refine sat_withCommandOf ?_ fun _ => sat_applyToLedger fair untouched
    intro command carried
    refine sat_record fair (fun _ g' e broker stored => honest.of_same broker stored)
      (fun _ => sat_applyToLedger fair untouched) ?_
    intro h g' unknown broker stored
    refine sat_applyToLedger fair fun e raised => ?_
    have same : g'.broker.ledger = g.broker.ledger := by rw [broker]
    rw [applied_raised comes carried same] at raised
    exact absurd ((tidy op e comes raised).2 command carried) unknown

theorem sat_shadowCall {c : Call} (honest : R.Honest g) :
    Sat ⟨fun _ _ _ => True, (R.world kind terms).Relied fun _ => True⟩ (fun _ g _ => R.Honest g)
      (R.shadowCall c) [] g := by
  unfold shadowCall
  split
  · exact sat_persistState fair
  next op comes =>
    refine sat_ensureClean (fun _ => honest) ?_
    -- whatever is mutated, it is mutated while the state is dirty
    have mutation : ∀ {h} {g' : Recorded}, Sat
        ⟨fun _ _ _ => True, (R.world kind terms).Relied fun _ => True⟩ (fun _ g _ => R.Honest g)
        (change (setDirty true) >>= fun _ => withCommandOf c R.recordBrokerCommandIntent >>=
          fun _ => R.applyToLedger op) h g' := by
      intro h g'
      refine Sat.change_bind (sat_withCommandOf ?_ fun _ => ?_)
      · intro command carried
        refine sat_record fair ?_ ?_ ?_
        · intro h g'' e broker stored
          apply honest_of_dirty
          rw [broker]
          rfl
        · exact fun _ => sat_applyToLedger fair fun e _ => honest_of_dirty rfl
        · intro h g'' _ broker stored
          refine sat_applyToLedger fair fun e _ => honest_of_dirty ?_
          change g''.broker.stateDirty = true
          rw [broker]
          rfl
      · exact sat_applyToLedger fair fun e _ => honest_of_dirty rfl
    refine sat_withCommandOf ?_ fun _ => mutation
    intro command carried
    refine Sat.raiseIf_bind (fun _ => honest) fun bound => ?_
    rw [sat_call]
    refine ⟨trivial, fun r g' relied => ?_⟩
    obtain ⟨broker, stored⟩ := nudges_same fair relied.moved
    cases r with
    | error e => exact honest.of_same broker (stored nofun)
    | ok u => exact mutation

theorem sound : (R.world kind terms).Sound (fun _ => True) (fun _ _ _ => True) R.Honest where
  event := fun _ _ => trivial
  unheld := by
    intro g g' event _ honest
    obtain ⟨broker, stored⟩ := event_same fair event
    exact honest.of_same broker stored
  stable := fun _ _ _ => trivial
  perform := fun _ _ _ => trivial
  keeps := fun c => keeps_true _
  sat := by
    intro c g allowed _ honest
    cases kind with
    | simulated => exact sat_simulatedCall fair rfl allowed honest
    | shadow => exact sat_shadowCall fair honest

end Awaits

/-- Persistence honesty. Whenever nothing holds the lock and the broker says its state is
persisted, the snapshot its recorder accepted last is the state it would export, ledger and
commands alike; so a reconciliation that reports success never hides a mutation. -/
theorem persistence_honest (R : Recorder) (kind : BrokerKind) (terms : Terms)
    (fair : terms.Fair R kind) (g : Recorded) (unrecorded : g.stored = [])
    (s : Shared Recorded Exc (fun _ : RecorderOp => Unit) Unit)
    (run : (R.world kind terms).Reachable g s) (idle : s.session = none)
    (last : LedgerSnapshot) (latest : s.state.stored.getLast? = some last) :
    (s.state.broker.stateDirty = false → ∀ time,
        s.state.broker.exportState R.ledger time = .ok { last with recordedAt := time }) ∧
      ∀ observed, R.reconciles observed s.state = true → ∀ time,
        s.state.broker.exportState R.ledger time = .ok { last with recordedAt := time } := by
  have initially : R.Honest g := by
    intro last latest
    rw [unrecorded] at latest
    cases latest
  have honest := run.idle_invariant (sound fair) trivial initially idle
  refine ⟨honest last latest, fun observed success => honest last latest ?_⟩
  simp only [reconciles, Bool.and_eq_true, Bool.not_eq_true'] at success
  exact success.2

end Recorder

/-! ### A cancellation of an order the ledger does not know -/

namespace RecorderSample

def recorder : Recorder where
  context := .halfEven 28
  ledger := ShadowLedger.sampleConfig
  commandRecorder := true

def fresh : Recorded where
  broker := .fresh ShadowLedger.sampleConfig
  now := 10

/-- Recorders and a firewall that never fail. -/
def handler (op : RecorderOp) (g : Recorded) : Except Exc Unit × Recorded := Recorder.answering {} op g

def deposit : Call := .deposit 100 "scenario"

def cancelMissing : Call :=
  .cancel (ShadowLedger.sampleCommand 12 .cancelOptionOrder .buyToOpen 1 ⟨150, -2⟩) (.text "missing")

abbrev State := Shared Recorded Exc (fun _ : RecorderOp => Unit) Unit

/-- Make a call and let it end. -/
def complete (kind : BrokerKind) (c : Call) (s : State) : State :=
  (Shared.turn handler)^[2] (s.start (recorder.body kind c))

/-- A command that is handed to `record_broker_command_intent` from outside. -/
def record (s : State) : State :=
  s.move fun g => { g with
    broker := (LocalBroker.recordBrokerCommandIntent recorder.ledger {}
      (ShadowLedger.sampleCommand 12 .cancelOptionOrder .buyToOpen 1 ⟨150, -2⟩) g.broker).2 }

variable {kind : BrokerKind} {terms : Recorder.Terms} {s : State}

theorem performs_handler (op : RecorderOp) (g : Recorded) :
    Recorder.performs op g (handler op g).1 (handler op g).2 := by
  cases op with
  | recordState snapshot => exact Or.inl rfl
  | _ => rfl

theorem reachable_complete {c : Call} (allowed : terms.calls c s.state)
    (run : (recorder.world kind terms).Reachable fresh s) :
    (recorder.world kind terms).Reachable fresh (complete kind c s) :=
  (run.start c allowed).turns performs_handler 2

/-- The broker is idle, says its state is persisted and reconciles, and the snapshot that
was recorded last has fewer commands than the one it would export. -/
def hides (s : State) : Bool :=
  match s.session, s.state.stored.getLast?, s.state.broker.exportState recorder.ledger 20 with
  | none, some last, .ok snapshot =>
    !s.state.broker.stateDirty && recorder.reconciles [] s.state &&
      decide (last.recordedCommands.length < snapshot.recordedCommands.length)
  | _, _, _ => false

theorem of_hides (hidden : hides s = true) :
    s.session = none ∧ s.state.broker.stateDirty = false ∧ recorder.reconciles [] s.state = true ∧
      ∃ last, s.state.stored.getLast? = some last ∧
        s.state.broker.exportState recorder.ledger 20 ≠ .ok { last with recordedAt := 20 } := by
  unfold hides at hidden
  split at hidden
  next last snapshot idle latest exported =>
    simp only [Bool.and_eq_true, Bool.not_eq_true', decide_eq_true_eq] at hidden
    refine ⟨idle, hidden.1.1, hidden.1.2, last, latest, fun same => ?_⟩
    rw [exported] at same
    have fewer := hidden.2
    rw [Except.ok.inj same] at fewer
    exact lt_irrefl _ fewer
  · cases hidden

end RecorderSample

open RecorderSample in
/-- A deposit is recorded and can be relied on. -/
theorem Recorder.persistence_honest_deposit :
    ∃ last, (complete .simulated deposit ⟨fresh, none⟩).state.stored.getLast? = some last ∧
      (complete .simulated deposit ⟨fresh, none⟩).state.broker.exportState recorder.ledger 20 =
        .ok { last with recordedAt := 20 } := by
  have stored : ((complete .simulated deposit ⟨fresh, none⟩).state.stored.getLast?).isSome = true := by
    decide +kernel
  obtain ⟨last, latest⟩ := Option.isSome_iff_exists.mp stored
  have tidy : recorder.Tidy deposit fresh := by
    intro op e comes raised
    cases comes
    have fine : ((recorder.applied (.deposit 100 "scenario") fresh).1.raised?).isNone = true := by
      decide +kernel
    rw [Option.isNone_iff_eq_none.mp fine] at raised
    cases raised
  have run : (recorder.world .simulated ⟨recorder.Tidy, fun _ _ => False⟩).Reachable fresh
      (complete .simulated deposit ⟨fresh, none⟩) := reachable_complete tidy .refl
  exact ⟨last, latest, (Recorder.persistence_honest recorder .simulated
    ⟨recorder.Tidy, fun _ _ => False⟩ ⟨fun _ _ tidy _ => tidy, fun _ _ never => never.elim⟩ fresh rfl _ run (by decide +kernel) last
    latest).1 (by decide +kernel) 20⟩

open RecorderSample in
/-- The simulated broker records the command of a cancellation before the ledger refuses it,
and goes on to say that its state is persisted. So does either broker when a command is
handed to it past its lock. -/
theorem Recorder.persistence_hidden :
    (∃ s, (recorder.world .simulated ⟨fun _ _ => True, fun _ _ => False⟩).Reachable fresh s ∧
        s.session = none ∧ s.state.broker.stateDirty = false ∧
        recorder.reconciles [] s.state = true ∧ ∃ last, s.state.stored.getLast? = some last ∧
          s.state.broker.exportState recorder.ledger 20 ≠ .ok { last with recordedAt := 20 }) ∧
      ∃ s, (recorder.world .shadow ⟨fun _ _ => True, fun _ _ => True⟩).Reachable fresh s ∧
        s.session = none ∧ s.state.broker.stateDirty = false ∧
        recorder.reconciles [] s.state = true ∧ ∃ last, s.state.stored.getLast? = some last ∧
          s.state.broker.exportState recorder.ledger 20 ≠ .ok { last with recordedAt := 20 } := by
  constructor
  · exact ⟨complete .simulated cancelMissing (complete .simulated deposit ⟨fresh, none⟩),
      reachable_complete trivial (reachable_complete trivial .refl), of_hides (by decide +kernel)⟩
  · refine ⟨record (complete .shadow deposit ⟨fresh, none⟩), ?_, of_hides (by decide +kernel)⟩
    exact (reachable_complete trivial .refl).move (.direct _ trivial)

end Sentry
