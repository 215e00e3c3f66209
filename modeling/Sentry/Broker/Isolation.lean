import Sentry.Broker.RoundTrip
import Sentry.Ledger.Lifecycle

/-!
# Commands of another namespace

A command whose environment or namespace is not the ledger's should be refused, and leave
no trace. A placement checks both in the ledger, but after the broker has recorded it; a
cancellation checks the environment alone. Here is exactly when such a command is refused
without a trace, by the ledger and by the simulated broker.
-/
namespace Sentry

open Support LocalBroker

/-- The environment or the namespace of a command is not the ledger's. -/
def Foreign (cfg : LedgerConfig) (command : BrokerCommandIntent) : Prop :=
  command.environment ≠ .demo ∨ command.namespace_ ≠ cfg.namespace_

namespace ShadowLedger

section Ledger

variable {D : Decimal.Context} {cfg : LedgerConfig} {now : Time} {s : ShadowLedger}
  {command : BrokerCommandIntent}

theorem submit_foreign (foreign : Foreign cfg command) (contract : OptionContract) :
    ∃ e, submit D cfg now command contract s = (.error e, s) := by
  unfold submit validateCommand
  by_cases environment : command.environment = .demo
  · have namespace_ : command.namespace_ ≠ cfg.namespace_ := by
      rcases foreign with other | other
      · exact absurd environment other
      · exact other
    rw [if_neg (not_not.mpr environment), if_pos namespace_]
    exact ⟨_, rfl⟩
  · rw [if_pos environment]
    exact ⟨_, rfl⟩

/-- What a cancellation is refused for, whatever its namespace. -/
def RefusesCancel (command : BrokerCommandIntent) (ref : OrderRef) (s : ShadowLedger) : Prop :=
  command.action ≠ .cancelOptionOrder ∨ command.environment ≠ .demo ∨
    s.orderByIdempotency.get? command.idempotencyKey = none ∧
      ∀ key item, findOrder ref s = some (key, item) →
        command.instrumentId ≠ item.published.contract.instrumentId

/-- Under a new key a cancellation is refused, or lets the key lead to its order. -/
theorem cancel_unused_kinds {commands : List BrokerCommandIntent}
    (booked : Booked cfg commands s) (ref : OrderRef)
    (action : command.action = .cancelOptionOrder) (environment : command.environment = .demo)
    (unused : s.orderByIdempotency.get? command.idempotencyKey = none) :
    (∀ key item, findOrder ref s = some (key, item) →
        command.instrumentId ≠ item.published.contract.instrumentId) ∧
      (∃ e, cancel cfg command ref s = (.error e, s)) ∨
    (∃ key item, findOrder ref s = some (key, item) ∧
        command.instrumentId = item.published.contract.instrumentId) ∧
      ∃ order s' id, cancel cfg command ref s = (.ok order, s') ∧
        s'.orderByIdempotency.get? command.idempotencyKey = some id := by
  have duplicate : duplicateOrder cfg command s = .ok none := by
    simp only [duplicateOrder, unused]
  simp only [cancel, action, environment, duplicate, ne_eq, not_true_eq_false, if_false]
  cases located : findOrder ref s with
  | none =>
    refine Or.inl ⟨?_, _, rfl⟩
    intro key item equal
    cases equal
  | some entry =>
    obtain ⟨key, item⟩ := entry
    dsimp only
    split
    next other =>
      refine Or.inl ⟨?_, _, rfl⟩
      intro key' item' equal
      cases equal
      exact other
    next instrument =>
      refine Or.inr ⟨⟨key, item, rfl, not_not.mp instrument⟩, ?_⟩
      split
      · exact ⟨_, _, _, rfl, Dict.get?_set_self ..⟩
      next live =>
        have isOpen : item.published.state.isOpen = true := by
          rcases booked.proper key item (findOrder_some located) with isOpen | ended
          · exact isOpen
          · exact absurd ended live
        simp only [isOpen, Bool.not_true, Bool.false_eq_true, if_false]
        exact ⟨_, _, _, rfl, Dict.get?_set_self ..⟩

/-- A cancellation is refused and changes nothing; or it returns, and has changed nothing
if and only if its key was known. -/
theorem cancel_kinds (command : BrokerCommandIntent) {commands : List BrokerCommandIntent} (booked : Booked cfg commands s)
    (ref : OrderRef) :
    (RefusesCancel command ref s ∧ ∃ e, cancel cfg command ref s = (.error e, s)) ∨
    ¬RefusesCancel command ref s ∧
      ∃ order s', cancel cfg command ref s = (.ok order, s') ∧
        (s' = s ↔ s.orderByIdempotency.get? command.idempotencyKey ≠ none) := by
  by_cases action : command.action = .cancelOptionOrder
  swap
  · refine Or.inl ⟨Or.inl action, ?_⟩
    rw [cancel, if_pos action]
    exact ⟨_, rfl⟩
  by_cases environment : command.environment = .demo
  swap
  · refine Or.inl ⟨Or.inr (Or.inl environment), ?_⟩
    rw [cancel, if_neg (not_not.mpr action), if_pos environment]
    exact ⟨_, rfl⟩
  cases known : s.orderByIdempotency.get? command.idempotencyKey with
  | some id =>
    obtain ⟨item, found⟩ := booked.resolved _ id known
    have leads : Leads cfg command id item s := by
      refine ⟨known, found, fun place => ?_⟩
      cases action.symm.trans place
    refine Or.inr ⟨?_, item.published, s, cancel_of_leads action environment leads, by simp⟩
    rintro (other | other | ⟨unused, -⟩)
    · exact other action
    · exact other environment
    · rw [known] at unused
      cases unused
  | none =>
    rcases cancel_unused_kinds booked ref action environment known with
      ⟨differs, refused⟩ | ⟨⟨key, item, located, instrument⟩, order, s', id, returned, leads⟩
    · exact Or.inl ⟨Or.inr (Or.inr ⟨known, differs⟩), refused⟩
    · refine Or.inr ⟨?_, order, s', returned, ?_⟩
      · rintro (other | other | ⟨-, differs⟩)
        · exact other action
        · exact other environment
        · exact differs key item located instrument
      · refine ⟨fun same => ?_, fun known => absurd rfl known⟩
        rw [same, known] at leads
        cases leads

end Ledger

end ShadowLedger

namespace LocalBroker

/-- A call that raised and left the ledger and what was recorded as they were. -/
def Isolated (b : LocalBroker) (outcome : Except Exc Unit × LocalBroker) : Prop :=
  (∃ e, outcome.1 = .error e) ∧ outcome.2.ledger = b.ledger ∧
    outcome.2.recordedCommands = b.recordedCommands ∧
    outcome.2.commandIdempotency = b.commandIdempotency

/-- A command the broker records: its identifier and its key are new, and a recorder that
is configured takes it. -/
def Records (out : Outside) (command : BrokerCommandIntent) (b : LocalBroker) : Prop :=
  b.recordedCommands.get? command.commandIntentId = none ∧
    b.commandIdempotency.get? command.idempotencyKey = none ∧
    ∀ e, out.commandRecorder ≠ some (.error e)

/-- A command whose content is recorded under its identifier or, this being new, its key. -/
def AlreadyRecorded (cfg : LedgerConfig) (command : BrokerCommandIntent) (b : LocalBroker) : Prop :=
  ∃ c, c.commandHash cfg.hashing = command.commandHash cfg.hashing ∧
    (b.recordedCommands.get? command.commandIntentId = some c ∨
      b.recordedCommands.get? command.commandIntentId = none ∧
        ∃ other, b.commandIdempotency.get? command.idempotencyKey = some other ∧
          b.recordedCommands.get? other = some c)

/-- The persistence of a ledger fails: a recorder is configured, and it raises or the
ledger cannot be exported. -/
def PersistFails (out : Outside) (ledger : ShadowLedger) : Prop :=
  ∃ outcome, out.stateRecorder = some outcome ∧ (ledger.cash < 0 ∨ ∃ e, outcome = .error e)

section Calls

variable {D : Decimal.Context} {cfg : LedgerConfig} {now : Time} {out : Outside}
  {command : BrokerCommandIntent} {b : LocalBroker} {op : ShadowLedger.Op}

theorem record_kinds (cfg : LedgerConfig) (out : Outside) (command : BrokerCommandIntent)
    (b : LocalBroker) :
    (Records out command b ∧
      recordBrokerCommandIntent cfg out command b = (.ok (), withCommand command b)) ∨
    (¬Records out command b ∧ AlreadyRecorded cfg command b ∧
      recordBrokerCommandIntent cfg out command b = (.ok (), b)) ∨
    ¬Records out command b ∧ ¬AlreadyRecorded cfg command b ∧
      ∃ e, recordBrokerCommandIntent cfg out command b = (.error e, b) := by
  unfold recordBrokerCommandIntent Records AlreadyRecorded
  cases byId : b.recordedCommands.get? command.commandIntentId with
  | some existing =>
    have old : ¬(some existing = none ∧
        b.commandIdempotency.get? command.idempotencyKey = none ∧
        ∀ e, out.commandRecorder ≠ some (.error e)) := by
      rintro ⟨new, -⟩
      cases new
    dsimp only
    split
    next other =>
      refine Or.inr (Or.inr ⟨old, ?_, _, rfl⟩)
      rintro ⟨c, same, found | ⟨none_, -⟩⟩
      · cases found
        exact other same
      · cases none_
    next same =>
      exact Or.inr (Or.inl ⟨old, ⟨existing, not_not.mp same, Or.inl rfl⟩, rfl⟩)
  | none =>
    cases byKey : b.commandIdempotency.get? command.idempotencyKey with
    | some existingId =>
      have old : ¬((none : Option BrokerCommandIntent) = none ∧ some existingId = none ∧
          ∀ e, out.commandRecorder ≠ some (.error e)) := by
        rintro ⟨-, new, -⟩
        cases new
      dsimp only
      cases stored : b.recordedCommands.get? existingId with
      | none =>
        refine Or.inr (Or.inr ⟨old, ?_, _, rfl⟩)
        rintro ⟨c, -, found | ⟨-, id, equal, found⟩⟩
        · cases found
        · cases equal
          rw [stored] at found
          cases found
      | some existing =>
        dsimp only
        split
        next other =>
          refine Or.inr (Or.inr ⟨old, ?_, _, rfl⟩)
          rintro ⟨c, same, found | ⟨-, id, equal, found⟩⟩
          · cases found
          · cases equal
            cases stored.symm.trans found
            exact other same
        next same =>
          exact Or.inr (Or.inl ⟨old,
            ⟨existing, not_not.mp same, Or.inr ⟨rfl, existingId, rfl, stored⟩⟩, rfl⟩)
    | none =>
      cases recorder : out.commandRecorder with
      | none =>
        refine Or.inl ⟨⟨rfl, rfl, ?_⟩, rfl⟩
        intro _ equal
        cases equal
      | some outcome =>
        cases outcome with
        | error e =>
          refine Or.inr (Or.inr ⟨?_, ?_, e, rfl⟩)
          · exact fun new => new.2.2 e rfl
          · rintro ⟨c, -, found | ⟨-, id, equal, -⟩⟩
            · cases found
            · cases equal
        | ok u =>
          refine Or.inl ⟨⟨rfl, rfl, ?_⟩, rfl⟩
          intro _ equal
          cases equal

theorem persistState_raises_iff (cfg : LedgerConfig) (now : Time) (out : Outside)
    (b : LocalBroker) :
    (∃ e, (persistState cfg now out b).1 = .error e) ↔ PersistFails out b.ledger := by
  unfold persistState PersistFails
  cases recorder : out.stateRecorder with
  | none => simp
  | some outcome =>
    dsimp only
    by_cases covered : 0 ≤ b.ledger.cash
    · obtain ⟨snapshot, exported⟩ : ∃ snapshot, b.exportState cfg now = .ok snapshot := by
        unfold LocalBroker.exportState ShadowLedger.exportState
        rw [dif_pos covered]
        exact ⟨_, rfl⟩
      rw [exported]
      cases outcome <;> simp [covered]
    · obtain ⟨e, refused⟩ : ∃ e, b.exportState cfg now = .error e := by
        unfold LocalBroker.exportState ShadowLedger.exportState
        rw [dif_neg covered]
        exact ⟨_, rfl⟩
      rw [refused]
      simp [not_le.mp covered]

/-- A command leaves no trace if the call ends before its recording, if the recording
refuses it, or if it is recorded already and its operation leaves none. -/
theorem write_isolated_iff (text : String) :
    Isolated b (settle (ensureClean text b (recordAndApply D cfg now out command op))) ↔
      b.stateDirty = true ∨ ¬Records out command b ∧
        (AlreadyRecorded cfg command b → Isolated b (settle (applyToLedger D cfg now out op b))) := by
  unfold ensureClean
  split
  next dirty => exact ⟨fun _ => Or.inl dirty, fun _ => ⟨⟨_, rfl⟩, rfl, rfl, rfl⟩⟩
  next clean =>
    unfold recordAndApply
    rcases record_kinds cfg out command b with
      ⟨records, written⟩ | ⟨new, known, found⟩ | ⟨new, unknown, e, refused⟩
    · rw [written]
      constructor
      · rintro ⟨-, -, recorded, -⟩
        obtain ⟨dirty, state⟩ := applyToLedger_state cfg now out (D := D) op (withCommand command b)
        have stored : b.recordedCommands.set command.commandIntentId command =
            b.recordedCommands :=
          (congrArg LocalBroker.recordedCommands state).symm.trans recorded
        have there := congrArg (fun d => d.get? command.commandIntentId) stored
        simp only [Dict.get?_set_self, records.1] at there
        cases there
      · rintro (dirty | ⟨other, -⟩)
        · exact absurd dirty clean
        · exact absurd records other
    · rw [found]
      constructor
      · exact fun isolated => Or.inr ⟨new, fun _ => isolated⟩
      · rintro (dirty | ⟨-, isolated⟩)
        · exact absurd dirty clean
        · exact isolated known
    · rw [refused]
      exact ⟨fun _ => Or.inr ⟨new, fun known => absurd known unknown⟩,
        fun _ => ⟨⟨e, rfl⟩, rfl, rfl, rfl⟩⟩

/-- A ledger operation that raises and changes nothing is a call that leaves no trace. -/
theorem applyToLedger_isolated {answer : ShadowLedger.Answer} {e : Exc}
    (performed : b.ledger.perform D cfg now op = (answer, b.ledger))
    (failed : answer.raised? = some e) :
    Isolated b (settle (applyToLedger D cfg now out op b)) := by
  have outcome : applyToLedger D cfg now out op b = (.error e, b) := by
    simp only [applyToLedger, performed, failed]
  rw [outcome]
  exact ⟨⟨e, rfl⟩, rfl, rfl, rfl⟩

theorem cancel_isolated_iff {commands : List BrokerCommandIntent}
    (booked : ShadowLedger.Booked cfg commands b.ledger) (ref : OrderRef) :
    Isolated b (settle (applyToLedger D cfg now out (.cancel command ref) b)) ↔
      ShadowLedger.RefusesCancel command ref b.ledger ∨
        b.ledger.orderByIdempotency.get? command.idempotencyKey ≠ none ∧
          PersistFails out b.ledger := by
  rcases ShadowLedger.cancel_kinds command booked ref with
    ⟨refuses, e, refused⟩ | ⟨accepts, order, s', returned, unchanged⟩
  · have performed : b.ledger.perform D cfg now (.cancel command ref) =
        (.order (.error e), b.ledger) := by
      simp only [ShadowLedger.perform, refused, Prod.map, id_eq]
    exact ⟨fun _ => Or.inl refuses, fun _ => applyToLedger_isolated performed rfl⟩
  · have performed : b.ledger.perform D cfg now (.cancel command ref) = (.order (.ok order), s') := by
      simp only [ShadowLedger.perform, returned, Prod.map, id_eq]
    obtain ⟨dirty, state⟩ := persistState_state cfg now out { b with ledger := s' }
    have raises := persistState_raises_iff cfg now out { b with ledger := s' }
    rw [← unchanged]
    unfold applyToLedger
    simp only [performed, ShadowLedger.Answer.raised?, raised]
    cases outcome : persistState cfg now out { b with ledger := s' } with
    | mk answer b' =>
      rw [outcome] at state raises
      have there : b' = { b with ledger := s', stateDirty := dirty } := state
      subst there
      cases answer with
      | error e =>
        constructor
        · rintro ⟨-, ledger, -⟩
          have same : s' = b.ledger := ledger
          subst same
          exact Or.inr ⟨rfl, raises.mp ⟨e, rfl⟩⟩
        · rintro (refuses | ⟨same, -⟩)
          · exact absurd refuses accepts
          · exact ⟨⟨e, rfl⟩, same, rfl, rfl⟩
      | ok u =>
        constructor
        · rintro ⟨⟨e, equal⟩, -⟩
          cases equal
        · rintro (refuses | ⟨same, fails⟩)
          · exact absurd refuses accepts
          · rw [← same] at fails
            obtain ⟨e, equal⟩ := raises.mpr fails
            cases equal

end Calls

/-! ### Reached brokers -/

section Runs

variable {D : Decimal.Context} {cfg : LedgerConfig} {now : Time} {out : Outside} {b b' : LocalBroker}

/-- The ledger of a broker is one that ledger operations reach. -/
def Backed (D : Decimal.Context) (cfg : LedgerConfig) (b : LocalBroker) : Prop :=
  ∃ ops, b.ledger = ShadowLedger.run D cfg ops (.fresh cfg)

theorem Backed.of_ledger (backed : Backed D cfg b) (same : b'.ledger = b.ledger) :
    Backed D cfg b' := by
  obtain ⟨ops, reached⟩ := backed
  exact ⟨ops, same.trans reached⟩

theorem Backed.apply (backed : Backed D cfg b) (op : ShadowLedger.Op) :
    Backed D cfg (applyToLedger D cfg now out op b).2 := by
  obtain ⟨ops, reached⟩ := backed
  obtain ⟨dirty, state⟩ := applyToLedger_state cfg now out (D := D) op b
  refine ⟨ops ++ [(now, op)], ?_⟩
  rw [state, ShadowLedger.run_append, ← reached]
  rfl

theorem Backed.write (backed : Backed D cfg b) (command : BrokerCommandIntent)
    (op : ShadowLedger.Op) : Backed D cfg (recordAndApply D cfg now out command op b).2 := by
  unfold recordAndApply
  rcases record_kinds cfg out command b with ⟨-, written⟩ | ⟨-, -, found⟩ | ⟨-, -, e, refused⟩
  · rw [written]
    exact Backed.apply (b := withCommand command b) (backed.of_ledger rfl) op
  · rw [found]
    exact backed.apply op
  · rw [refused]
    exact backed

theorem Backed.record (backed : Backed D cfg b) (out : Outside) (command : BrokerCommandIntent) :
    Backed D cfg (recordBrokerCommandIntent cfg out command b).2 := by
  rcases record_kinds cfg out command b with ⟨-, written⟩ | ⟨-, -, found⟩ | ⟨-, -, e, refused⟩
  · rw [written]
    exact backed.of_ledger rfl
  · rw [found]
    exact backed
  · rw [refused]
    exact backed

theorem Backed.ensureClean (backed : Backed D cfg b) {text : String}
    {work : LocalBroker → Except Exc ShadowLedger.Answer × LocalBroker}
    (works : Backed D cfg (work b).2) : Backed D cfg (settle (ensureClean text b work)).2 := by
  unfold LocalBroker.ensureClean settle
  split
  · exact backed
  · exact works

theorem Backed.call (backed : Backed D cfg b) (c : Call) :
    Backed D cfg (SimulatedBroker.call D cfg now out c b).2 := by
  cases c with
  | review | consumeQuote | deposit | processExpirations =>
    exact backed.ensureClean (backed.apply _)
  | place | cancel =>
    unfold SimulatedBroker.call
    dsimp only
    split
    · exact backed
    · exact backed.ensureClean (backed.write _ _)
  | flushState =>
    obtain ⟨dirty, state⟩ := persistState_state cfg now out b
    refine backed.of_ledger ?_
    change (persistState cfg now out b).2.ledger = b.ledger
    rw [state]

/-- A broker restored from the snapshot of another has its ledger. -/
theorem Backed.restored (backed : Backed D cfg b) {saved later : Time}
    {snapshot : LedgerSnapshot} (exported : b.exportState cfg saved = .ok snapshot)
    (restored : SimulatedBroker.restore D cfg later snapshot = .ok b') : Backed D cfg b' := by
  obtain ⟨ops, reached⟩ := backed
  have indexed : ShadowLedger.Indexed b.ledger := by
    rw [reached]
    exact ShadowLedger.run_fresh_indexed D cfg ops
  refine ⟨ops, Eq.trans ?_ reached⟩
  unfold SimulatedBroker.restore at restored
  rcases ShadowLedger.restoreState_cases D cfg later snapshot (.fresh cfg) with ⟨e, refused⟩ | ⟨adopted, -, -⟩
  · rw [refused] at restored
    cases restored
  · rw [adopted] at restored
    dsimp only at restored
    split at restored
    · cases restored
    · cases restored
      exact indexed.applySnapshot_exportState exported

end Runs

end LocalBroker

/-- The simulated brokers that calls and restarts reach. A restart restores a snapshot of
any broker reached before. -/
inductive SimulatedBroker.Reached (D : Decimal.Context) (cfg : LedgerConfig) : LocalBroker → Prop
  | fresh : Reached D cfg (.fresh cfg)
  | call {b : LocalBroker} (now : Time) (out : Outside) (c : Call) (reached : Reached D cfg b) :
      Reached D cfg (SimulatedBroker.call D cfg now out c b).2
  | recorded {b : LocalBroker} (out : Outside) (command : BrokerCommandIntent)
      (reached : Reached D cfg b) : Reached D cfg (recordBrokerCommandIntent cfg out command b).2
  | restored {b b' : LocalBroker} {saved later : Time} {snapshot : LedgerSnapshot}
      (reached : Reached D cfg b) (exported : b.exportState cfg saved = .ok snapshot)
      (restored : SimulatedBroker.restore D cfg later snapshot = .ok b') : Reached D cfg b'

theorem SimulatedBroker.Reached.backed {D : Decimal.Context} {cfg : LedgerConfig}
    {b : LocalBroker} (reached : Reached D cfg b) : Backed D cfg b := by
  induction reached with
  | fresh => exact ⟨[], rfl⟩
  | call now out c _ ih => exact ih.call c
  | recorded out command _ ih => exact ih.record out command
  | restored _ exported restored ih => exact ih.restored exported restored

/-- A call on the simulated broker with a command leaves no trace if and only if the
command's capability is refused, the state is dirty, the recording refuses the command, or
it is recorded already and its operation leaves none. -/
theorem SimulatedBroker.command_isolated_iff {D : Decimal.Context} {cfg : LedgerConfig}
    {now : Time} {out : Outside} {command : BrokerCommandIntent} {b : LocalBroker}
    {op : ShadowLedger.Op} {c : Call} (carries : c.command? = some command)
    (comes : c.op? = some op) :
    Isolated b (SimulatedBroker.call D cfg now out c b) ↔
      (∃ e, out.validateCommand = .error e) ∨ b.stateDirty = true ∨ ¬Records out command b ∧
        (AlreadyRecorded cfg command b →
          Isolated b (settle (applyToLedger D cfg now out op b))) := by
  cases c with
  | review | consumeQuote | deposit | processExpirations | flushState => cases carries
  | place | cancel =>
    cases carries
    cases comes
    unfold SimulatedBroker.call
    dsimp only
    cases validated : out.validateCommand with
    | error e => exact ⟨fun _ => Or.inl ⟨e, rfl⟩, fun _ => ⟨⟨e, rfl⟩, rfl, rfl, rfl⟩⟩
    | ok u =>
      rw [write_isolated_iff]
      constructor
      · exact Or.inr
      · rintro (⟨e, equal⟩ | isolated)
        · cases equal
        · exact isolated

/-- Exactly when a command of another environment or namespace is refused without a trace.
The ledger refuses every such placement, and a cancellation as it refuses one of its own
namespace. The simulated broker refuses a placement without a trace unless it records the
command, and a cancellation unless it records it or the ledger accepts it. -/
theorem namespace_isolation_iff (D : Decimal.Context) (cfg : LedgerConfig)
    (command : BrokerCommandIntent) (foreign : Foreign cfg command) :
    (∀ events : List (Time × ShadowLedger.Event),
      let s := ShadowLedger.live D cfg events (.fresh cfg)
      (∀ now contract, ∃ e, ShadowLedger.submit D cfg now command contract s = (.error e, s)) ∧
      ∀ ref, (∃ e, ShadowLedger.cancel cfg command ref s = (.error e, s)) ↔
        ShadowLedger.RefusesCancel command ref s) ∧
    ∀ b, SimulatedBroker.Reached D cfg b → ∀ now out,
      (∀ contract, Isolated b (SimulatedBroker.call D cfg now out (.place command contract) b) ↔
        (∃ e, out.validateCommand = .error e) ∨ b.stateDirty = true ∨ ¬Records out command b) ∧
      ∀ ref, Isolated b (SimulatedBroker.call D cfg now out (.cancel command ref) b) ↔
        (∃ e, out.validateCommand = .error e) ∨ b.stateDirty = true ∨ ¬Records out command b ∧
          (AlreadyRecorded cfg command b → ShadowLedger.RefusesCancel command ref b.ledger ∨
            b.ledger.orderByIdempotency.get? command.idempotencyKey ≠ none ∧
              PersistFails out b.ledger) := by
  constructor
  · intro events s
    refine ⟨fun now contract => ShadowLedger.submit_foreign foreign contract, fun ref => ?_⟩
    have booked : ShadowLedger.Booked cfg _ s := ShadowLedger.live_booked events
    rcases ShadowLedger.cancel_kinds command booked ref with
      ⟨refuses, refused⟩ | ⟨accepts, order, s', returned, -⟩
    · exact ⟨fun _ => refuses, fun _ => refused⟩
    · constructor
      · rintro ⟨e, refused⟩
        cases returned.symm.trans refused
      · exact fun refuses => absurd refuses accepts
  · intro b reached now out
    obtain ⟨ops, ledger⟩ := reached.backed
    have booked : ShadowLedger.Booked cfg (ShadowLedger.placed ops) b.ledger := by
      rw [ledger]
      exact ShadowLedger.run_fresh_booked D cfg ops
    constructor
    · intro contract
      rw [SimulatedBroker.command_isolated_iff rfl rfl]
      obtain ⟨e, refused⟩ : ∃ e, b.ledger.submit D cfg now command contract = (.error e, b.ledger) :=
        ShadowLedger.submit_foreign foreign contract
      have performed : b.ledger.perform D cfg now (.submit command contract) =
          (.order (.error e), b.ledger) := by
        simp only [ShadowLedger.perform, refused, Prod.map, id_eq]
      have isolated : Isolated b
          (settle (applyToLedger D cfg now out (.submit command contract) b)) :=
        applyToLedger_isolated performed rfl
      simp only [isolated, implies_true, and_true]
    · intro ref
      rw [SimulatedBroker.command_isolated_iff rfl rfl, cancel_isolated_iff booked ref]

section Samples

open ShadowLedger

/-- A command that is stray in the namespace of the sample ledger. -/
def strayCommand (action : BrokerAction) : BrokerCommandIntent :=
  { sampleCommand 13 action .buyToOpen 2 ⟨150, -2⟩ with namespace_ := "other" }

theorem strayCommand_foreign (action : BrokerAction) :
    Foreign sampleConfig (strayCommand action) := by
  refine Or.inr ?_
  change ("other" : String) ≠ "demo"
  decide

/-- The sample's entry, which is still open. -/
def openBroker : LocalBroker :=
  (SimulatedBroker.call .exact sampleConfig 10 {}
    (.place (sampleCommand 11 .placeOptionOrder .buyToOpen 2 ⟨150, -2⟩) sampleContract)
    (.fresh sampleConfig)).2

theorem openBroker_reached : SimulatedBroker.Reached .exact sampleConfig openBroker :=
  .call 10 {} _ .fresh

/-- The identifier of the entry as a URN. -/
def urnOrder : OrderRef :=
  .text ("urn:uuid:" ++
    (orderIdFor sampleConfig (sampleCommand 11 .placeOptionOrder .buyToOpen 2 ⟨150, -2⟩)).str)

theorem namespace_isolation_iff_strayCommand :
    Foreign sampleConfig (strayCommand .placeOptionOrder) ∧
    openBroker.ledger.orders.values.map (fun item => item.published.state) = [.open_] ∧
    Isolated openBroker (SimulatedBroker.call .exact sampleConfig 20
      { commandRecorder := some (.error (.safetyCritical "append failed")) }
      (.place (strayCommand .placeOptionOrder) sampleContract) openBroker) ∧
    ¬Isolated openBroker (SimulatedBroker.call .exact sampleConfig 20 {}
      (.place (strayCommand .placeOptionOrder) sampleContract) openBroker) ∧
    (let s := live .exact sampleConfig (calls (sampleRun.take 1)) (.fresh sampleConfig)
     (∃ e, cancel sampleConfig (strayCommand .cancelOptionOrder) (.text "missing") s =
        (.error e, s)) ∧
      ¬∃ e, cancel sampleConfig (strayCommand .cancelOptionOrder) urnOrder s = (.error e, s)) := by
  have foreign := strayCommand_foreign .placeOptionOrder
  have broker := (namespace_isolation_iff .exact sampleConfig _ foreign).2 _ openBroker_reached 20
  have ledger := fun ref => ((namespace_isolation_iff .exact sampleConfig _
    (strayCommand_foreign .cancelOptionOrder)).1 (calls (sampleRun.take 1))).2 ref
  have clean : openBroker.stateDirty = false := by decide +kernel
  have unseen : openBroker.recordedCommands.get? ⟨13⟩ = none ∧
      openBroker.commandIdempotency.get? "key-13" = none := by decide +kernel
  refine ⟨foreign, by decide +kernel, ((broker _).1 sampleContract).mpr ?_, ?_,
    (ledger _).mpr ?_, fun refused => ?_⟩
  · exact Or.inr (Or.inr fun records => records.2.2 _ rfl)
  · intro isolated
    rcases ((broker {}).1 sampleContract).mp isolated with ⟨e, refused⟩ | dirty | unrecorded
    · cases refused
    · rw [clean] at dirty
      cases dirty
    · refine unrecorded ⟨unseen.1, unseen.2, fun _ configured => ?_⟩
      cases configured
  · refine Or.inr (Or.inr ⟨by decide +kernel, fun key item located => ?_⟩)
    have missing : findOrder (.text "missing")
        (live .exact sampleConfig (calls (sampleRun.take 1)) (.fresh sampleConfig)) = none :=
      Option.isNone_iff_eq_none.mp (by decide +kernel)
    rw [missing] at located
    cases located
  · rcases (ledger _).mp refused with action | environment | ⟨-, differs⟩
    · exact action rfl
    · exact environment rfl
    · obtain ⟨entry, located⟩ : ∃ entry, findOrder urnOrder
          (live .exact sampleConfig (calls (sampleRun.take 1)) (.fresh sampleConfig)) = some entry :=
        Option.isSome_iff_exists.mp (by decide +kernel)
      refine differs entry.1 entry.2 located ?_
      have same : (findOrder urnOrder (live .exact sampleConfig (calls (sampleRun.take 1))
          (.fresh sampleConfig))).map (fun entry => entry.2.published.contract.instrumentId) =
          some (strayCommand .cancelOptionOrder).instrumentId := by decide +kernel
      rw [located] at same
      exact (Option.some.inj same).symm

/-- A stray cancellation cancels the ledger's open order, and a stray placement that the
simulated broker refuses has been recorded. -/
theorem stray_command_breaks_isolation :
    (let s := live .exact sampleConfig (calls (sampleRun.take 1)) (.fresh sampleConfig)
     let key := orderIdFor sampleConfig
       (sampleCommand 11 .placeOptionOrder .buyToOpen 2 ⟨150, -2⟩)
     let outcome := cancel sampleConfig (strayCommand .cancelOptionOrder) (.uuid key) s
     (strayCommand .cancelOptionOrder).namespace_ ≠ sampleConfig.namespace_ ∧
       outcome.1.toOption.map (·.state) = some .canceled ∧
       (s.orders.get? key).map (·.published.state) = some .open_ ∧
       (outcome.2.orders.get? key).map (·.published.state) = some .canceled) ∧
    (let outcome := SimulatedBroker.call .exact sampleConfig 20 {}
       (.place (strayCommand .placeOptionOrder) sampleContract) (.fresh sampleConfig)
     outcome.1.toOption = none ∧ outcome.2.recordedCommands.keys = [⟨13⟩] ∧
       outcome.2.ledger.orders.keys = []) := by
  decide +kernel

end Samples

end Sentry
