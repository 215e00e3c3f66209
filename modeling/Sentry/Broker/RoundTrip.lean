import Sentry.Broker.LocalBrokers

/-!
# Snapshot round trips

Every state that the ledger and the two ledger-backed brokers reach passes the
checks of a restore, and the restored instance is the original. The ledger needs
its solvency and its cross references; the simulated broker that its recorded
commands are bound to the ledger; the shadow broker also that every order and
every idempotency key of the ledger leads to the command that was recorded for
it.
-/
namespace Sentry

open Support LocalBroker

/-- One command in everything its hash covers. -/
def BrokerCommandIntent.SameContent (c d : BrokerCommandIntent) : Prop :=
  c = { d with createdAt := c.createdAt }

namespace LocalBroker

/-! ### Recorded commands -/

/-- The recorded commands are commands of the run bound to the ledger, and the two
maps of the recorder agree, entry for entry. -/
structure Recorded (cfg : LedgerConfig) (commands : List BrokerCommandIntent) (b : LocalBroker) :
    Prop where
  keyed : ∀ id c, b.recordedCommands.get? id = some c → c.commandIntentId = id
  index : b.commandIdempotency.entries =
    b.recordedCommands.entries.map fun e => (e.2.idempotencyKey, e.1)
  member : ∀ id c, b.recordedCommands.get? id = some c → c ∈ commands
  bound : ∀ id c, b.recordedCommands.get? id = some c →
    c.environment = .demo ∧ c.namespace_ = cfg.namespace_

section Record

variable {cfg : LedgerConfig} {commands : List BrokerCommandIntent} {b r : LocalBroker}
  {command : BrokerCommandIntent} {out : Outside}

theorem Recorded.key_of_command (ok : Recorded cfg commands b) {id : UUID}
    {c : BrokerCommandIntent} (found : b.recordedCommands.get? id = some c) :
    b.commandIdempotency.get? c.idempotencyKey = some id := by
  apply Dict.mem_entries.mp
  rw [ok.index]
  exact List.mem_map.mpr ⟨(id, c), Dict.mem_entries.mpr found, rfl⟩

/-- The broker after a new command was recorded. -/
abbrev withCommand (command : BrokerCommandIntent) (b : LocalBroker) : LocalBroker :=
  { b with
    recordedCommands := b.recordedCommands.set command.commandIntentId command
    commandIdempotency := b.commandIdempotency.set command.idempotencyKey command.commandIntentId }

/-- Recording refuses or finds the command under its identifier, under its key, or
nowhere; only then it writes. -/
theorem record_cases (cfg : LedgerConfig) (out : Outside) (command : BrokerCommandIntent)
    (b : LocalBroker) :
    (∃ e, recordBrokerCommandIntent cfg out command b = (.error e, b)) ∨
    (∃ c, recordBrokerCommandIntent cfg out command b = (.ok (), b) ∧
      b.recordedCommands.get? command.commandIntentId = some c ∧
      c.commandHash cfg.hashing = command.commandHash cfg.hashing) ∨
    (∃ id c, recordBrokerCommandIntent cfg out command b = (.ok (), b) ∧
      b.recordedCommands.get? command.commandIntentId = none ∧
      b.recordedCommands.get? id = some c ∧
      c.commandHash cfg.hashing = command.commandHash cfg.hashing) ∨
    (recordBrokerCommandIntent cfg out command b = (.ok (), withCommand command b) ∧
      b.recordedCommands.get? command.commandIntentId = none ∧
      b.commandIdempotency.get? command.idempotencyKey = none) := by
  unfold recordBrokerCommandIntent
  cases byId : b.recordedCommands.get? command.commandIntentId with
  | some existing =>
    dsimp only
    split
    · exact Or.inl ⟨_, rfl⟩
    next same => exact Or.inr (Or.inl ⟨existing, rfl, rfl, not_not.mp same⟩)
  | none =>
    cases byKey : b.commandIdempotency.get? command.idempotencyKey with
    | some existingId =>
      dsimp only
      split
      · exact Or.inl ⟨_, rfl⟩
      next c other =>
        split
        · exact Or.inl ⟨_, rfl⟩
        next same =>
          exact Or.inr (Or.inr (Or.inl ⟨existingId, c, rfl, rfl, other, not_not.mp same⟩))
    | none =>
      cases recorder : out.commandRecorder with
      | none => exact Or.inr (Or.inr (Or.inr ⟨rfl, rfl, rfl⟩))
      | some outcome =>
        cases outcome with
        | error e => exact Or.inl ⟨e, rfl⟩
        | ok u => exact Or.inr (Or.inr (Or.inr ⟨rfl, rfl, rfl⟩))

theorem not_mem_keys {κ ν : Type} [DecidableEq κ] {d : Dict κ ν} {k : κ}
    (missing : d.get? k = none) : k ∉ d.keys := by
  rw [Dict.mem_keys]
  rintro ⟨v, found⟩
  rw [missing] at found
  cases found

theorem Recorded.withCommand (ok : Recorded cfg commands b) (inRun : command ∈ commands)
    (bound : command.environment = .demo ∧ command.namespace_ = cfg.namespace_)
    (newId : b.recordedCommands.get? command.commandIntentId = none)
    (newKey : b.commandIdempotency.get? command.idempotencyKey = none) :
    Recorded cfg commands (withCommand command b) := by
  have lookup : ∀ id c, (LocalBroker.withCommand command b).recordedCommands.get? id = some c →
      (id = command.commandIntentId ∧ c = command) ∨ b.recordedCommands.get? id = some c := by
    intro id c found
    simp only [Dict.get?_set] at found
    split at found
    next same =>
      cases found
      exact Or.inl ⟨same.symm, rfl⟩
    · exact Or.inr found
  refine ⟨?_, ?_, ?_, ?_⟩
  · intro id c found
    rcases lookup id c found with ⟨rfl, rfl⟩ | old
    · rfl
    · exact ok.keyed id c old
  · rw [Dict.entries_set_of_not_mem (not_mem_keys newId),
      Dict.entries_set_of_not_mem (not_mem_keys newKey), ok.index, List.map_append,
      List.map_singleton]
  · intro id c found
    rcases lookup id c found with ⟨rfl, rfl⟩ | old
    · exact inRun
    · exact ok.member id c old
  · intro id c found
    rcases lookup id c found with ⟨rfl, rfl⟩ | old
    · exact bound
    · exact ok.bound id c old

theorem Recorded.record (ok : Recorded cfg commands b) (inRun : command ∈ commands)
    (bound : command.environment = .demo ∧ command.namespace_ = cfg.namespace_)
    (done : recordBrokerCommandIntent cfg out command b = (.ok (), r)) :
    Recorded cfg commands r := by
  rcases record_cases cfg out command b with
    ⟨e, raised⟩ | ⟨c, same, _⟩ | ⟨id, c, same, _⟩ | ⟨new, newId, newKey⟩
  · rw [raised] at done
    cases done
  · rw [same] at done
    cases done
    exact ok
  · rw [same] at done
    cases done
    exact ok
  · rw [new] at done
    cases done
    exact ok.withCommand inRun bound newId newKey

end Record

/-! ### Calls as steps -/

/-- What one request can do to a broker: nothing but its dirty mark, a ledger operation, a
recorded command followed by its ledger operation, or a recorded command alone. `guard` is what
the broker checks of a command before a call records it. -/
inductive Stepped (cfg : LedgerConfig) (guard : BrokerCommandIntent → Prop) (now : Time)
    (c : Request) (b b' : LocalBroker) : Prop where
  | idle (dirty : Bool) (is : b' = { b with stateDirty := dirty })
  | plain (dirty : Bool) (op : ShadowLedger.Op) (comes : c.op? = some op)
      (none_ : c.command? = none)
      (is : b' = { b with ledger := (b.ledger.perform .exact cfg now op).2, stateDirty := dirty })
  | written (out : Outside) (command : BrokerCommandIntent) (op : ShadowLedger.Op)
      (before dirty : Bool) (r : LocalBroker) (comes : c.op? = some op)
      (carries : c.command? = some command) (allowed : guard command)
      (recorded : recordBrokerCommandIntent cfg out command { b with stateDirty := before } =
        (.ok (), r))
      (is : b' = { r with ledger := (r.ledger.perform .exact cfg now op).2, stateDirty := dirty })
  | direct (out : Outside) (command : BrokerCommandIntent) (asked : c = .record command)
      (recorded : recordBrokerCommandIntent cfg out command b = (.ok (), b'))

section Calls

variable (cfg : LedgerConfig) {guard : BrokerCommandIntent → Prop} (now : Time) (out : Outside)

theorem persistState_state (b : LocalBroker) :
    ∃ dirty, (persistState cfg now out b).2 = { b with stateDirty := dirty } := by
  unfold persistState
  split
  · exact ⟨b.stateDirty, rfl⟩
  · split
    · exact ⟨true, rfl⟩
    · split
      · exact ⟨true, rfl⟩
      · exact ⟨false, rfl⟩

theorem applyToLedger_state {D : Decimal.Context} (op : ShadowLedger.Op) (b : LocalBroker) :
    ∃ dirty, (applyToLedger D cfg now out op b).2 =
      { b with ledger := (b.ledger.perform D cfg now op).2, stateDirty := dirty } := by
  unfold applyToLedger
  dsimp only
  split
  · exact ⟨b.stateDirty, rfl⟩
  · obtain ⟨dirty, state⟩ := persistState_state cfg now out
      { b with ledger := (b.ledger.perform D cfg now op).2 }
    refine ⟨dirty, ?_⟩
    split
    next outcome =>
      rw [outcome] at state
      exact state
    next outcome =>
      rw [outcome] at state
      exact state

theorem plain_stepped {c : Request} {op : ShadowLedger.Op} (comes : c.op? = some op)
    (none_ : c.command? = none) (before : Bool) (b : LocalBroker) :
    Stepped cfg guard now c b
      (applyToLedger .exact cfg now out op { b with stateDirty := before }).2 := by
  obtain ⟨dirty, state⟩ := applyToLedger_state cfg now out op { b with stateDirty := before }
  exact .plain dirty op comes none_ state

theorem write_stepped {c : Request} {op : ShadowLedger.Op} {command : BrokerCommandIntent}
    (comes : c.op? = some op) (carries : c.command? = some command) (allowed : guard command)
    (before : Bool) (b : LocalBroker) :
    Stepped cfg guard now c b
      (recordAndApply .exact cfg now out command op { b with stateDirty := before }).2 := by
  unfold recordAndApply
  cases outcome : recordBrokerCommandIntent cfg out command { b with stateDirty := before } with
  | mk answer r =>
    cases answer with
    | error e =>
      -- a refused command leaves the maps alone
      rcases record_cases cfg out command { b with stateDirty := before } with
        ⟨e', raised⟩ | ⟨_, done, _⟩ | ⟨_, _, done, _⟩ | ⟨done, _⟩
      · rw [raised] at outcome
        cases outcome
        exact .idle before rfl
      all_goals
        rw [done] at outcome
        cases outcome
    | ok u =>
      obtain ⟨dirty, state⟩ := applyToLedger_state cfg now out op r
      exact .written out command op before dirty r comes carries allowed outcome state

theorem ensureClean_stepped {c : Request} {text : String} {b : LocalBroker}
    {work : LocalBroker → Except Exc ShadowLedger.Answer × LocalBroker}
    (works : Stepped cfg guard now c b (work b).2) :
    Stepped cfg guard now c b (settle (ensureClean text b work)).2 := by
  unfold ensureClean settle
  split
  · exact .idle b.stateDirty rfl
  · exact works

theorem record_stepped (command : BrokerCommandIntent) (b : LocalBroker) :
    Stepped cfg guard now (.record command) b (recordBrokerCommandIntent cfg out command b).2 := by
  rcases record_cases cfg out command b with
    ⟨e, raised⟩ | ⟨_, done, _⟩ | ⟨_, _, done, _⟩ | ⟨done, _⟩
  · rw [raised]
    exact .idle b.stateDirty rfl
  all_goals
    rw [done]
    exact .direct out command rfl done

end Calls

end LocalBroker

/-- The simulated broker checks nothing of a command before it records it. -/
theorem SimulatedBroker.call_stepped (cfg : LedgerConfig) (now : Time) (out : Outside) (c : Call)
    (b : LocalBroker) :
    Stepped cfg (fun _ => True) now (.call c) b (SimulatedBroker.call .exact cfg now out c b).2 := by
  cases c with
  | review ids proposal =>
    exact ensureClean_stepped cfg now (plain_stepped cfg now out rfl rfl b.stateDirty b)
  | place command contract =>
    unfold SimulatedBroker.call
    dsimp only
    split
    · exact .idle b.stateDirty rfl
    · exact ensureClean_stepped cfg now (write_stepped cfg now out rfl rfl trivial b.stateDirty b)
  | cancel command ref =>
    unfold SimulatedBroker.call
    dsimp only
    split
    · exact .idle b.stateDirty rfl
    · exact ensureClean_stepped cfg now (write_stepped cfg now out rfl rfl trivial b.stateDirty b)
  | consumeQuote ids quote =>
    exact ensureClean_stepped cfg now (plain_stepped cfg now out rfl rfl b.stateDirty b)
  | deposit amount reference =>
    exact ensureClean_stepped cfg now (plain_stepped cfg now out rfl rfl b.stateDirty b)
  | processExpirations onDate policy settlements =>
    exact ensureClean_stepped cfg now (plain_stepped cfg now out rfl rfl b.stateDirty b)
  | flushState =>
    obtain ⟨dirty, state⟩ := persistState_state cfg now out b
    exact .idle dirty state

theorem SimulatedBroker.request_stepped (cfg : LedgerConfig) (now : Time) (out : Outside)
    (r : Request) (b : LocalBroker) :
    Stepped cfg (fun _ => True) now r b (SimulatedBroker.request .exact cfg now out r b).2 := by
  cases r with
  | call c => exact SimulatedBroker.call_stepped cfg now out c b
  | record command => exact record_stepped cfg now out command b

namespace RobinhoodShadowBroker

/-- A command bound to the ledger's environment and namespace. -/
def BoundTo (cfg : LedgerConfig) (command : BrokerCommandIntent) : Prop :=
  command.environment = .demo ∧ command.namespace_ = cfg.namespace_

theorem beginMutation_state (out : Outside) (b : LocalBroker) :
    ∃ before, beginMutation out b = { b with stateDirty := before } := by
  unfold beginMutation
  split
  · exact ⟨true, rfl⟩
  · exact ⟨b.stateDirty, rfl⟩

theorem mutation_stepped (cfg : LedgerConfig) (now : Time) (out : Outside) {c : Request}
    {op : ShadowLedger.Op} (comes : c.op? = some op) (none_ : c.command? = none)
    (b : LocalBroker) :
    Stepped cfg (BoundTo cfg) now c b (settle (ensureClean dirtyText b fun b =>
      applyToLedger .exact cfg now out op (beginMutation out b))).2 := by
  apply ensureClean_stepped
  obtain ⟨before, state⟩ := beginMutation_state out b
  rw [state]
  exact plain_stepped cfg now out comes none_ before b

theorem write_stepped (cfg : LedgerConfig) (now : Time) (out : Outside) {c : Request}
    {op : ShadowLedger.Op} {command : BrokerCommandIntent} (comes : c.op? = some op)
    (carries : c.command? = some command) (b : LocalBroker) :
    Stepped cfg (BoundTo cfg) now c b
      (settle (ensureClean dirtyText b (write .exact cfg now out command op))).2 := by
  apply ensureClean_stepped
  unfold write denyWrite
  split
  · exact .idle b.stateDirty rfl
  next admitted =>
    split at admitted
    · cases admitted
    next matches_ =>
      obtain ⟨environment, namespace_⟩ := not_or.mp matches_
      obtain ⟨before, state⟩ := beginMutation_state out b
      rw [state]
      exact LocalBroker.write_stepped cfg now out comes carries
        ⟨not_not.mp environment, not_not.mp namespace_⟩ before b

/-- The shadow broker checks the binding of a command before it records it. -/
theorem call_stepped (cfg : LedgerConfig) (now : Time) (out : Outside) (c : Call)
    (b : LocalBroker) :
    Stepped cfg (BoundTo cfg) now (.call c) b (call .exact cfg now out c b).2 := by
  cases c with
  | review ids proposal =>
    unfold call
    dsimp only
    split
    · exact .idle b.stateDirty rfl
    · have stepped := mutation_stepped cfg now out (c := .call (.review ids proposal)) rfl rfl b
      split
      next outcome =>
        rw [outcome] at stepped
        exact stepped
      next outcome =>
        rw [outcome] at stepped
        exact stepped
  | place command contract =>
    unfold call
    dsimp only
    split
    · exact .idle b.stateDirty rfl
    · split
      · exact .idle b.stateDirty rfl
      · exact write_stepped cfg now out rfl rfl b
  | cancel command ref =>
    unfold call
    dsimp only
    split
    · exact .idle b.stateDirty rfl
    · split
      · exact .idle b.stateDirty rfl
      · exact write_stepped cfg now out rfl rfl b
  | consumeQuote ids quote => exact mutation_stepped cfg now out rfl rfl b
  | deposit amount reference => exact mutation_stepped cfg now out rfl rfl b
  | processExpirations onDate policy settlements => exact mutation_stepped cfg now out rfl rfl b
  | flushState =>
    obtain ⟨dirty, state⟩ := persistState_state cfg now out b
    exact .idle dirty state

theorem request_stepped (cfg : LedgerConfig) (now : Time) (out : Outside) (r : Request)
    (b : LocalBroker) :
    Stepped cfg (BoundTo cfg) now r b (request .exact cfg now out r b).2 := by
  cases r with
  | call c => exact call_stepped cfg now out c b
  | record command => exact record_stepped cfg now out command b

end RobinhoodShadowBroker

/-! ### Runs of either broker -/

namespace LocalBroker

/-- A request at its time, with the outside's answers to it. -/
abbrev Step := Time × Outside × Request

/-- The commands of a run. -/
def commandsOf (calls : List Step) : List BrokerCommandIntent :=
  calls.filterMap fun step => step.2.2.command?

/-- One contract per instrument identifier, in everything the calls carry. -/
def OneContract (catalog : String → OptionContract) (calls : List Step) : Prop :=
  ∀ step ∈ calls, ∀ op ∈ step.2.2.op?, ∀ c ∈ op.contract?, catalog c.instrumentId = c

/-- What every reached broker satisfies. -/
structure Sound (cfg : LedgerConfig) (catalog : String → OptionContract) (now : Time)
    (commands : List BrokerCommandIntent) (b : LocalBroker) : Prop where
  solvent : b.ledger.Solvent cfg catalog
  refs : b.ledger.References now
  recorded : Recorded cfg commands b

theorem Recorded.of_maps {cfg : LedgerConfig} {commands : List BrokerCommandIntent}
    {b b' : LocalBroker} (ok : Recorded cfg commands b)
    (same : b'.recordedCommands = b.recordedCommands)
    (sameKeys : b'.commandIdempotency = b.commandIdempotency) : Recorded cfg commands b' where
  keyed := by
    rw [same]
    exact ok.keyed
  index := by
    rw [same, sameKeys]
    exact ok.index
  member := by
    rw [same]
    exact ok.member
  bound := by
    rw [same]
    exact ok.bound

theorem record_ledger {cfg : LedgerConfig} {out : Outside} {command : BrokerCommandIntent}
    {b r : LocalBroker} (done : recordBrokerCommandIntent cfg out command b = (.ok (), r)) :
    r.ledger = b.ledger := by
  rcases record_cases cfg out command b with ⟨e, raised⟩ | ⟨c, same, _⟩ | ⟨id, c, same, _⟩ | ⟨new, _⟩
  · rw [raised] at done
    cases done
  · rw [same] at done
    cases done
    rfl
  · rw [same] at done
    cases done
    rfl
  · rw [new] at done
    cases done
    rfl

section Run

variable {cfg : LedgerConfig} {catalog : String → OptionContract} {now at_ : Time}
  {commands : List BrokerCommandIntent} {guard : BrokerCommandIntent → Prop} {c : Request}
  {b b' : LocalBroker}

theorem Sound.perform (sound : Sound cfg catalog now commands b) (timely : at_ ≤ now)
    {op : ShadowLedger.Op} (one : ∀ k ∈ op.contract?, catalog k.instrumentId = k)
    {r : LocalBroker} (ledger : r.ledger = b.ledger) (recorded : Recorded cfg commands r)
    (dirty : Bool) : Sound cfg catalog now commands
      { r with ledger := (r.ledger.perform .exact cfg at_ op).2, stateDirty := dirty } where
  solvent := by
    simp only [ledger]
    exact (ShadowLedger.perform_solvent at_ op one sound.solvent).1
  refs := by
    simp only [ledger]
    exact ShadowLedger.perform_references timely op sound.solvent sound.refs
  recorded := recorded.of_maps rfl rfl

theorem Sound.step (sound : Sound cfg catalog now commands b) (timely : at_ ≤ now)
    (one : ∀ op ∈ c.op?, ∀ k ∈ op.contract?, catalog k.instrumentId = k)
    (inRun : ∀ command ∈ c.command?, command ∈ commands)
    (bound : ∀ command ∈ c.command?, guard command ∨ c = .record command →
      command.environment = .demo ∧ command.namespace_ = cfg.namespace_)
    (stepped : Stepped cfg guard at_ c b b') : Sound cfg catalog now commands b' := by
  cases stepped with
  | idle dirty is =>
    subst is
    exact ⟨sound.solvent, sound.refs, sound.recorded.of_maps rfl rfl⟩
  | plain dirty op comes _ is =>
    subst is
    exact sound.perform timely (one op comes) rfl sound.recorded dirty
  | written out command op before dirty r comes carries allowed recorded is =>
    subst is
    have ok : Recorded cfg commands { b with stateDirty := before } :=
      sound.recorded.of_maps rfl rfl
    have ledger : r.ledger = b.ledger := (record_ledger recorded).trans rfl
    exact sound.perform timely (one op comes) ledger
      (ok.record (inRun command carries) (bound command carries (Or.inl allowed)) recorded) dirty
  | direct out command asked recorded =>
    subst asked
    have ledger := record_ledger recorded
    exact
      { solvent := ledger ▸ sound.solvent
        refs := ledger ▸ sound.refs
        recorded := sound.recorded.record (inRun command rfl) (bound command rfl (Or.inr rfl))
          recorded }

theorem sound_fresh : Sound cfg catalog now commands (.fresh cfg) where
  solvent := ShadowLedger.fresh_solvent
  refs := ShadowLedger.fresh_references
  recorded :=
    { keyed := fun _ _ found => nomatch found
      index := rfl
      member := fun _ _ found => nomatch found
      bound := fun _ _ found => nomatch found }

end Run

/-! ### Rebuilding the recorder's maps -/

theorem commands_rebuilt {cfg : LedgerConfig} {commands : List BrokerCommandIntent}
    {b : LocalBroker} (ok : Recorded cfg commands b) :
    Dict.ofPairs (b.recordedCommandIntents.map fun c => (c.commandIntentId, c)) =
      b.recordedCommands :=
  Dict.ofPairs_values ok.keyed

theorem keys_rebuilt {cfg : LedgerConfig} {commands : List BrokerCommandIntent}
    {b : LocalBroker} (ok : Recorded cfg commands b) :
    Dict.ofPairs (b.recordedCommandIntents.map fun c => (c.idempotencyKey, c.commandIntentId)) =
      b.commandIdempotency := by
  have same : (b.recordedCommandIntents.map fun c => (c.idempotencyKey, c.commandIntentId)) =
      b.commandIdempotency.entries := by
    rw [ok.index, recordedCommandIntents, Dict.values, List.map_map]
    apply List.map_congr_left
    intro e member
    simp only [Function.comp_apply, ok.keyed e.1 e.2 (Dict.mem_entries.mp member)]
  rw [same]
  exact Dict.ext_entries (Dict.entries_ofPairs b.commandIdempotency.distinct)

theorem recorded_lengths {cfg : LedgerConfig} {commands : List BrokerCommandIntent}
    {b : LocalBroker} (ok : Recorded cfg commands b) :
    b.recordedCommands.entries.length = b.recordedCommandIntents.length ∧
      b.commandIdempotency.entries.length = b.recordedCommandIntents.length := by
  constructor
  · simp [recordedCommandIntents, Dict.values]
  · rw [ok.index]
    simp [recordedCommandIntents, Dict.values]

theorem recorded_bound {cfg : LedgerConfig} {commands : List BrokerCommandIntent}
    {b : LocalBroker} (ok : Recorded cfg commands b) :
    ∀ c ∈ b.recordedCommandIntents, c.environment = .demo ∧ c.namespace_ = cfg.namespace_ := by
  intro c member
  obtain ⟨id, found⟩ := Dict.mem_values.mp member
  exact ok.bound id c found

end LocalBroker

/-- A persisted simulated broker is its own restored snapshot. -/
theorem SimulatedBroker.restore_exportState {cfg : LedgerConfig}
    {catalog : String → OptionContract} {now later : Time} {commands : List BrokerCommandIntent}
    {b : LocalBroker} (sound : Sound cfg catalog now commands b) (waited : now ≤ later)
    (persisted : b.stateDirty = false) :
    ∃ snapshot, b.exportState cfg now = .ok snapshot ∧
      SimulatedBroker.restore .exact cfg later snapshot = .ok b := by
  obtain ⟨snapshot, exported, listed, restored⟩ := ShadowLedger.restoreState_exportState
    (.fresh cfg) sound.solvent sound.refs waited (recorded_bound sound.recorded)
  refine ⟨snapshot, exported, ?_⟩
  obtain ⟨commandCount, keyCount⟩ := recorded_lengths sound.recorded
  have counts : ¬(b.recordedCommands.entries.length ≠ b.recordedCommandIntents.length ∨
      b.commandIdempotency.entries.length ≠ b.recordedCommandIntents.length) := by
    simp [commandCount, keyCount]
  simp only [SimulatedBroker.restore, restored, listed, commands_rebuilt sound.recorded,
    keys_rebuilt sound.recorded, counts, if_false, ← persisted]

/-! ### Orders and keys of the shadow broker -/

namespace RobinhoodShadowBroker

open ShadowLedger (orderIdFor)

/-- No two commands of a run collide: one hash means one content, and one order
identifier means one placement. -/
structure Unambiguous (cfg : LedgerConfig) (commands : List BrokerCommandIntent) : Prop where
  hashes : ∀ c ∈ commands, ∀ d ∈ commands,
    c.commandHash cfg.hashing = d.commandHash cfg.hashing → c.SameContent d
  placements : ∀ c ∈ commands, ∀ d ∈ commands, c.action = .placeOptionOrder →
    d.action = .placeOptionOrder → orderIdFor cfg c = orderIdFor cfg d → c.SameContent d

/-- Every order leads to its recorded command and back through its key; every key of the
ledger leads to a recorded command that agrees with the order it stands for. -/
structure Linked (cfg : LedgerConfig) (commands : List BrokerCommandIntent) (b : LocalBroker) :
    Prop where
  placed : ∀ key item, b.ledger.orders.get? key = some item →
    item.command ∈ commands ∧ item.command.action = .placeOptionOrder ∧
      orderIdFor cfg item.command = key
  recorded : ∀ key item, b.ledger.orders.get? key = some item →
    ∃ c, b.recordedCommands.get? item.command.commandIntentId = some c ∧
      c.commandHash cfg.hashing = item.command.commandHash cfg.hashing
  target : ∀ key item, b.ledger.orders.get? key = some item →
    b.ledger.orderByIdempotency.get? item.command.idempotencyKey = some key
  keys : ∀ k id, b.ledger.orderByIdempotency.get? k = some id →
    ∃ commandId c item, b.commandIdempotency.get? k = some commandId ∧
      b.recordedCommands.get? commandId = some c ∧ b.ledger.orders.get? id = some item ∧
      c.instrumentId = item.published.contract.instrumentId ∧
      (c.action = .placeOptionOrder →
        c.commandHash cfg.hashing = item.command.commandHash cfg.hashing)

section Link

variable {cfg : LedgerConfig} {commands : List BrokerCommandIntent} {b r : LocalBroker}
  {command : BrokerCommandIntent} {out : Outside}

/-- A command that was recorded, as the recorder's maps show it. -/
structure Known (cfg : LedgerConfig) (command : BrokerCommandIntent) (b : LocalBroker) : Prop where
  key : b.commandIdempotency.get? command.idempotencyKey = some command.commandIntentId
  content : ∃ c, b.recordedCommands.get? command.commandIntentId = some c ∧
    c.SameContent command ∧ c.commandHash cfg.hashing = command.commandHash cfg.hashing

theorem known_of_record (clear : Unambiguous cfg commands) (ok : Recorded cfg commands b)
    (inRun : command ∈ commands)
    (done : recordBrokerCommandIntent cfg out command b = (.ok (), r)) : Known cfg command r := by
  rcases record_cases cfg out command b with
    ⟨e, raised⟩ | ⟨c, same, found, hash⟩ | ⟨id, c, same, missing, found, hash⟩ | ⟨new, _, _⟩
  · rw [raised] at done
    cases done
  · rw [same] at done
    cases done
    have content := clear.hashes c (ok.member _ c found) command inRun hash
    have key : c.idempotencyKey = command.idempotencyKey := by rw [content]
    exact ⟨key ▸ ok.key_of_command found, c, found, content, hash⟩
  · -- a command found under its key alone would carry the identifier it was not found under
    have content := clear.hashes c (ok.member id c found) command inRun hash
    have sameId : c.commandIntentId = command.commandIntentId := by rw [content]
    rw [← sameId, ok.keyed id c found, found] at missing
    cases missing
  · rw [new] at done
    cases done
    exact ⟨Dict.get?_set_self _ _ _, command, Dict.get?_set_self _ _ _, rfl, rfl⟩

/-- Recording never changes an entry of the recorder's maps. -/
theorem record_grows (done : recordBrokerCommandIntent cfg out command b = (.ok (), r)) :
    (∀ id c, b.recordedCommands.get? id = some c → r.recordedCommands.get? id = some c) ∧
      ∀ k id, b.commandIdempotency.get? k = some id → r.commandIdempotency.get? k = some id := by
  rcases record_cases cfg out command b with
    ⟨e, raised⟩ | ⟨c, same, _⟩ | ⟨id, c, same, _⟩ | ⟨new, newId, newKey⟩
  · rw [raised] at done
    cases done
  · rw [same] at done
    cases done
    exact ⟨fun _ _ found => found, fun _ _ found => found⟩
  · rw [same] at done
    cases done
    exact ⟨fun _ _ found => found, fun _ _ found => found⟩
  · rw [new] at done
    cases done
    constructor
    · intro id c found
      rw [Dict.get?_set_of_ne _ _ ?_]
      · exact found
      · rintro rfl
        rw [newId] at found
        cases found
    · intro k id found
      rw [Dict.get?_set_of_ne _ _ ?_]
      · exact found
      · rintro rfl
        rw [newKey] at found
        cases found

theorem Linked.record (linked : Linked cfg commands b)
    (done : recordBrokerCommandIntent cfg out command b = (.ok (), r)) :
    Linked cfg commands r := by
  obtain ⟨growsCommands, growsKeys⟩ := record_grows done
  have ledger := record_ledger done
  refine ⟨?_, ?_, ?_, ?_⟩
  · rw [ledger]
    exact linked.placed
  · rw [ledger]
    intro key item found
    obtain ⟨c, there, hash⟩ := linked.recorded key item found
    exact ⟨c, growsCommands _ c there, hash⟩
  · rw [ledger]
    exact linked.target
  · rw [ledger]
    intro k id found
    obtain ⟨commandId, c, item, key, there, order, instrument, hash⟩ := linked.keys k id found
    exact ⟨commandId, c, item, growsKeys k commandId key, growsCommands _ c there, order,
      instrument, hash⟩

/-- Progress of the orders with the same keys keeps the links. -/
theorem Linked.of_kept (linked : Linked cfg commands b) {paid : ℚ} {ledger : ShadowLedger}
    (kept : ShadowLedger.Kept paid b.ledger ledger)
    (same : ledger.orderByIdempotency = b.ledger.orderByIdempotency) (dirty : Bool) :
    Linked cfg commands { b with ledger := ledger, stateDirty := dirty } := by
  have back : ∀ key item', ledger.orders.get? key = some item' →
      ∃ item, b.ledger.orders.get? key = some item ∧ item'.command = item.command := by
    intro key item' found
    obtain ⟨item, before, moved⟩ := kept.orders key item' found
    exact ⟨item, before, by rw [moved.frame]⟩
  refine ⟨?_, ?_, ?_, ?_⟩
  · intro key item' found
    obtain ⟨item, before, command⟩ := back key item' found
    rw [command]
    exact linked.placed key item before
  · intro key item' found
    obtain ⟨item, before, command⟩ := back key item' found
    rw [command]
    exact linked.recorded key item before
  · intro key item' found
    obtain ⟨item, before, command⟩ := back key item' found
    simp only [command, same]
    exact linked.target key item before
  · intro k id found
    simp only [same] at found
    obtain ⟨commandId, c, item, key, there, order, instrument, hash⟩ := linked.keys k id found
    obtain ⟨item', order', moved⟩ := kept.progress order
    refine ⟨commandId, c, item', key, there, order', ?_, ?_⟩
    · rw [moved.contract]
      exact instrument
    · rw [moved.frame]
      exact hash

/-- A key that is remembered for an order of a known cancellation keeps the links. -/
theorem Linked.remember (linked : Linked cfg commands b) (known : Known cfg command b)
    {key : UUID} {item : LedgerOrder} (found : b.ledger.orders.get? key = some item)
    (unused : b.ledger.orderByIdempotency.get? command.idempotencyKey = none)
    (action : command.action = .cancelOptionOrder)
    (instrument : command.instrumentId = item.published.contract.instrumentId) (dirty : Bool) :
    Linked cfg commands
      { b with ledger := b.ledger.remember command.idempotencyKey key, stateDirty := dirty } where
  placed := linked.placed
  recorded := linked.recorded
  target := by
    intro k old there
    simp only [ShadowLedger.remember]
    rw [Dict.get?_set_of_ne _ _ ?_]
    · exact linked.target k old there
    · intro equal
      rw [equal, linked.target k old there] at unused
      cases unused
  keys := by
    intro k id there
    simp only [ShadowLedger.remember, Dict.get?_set] at there
    split at there
    next same =>
      cases there
      subst same
      obtain ⟨c, recorded, content, _⟩ := known.content
      refine ⟨_, c, item, known.key, recorded, found, ?_, ?_⟩
      · rw [content]
        exact instrument
      · intro placement
        rw [content] at placement
        rw [action] at placement
        cases placement
    · exact linked.keys k id there

/-- A placement whose key is new gets an order identifier that is new. -/
theorem Linked.order_unused (linked : Linked cfg commands b) (clear : Unambiguous cfg commands)
    (inRun : command ∈ commands) (action : command.action = .placeOptionOrder)
    (unused : b.ledger.orderByIdempotency.get? command.idempotencyKey = none) :
    b.ledger.orders.get? (orderIdFor cfg command) = none := by
  cases found : b.ledger.orders.get? (orderIdFor cfg command) with
  | none => rfl
  | some old =>
    obtain ⟨oldInRun, oldAction, oldId⟩ := linked.placed _ old found
    have content := clear.placements old.command oldInRun command inRun oldAction action oldId
    have key : old.command.idempotencyKey = command.idempotencyKey := by rw [content]
    have target := linked.target _ old found
    rw [key, unused] at target
    cases target

theorem Linked.submit (linked : Linked cfg commands b) (clear : Unambiguous cfg commands)
    (inRun : command ∈ commands) (known : Known cfg command b) (at_ : Time)
    (contract : OptionContract) (dirty : Bool) :
    Linked cfg commands { b with
      ledger := (ShadowLedger.submit .exact cfg at_ command contract b.ledger).2
      stateDirty := dirty } := by
  rcases ShadowLedger.submit_cases .exact at_ command contract with same | ⟨bound, unused, done⟩
  · rw [same]
    exact ⟨linked.placed, linked.recorded, linked.target, linked.keys⟩
  rw [done]
  have free := linked.order_unused clear inRun bound.action unused
  have orders := ShadowLedger.recordSubmission_orders cfg b.ledger at_ command contract .exact
  have idempotency := congrArg ShadowLedger.orderByIdempotency
    (ShadowLedger.recordSubmission_frame cfg b.ledger at_ command contract .exact)
  set ledger := (ShadowLedger.recordSubmission .exact cfg at_ command contract b.ledger).2
  obtain ⟨c, recorded, content, hash⟩ := known.content
  -- an order of the new book is the new one or an old one
  have cases_ : ∀ key item, ledger.orders.get? key = some item →
      (orderIdFor cfg command = key ∧ item.command = command ∧
        item.published.contract = contract) ∨ b.ledger.orders.get? key = some item := by
    intro key item found
    rw [orders, Dict.get?_set] at found
    split at found
    next same =>
      cases found
      exact Or.inl ⟨same, rfl, rfl⟩
    · exact Or.inr found
  have kept : ∀ key item, b.ledger.orders.get? key = some item →
      ledger.orders.get? key = some item := by
    intro key item found
    rw [orders, Dict.get?_set_of_ne _ _ ?_]
    · exact found
    · rintro rfl
      rw [free] at found
      cases found
  refine ⟨?_, ?_, ?_, ?_⟩
  · intro key item found
    rcases cases_ key item found with ⟨id, isCommand, _⟩ | old
    · rw [isCommand]
      exact ⟨inRun, bound.action, id⟩
    · exact linked.placed key item old
  · intro key item found
    rcases cases_ key item found with ⟨_, isCommand, _⟩ | old
    · rw [isCommand]
      exact ⟨c, recorded, hash⟩
    · exact linked.recorded key item old
  · intro key item found
    simp only [idempotency]
    rcases cases_ key item found with ⟨id, isCommand, _⟩ | old
    · rw [isCommand, id]
      exact Dict.get?_set_self _ _ _
    · rw [Dict.get?_set_of_ne _ _ ?_]
      · exact linked.target key item old
      · intro equal
        rw [equal, linked.target key item old] at unused
        cases unused
  · intro k id found
    simp only [idempotency, Dict.get?_set] at found
    split at found
    next same =>
      cases found
      subst same
      refine ⟨_, c, ShadowLedger.recordedOrder cfg at_ command contract
        (ShadowLedger.rejectionReasonsFor .exact cfg at_ command contract b.ledger),
        known.key, recorded, ?_, ?_, fun _ => hash⟩
      · rw [orders]
        exact Dict.get?_set_self _ _ _
      · rw [content]
        exact bound.instrument
    · obtain ⟨commandId, c', item, key, there, order, instrument, agrees⟩ := linked.keys k id found
      exact ⟨commandId, c', item, key, there, kept id item order, instrument, agrees⟩

theorem Linked.cancel {catalog : String → OptionContract} (linked : Linked cfg commands b)
    (solvent : b.ledger.Solvent cfg catalog) (known : Known cfg command b) (ref : OrderRef)
    (dirty : Bool) :
    Linked cfg commands { b with
      ledger := (ShadowLedger.cancel cfg command ref b.ledger).2
      stateDirty := dirty } := by
  rcases ShadowLedger.cancel_cases command ref with
    same | ⟨key, item, targets, remembered | ⟨isOpen, canceled⟩⟩
  · rw [same]
    exact ⟨linked.placed, linked.recorded, linked.target, linked.keys⟩
  · rw [remembered, (solvent.orders_ok key item targets.found).key_eq]
    exact linked.remember known targets.found targets.unused targets.action targets.instrument
      dirty
  · rw [canceled, (solvent.orders_ok key item targets.found).key_eq]
    obtain ⟨_, kept⟩ := ShadowLedger.endOrder_kept solvent targets.found isOpen
    have ended := linked.of_kept kept rfl b.stateDirty
    obtain ⟨item', found', moved⟩ := kept.progress targets.found
    exact ended.remember ⟨known.key, known.content⟩ found' targets.unused targets.action
      (by rw [moved.contract]; exact targets.instrument) dirty

/-- Every call of the shadow broker keeps the links. -/
theorem Linked.step {catalog : String → OptionContract} {now at_ : Time} {c : Request}
    {b' : LocalBroker} (linked : Linked cfg commands b) (clear : Unambiguous cfg commands)
    (sound : Sound cfg catalog now commands b)
    (inRun : ∀ command ∈ c.command?, command ∈ commands)
    (stepped : Stepped cfg (BoundTo cfg) at_ c b b') : Linked cfg commands b' := by
  cases stepped with
  | idle dirty is =>
    subst is
    exact ⟨linked.placed, linked.recorded, linked.target, linked.keys⟩
  | plain dirty op comes none_ is =>
    subst is
    obtain c | _ := c
    swap
    · cases comes
    cases c with
    | review ids proposal =>
      cases comes
      exact linked.of_kept (ShadowLedger.review_kept at_ ids proposal sound.solvent).2 rfl dirty
    | place command contract => cases none_
    | cancel command ref => cases none_
    | consumeQuote ids quote =>
      cases comes
      refine linked.of_kept (ShadowLedger.observeQuote_kept at_ ids quote sound.solvent).2 ?_ dirty
      rcases ShadowLedger.observeQuote_indexes .exact cfg at_ ids quote b.ledger with
        same | ⟨_, _, same⟩
      · exact same.idempotency
      · exact same.idempotency
    | deposit amount reference =>
      cases comes
      refine linked.of_kept (ShadowLedger.deposit_kept at_ amount reference sound.solvent).2 ?_
        dirty
      unfold ShadowLedger.deposit
      split <;> rfl
    | processExpirations onDate policy settlements =>
      cases comes
      exact linked.of_kept
        (ShadowLedger.expire_kept at_ onDate policy settlements sound.solvent).2
        (ShadowLedger.expire_indexes .exact cfg at_ onDate policy settlements b.ledger).idempotency
        dirty
    | flushState => cases comes
  | written out command op before dirty r comes carries allowed recorded is =>
    subst is
    have marked : Linked cfg commands { b with stateDirty := before } :=
      ⟨linked.placed, linked.recorded, linked.target, linked.keys⟩
    have linked' := marked.record recorded
    have ok : Recorded cfg commands { b with stateDirty := before } :=
      sound.recorded.of_maps rfl rfl
    have known := known_of_record clear ok (inRun command carries) recorded
    have ledger : r.ledger = b.ledger := (record_ledger recorded).trans rfl
    have solvent : r.ledger.Solvent cfg catalog := by
      rw [ledger]
      exact sound.solvent
    obtain c | _ := c
    swap
    · cases comes
    cases c with
    | place command' contract =>
      cases carries
      cases comes
      exact linked'.submit clear (inRun command rfl) known at_ contract dirty
    | cancel command' ref =>
      cases carries
      cases comes
      exact linked'.cancel solvent known ref dirty
    | _ => cases carries
  | direct out command asked recorded => exact linked.record recorded

theorem restoreCommands_exportState {catalog : String → OptionContract} {now : Time}
    {snapshot : LedgerSnapshot} (sound : Sound cfg catalog now commands b)
    (linked : Linked cfg commands b) (exported : b.exportState cfg now = .ok snapshot) :
    restoreCommands cfg snapshot = .ok (b.recordedCommands, b.commandIdempotency) := by
  have orders : Dict.ofPairs (b.ledger.orders.values.map fun item =>
      (item.published.orderId, item)) = b.ledger.orders :=
    Dict.ofPairs_values fun k v found => (sound.solvent.orders_ok k v found).key_eq
  obtain ⟨commandCount, keyCount⟩ := recorded_lengths sound.recorded
  have counts : ¬(b.recordedCommands.entries.length ≠ b.recordedCommandIntents.length ∨
      b.commandIdempotency.entries.length ≠ b.recordedCommands.entries.length) := by
    simp [commandCount, keyCount]
  unfold LocalBroker.exportState ShadowLedger.exportState at exported
  rw [dif_pos sound.solvent.cash_nonneg] at exported
  cases exported
  unfold restoreCommands
  dsimp only
  rw [commands_rebuilt sound.recorded, keys_rebuilt sound.recorded, orders, if_neg counts]
  rw [List.findSome?_eq_none_iff.mpr ?_]
  · dsimp only
    rw [List.findSome?_eq_none_iff.mpr ?_]
    intro entry member
    obtain ⟨commandId, c, item, key, recorded, order, instrument, hash⟩ :=
      linked.keys entry.1 entry.2 (Dict.mem_entries.mp member)
    have agrees : ¬(c.action = .placeOptionOrder ∧
        c.commandHash cfg.hashing ≠ item.command.commandHash cfg.hashing) :=
      fun differs => differs.2 (hash differs.1)
    simp only [keyIssue, key, recorded, order, instrument, ne_eq, not_true_eq_false, if_false,
      agrees]
  · intro item member
    obtain ⟨key, found⟩ := Dict.mem_values.mp member
    obtain ⟨c, recorded, hash⟩ := linked.recorded key item found
    have target := linked.target key item found
    rw [← (sound.solvent.orders_ok key item found).key_eq] at target
    simp only [orderIssue, recorded, hash, target, ne_eq, not_true_eq_false, if_false]

/-- A persisted shadow broker is its own restored snapshot. -/
theorem restore_exportState {catalog : String → OptionContract} {now later : Time}
    (sound : Sound cfg catalog now commands b) (linked : Linked cfg commands b)
    (waited : now ≤ later) (persisted : b.stateDirty = false) :
    ∃ snapshot, b.exportState cfg now = .ok snapshot ∧
      restore .exact cfg later snapshot = .ok b := by
  obtain ⟨snapshot, exported, listed, restored⟩ := ShadowLedger.restoreState_exportState
    (.fresh cfg) sound.solvent sound.refs waited (recorded_bound sound.recorded)
  refine ⟨snapshot, exported, ?_⟩
  simp only [restore, restored, restoreCommands_exportState sound linked exported, ← persisted]

end Link

end RobinhoodShadowBroker

/-! ### Whole runs -/

section Runs

variable {cfg : LedgerConfig} {catalog : String → OptionContract} {now : Time}

theorem mem_commandsOf {calls : List Step} {step : Step} (member : step ∈ calls)
    {command : BrokerCommandIntent} (carries : command ∈ step.2.2.command?) :
    command ∈ commandsOf calls :=
  List.mem_filterMap.mpr ⟨step, member, carries⟩

theorem SimulatedBroker.run_sound {commands : List BrokerCommandIntent}
    (bound : ∀ command ∈ commands, RobinhoodShadowBroker.BoundTo cfg command) (calls : List Step)
    (one : LocalBroker.OneContract catalog calls) (timely : ∀ step ∈ calls, step.1 ≤ now)
    (inRun : ∀ step ∈ calls, ∀ command ∈ step.2.2.command?, command ∈ commands) (b : LocalBroker)
    (sound : Sound cfg catalog now commands b) :
    Sound cfg catalog now commands (SimulatedBroker.run .exact cfg calls b) := by
  induction calls generalizing b with
  | nil => exact sound
  | cons step rest ih =>
    refine ih (fun s member => one s (List.mem_cons_of_mem _ member))
      (fun s member => timely s (List.mem_cons_of_mem _ member))
      (fun s member => inRun s (List.mem_cons_of_mem _ member)) _ ?_
    exact sound.step (timely step List.mem_cons_self) (one step List.mem_cons_self)
      (inRun step List.mem_cons_self)
      (fun command carries _ => bound command (inRun step List.mem_cons_self command carries))
      (SimulatedBroker.request_stepped cfg step.1 step.2.1 step.2.2 b)

theorem RobinhoodShadowBroker.run_linked {commands : List BrokerCommandIntent}
    (clear : RobinhoodShadowBroker.Unambiguous cfg commands) (calls : List Step)
    (bound : ∀ step ∈ calls, ∀ command, step.2.2 = .record command →
      RobinhoodShadowBroker.BoundTo cfg command) (one : LocalBroker.OneContract catalog calls) (timely : ∀ step ∈ calls, step.1 ≤ now)
    (inRun : ∀ step ∈ calls, ∀ command ∈ step.2.2.command?, command ∈ commands) (b : LocalBroker)
    (sound : Sound cfg catalog now commands b)
    (linked : RobinhoodShadowBroker.Linked cfg commands b) :
    Sound cfg catalog now commands (RobinhoodShadowBroker.run .exact cfg calls b) ∧
      RobinhoodShadowBroker.Linked cfg commands (RobinhoodShadowBroker.run .exact cfg calls b) := by
  induction calls generalizing b with
  | nil => exact ⟨sound, linked⟩
  | cons step rest ih =>
    have stepped := RobinhoodShadowBroker.request_stepped cfg step.1 step.2.1 step.2.2 b
    refine ih (fun s member => bound s (List.mem_cons_of_mem _ member))
      (fun s member => one s (List.mem_cons_of_mem _ member))
      (fun s member => timely s (List.mem_cons_of_mem _ member))
      (fun s member => inRun s (List.mem_cons_of_mem _ member)) _ ?_ ?_
    · exact sound.step (timely step List.mem_cons_self) (one step List.mem_cons_self)
        (inRun step List.mem_cons_self)
        (fun command _ checked => checked.elim id (bound step List.mem_cons_self command)) stepped
    · exact linked.step clear sound (inRun step List.mem_cons_self) stepped

theorem RobinhoodShadowBroker.linked_fresh (commands : List BrokerCommandIntent) :
    RobinhoodShadowBroker.Linked cfg commands (.fresh cfg) where
  placed := fun _ _ found => nomatch found
  recorded := fun _ _ found => nomatch found
  target := fun _ _ found => nomatch found
  keys := fun _ _ found => nomatch found

end Runs

/-- A snapshot apart from the time it was taken. -/
def LedgerSnapshot.at_ (snapshot : LedgerSnapshot) (time : Time) : LedgerSnapshot :=
  { snapshot with recordedAt := time }

theorem ShadowLedger.exportState_at (cfg : LedgerConfig) (now later : Time)
    (commands : List BrokerCommandIntent) (s : ShadowLedger) {snapshot : LedgerSnapshot}
    (exported : s.exportState cfg now commands = .ok snapshot) :
    s.exportState cfg later commands = .ok (snapshot.at_ later) := by
  unfold exportState at exported ⊢
  split at exported
  next covered =>
    cases exported
    rw [dif_pos covered]
    rfl
  · cases exported

/-- The round trip of the ledger and of both brokers, over every run of exact arithmetic
whose clock never passes the snapshot's and whose instrument identifiers denote one
contract each. The restored instance accepts the snapshot, exports it again, and its
ledger answers every later run as the original would with the same fresh identifiers. -/
theorem snapshot_roundTrip (cfg : LedgerConfig) (catalog : String → OptionContract)
    (now later : Time) (waited : now ≤ later) :
    (∀ ops, ShadowLedger.OneContract catalog ops → (∀ step ∈ ops, step.1 ≤ now) →
      let s := ShadowLedger.run .exact cfg ops (.fresh cfg)
      ∃ snapshot restored, s.exportState cfg now [] = .ok snapshot ∧
        ShadowLedger.restoreState .exact cfg later snapshot (.fresh cfg) = (.ok (), restored) ∧
        restored.exportState cfg later [] = .ok (snapshot.at_ later) ∧
        ∀ future, restored.answers .exact cfg future = s.answers .exact cfg future) ∧
    (∀ calls, LocalBroker.OneContract catalog calls → (∀ step ∈ calls, step.1 ≤ now) →
      (∀ command ∈ commandsOf calls, RobinhoodShadowBroker.BoundTo cfg command) →
      let b := SimulatedBroker.run .exact cfg calls (.fresh cfg)
      b.stateDirty = false → ∃ snapshot restored, b.exportState cfg now = .ok snapshot ∧
        SimulatedBroker.restore .exact cfg later snapshot = .ok restored ∧
        restored.exportState cfg later = .ok (snapshot.at_ later) ∧
        ∀ future, restored.ledger.answers .exact cfg future = b.ledger.answers .exact cfg future) ∧
    (∀ calls, LocalBroker.OneContract catalog calls → (∀ step ∈ calls, step.1 ≤ now) →
      RobinhoodShadowBroker.Unambiguous cfg (commandsOf calls) →
      (∀ step ∈ calls, ∀ command, step.2.2 = .record command →
        RobinhoodShadowBroker.BoundTo cfg command) →
      let b := RobinhoodShadowBroker.run .exact cfg calls (.fresh cfg)
      b.stateDirty = false → ∃ snapshot restored, b.exportState cfg now = .ok snapshot ∧
        RobinhoodShadowBroker.restore .exact cfg later snapshot = .ok restored ∧
        restored.exportState cfg later = .ok (snapshot.at_ later) ∧
        ∀ future, restored.ledger.answers .exact cfg future =
          b.ledger.answers .exact cfg future) := by
  refine ⟨?_, ?_, ?_⟩
  · intro ops one timely s
    have solvent : s.Solvent cfg catalog := ShadowLedger.run_fresh_solvent ops one
    have refs : s.References now := ShadowLedger.run_references ops one timely _
      ShadowLedger.fresh_solvent ShadowLedger.fresh_references
    obtain ⟨snapshot, exported, _, restored⟩ := ShadowLedger.restoreState_exportState
      (.fresh cfg) solvent refs waited
      (fun c (member : c ∈ []) => absurd member List.not_mem_nil)
    exact ⟨snapshot, s, exported, restored, s.exportState_at cfg now later [] exported,
      fun _ => rfl⟩
  · intro calls one timely bound b persisted
    have sound : Sound cfg catalog now (commandsOf calls) b :=
      SimulatedBroker.run_sound bound calls one timely
        (fun step member command carries => mem_commandsOf member carries) _ sound_fresh
    obtain ⟨snapshot, exported, restored⟩ :=
      SimulatedBroker.restore_exportState sound waited persisted
    exact ⟨snapshot, b, exported, restored,
      b.ledger.exportState_at cfg now later _ exported, fun _ => rfl⟩
  · intro calls one timely clear direct b persisted
    obtain ⟨sound, linked⟩ : Sound cfg catalog now (commandsOf calls) b ∧
        RobinhoodShadowBroker.Linked cfg (commandsOf calls) b :=
      RobinhoodShadowBroker.run_linked clear calls direct one timely
        (fun step member command carries => mem_commandsOf member carries) _ sound_fresh
        (RobinhoodShadowBroker.linked_fresh _)
    obtain ⟨snapshot, exported, restored⟩ :=
      RobinhoodShadowBroker.restore_exportState sound linked waited persisted
    exact ⟨snapshot, b, exported, restored,
      b.ledger.exportState_at cfg now later _ exported, fun _ => rfl⟩

section Samples

open ShadowLedger

/-- The cancellation of the exit of the sample run. -/
def sampleCancel : BrokerCommandIntent :=
  sampleCommand 13 .cancelOptionOrder .sellToClose 1 ⟨2, 0⟩

/-- The entry and the exit of the sample run, and a cancellation that is recorded before it is
asked for, as broker calls. -/
def sampleCalls : List Step :=
  [(10, {}, .call (.place (sampleCommand 11 .placeOptionOrder .buyToOpen 2 ⟨150, -2⟩)
      sampleContract)),
    (20, {}, .call (.consumeQuote sampleIds (sampleQuote 5 15 15 1 (5 / 4)))),
    (30, {}, .call (.place (sampleCommand 12 .placeOptionOrder .sellToClose 1 ⟨2, 0⟩)
      sampleContract)),
    (35, {}, .record sampleCancel),
    (40, {}, .call (.cancel sampleCancel (.uuid (orderIdFor sampleConfig
      (sampleCommand 12 .placeOptionOrder .sellToClose 1 ⟨2, 0⟩)))))]

theorem sampleCalls_one : LocalBroker.OneContract (fun _ => sampleContract) sampleCalls := by
  intro step member op comes c named
  simp only [sampleCalls, List.mem_cons, List.not_mem_nil, or_false] at member
  rcases member with rfl | rfl | rfl | rfl | rfl <;> cases comes <;>
    first | exact Option.mem_some.mp named | cases named

theorem sampleCalls_bound : ∀ step ∈ sampleCalls, ∀ command, step.2.2 = .record command →
    RobinhoodShadowBroker.BoundTo sampleConfig command := by
  intro step member command asked
  simp only [sampleCalls, List.mem_cons, List.not_mem_nil, or_false] at member
  rcases member with rfl | rfl | rfl | rfl | rfl <;> cases asked
  exact ⟨rfl, rfl⟩

theorem sampleCalls_unambiguous :
    RobinhoodShadowBroker.Unambiguous sampleConfig (commandsOf sampleCalls) := by
  have three : commandsOf sampleCalls =
      [sampleCommand 11 .placeOptionOrder .buyToOpen 2 ⟨150, -2⟩,
        sampleCommand 12 .placeOptionOrder .sellToClose 1 ⟨2, 0⟩, sampleCancel,
        sampleCancel] := rfl
  rw [three]
  constructor
  · intro c inC d inD same
    simp only [List.mem_cons, List.not_mem_nil, or_false] at inC inD
    rcases inC with rfl | rfl | rfl | rfl <;> rcases inD with rfl | rfl | rfl | rfl <;>
      first | rfl | exact absurd same (by decide +kernel)
  · intro c inC d inD actionC actionD same
    simp only [List.mem_cons, List.not_mem_nil, or_false] at inC inD
    rcases inC with rfl | rfl | rfl | rfl <;> rcases inD with rfl | rfl | rfl | rfl <;>
      first | rfl | exact absurd same (by decide +kernel)

theorem snapshot_roundTrip_sampleCalls :
    (let b := RobinhoodShadowBroker.run .exact sampleConfig sampleCalls (.fresh sampleConfig);
      b.ledger.orders.values.map (·.published.state) = [.filled, .canceled] ∧
      ∃ snapshot restored, b.exportState sampleConfig 50 = .ok snapshot ∧
        RobinhoodShadowBroker.restore .exact sampleConfig 60 snapshot = .ok restored ∧
        restored.exportState sampleConfig 60 = .ok (snapshot.at_ 60) ∧
        ∀ future, restored.ledger.answers .exact sampleConfig future =
          b.ledger.answers .exact sampleConfig future) := by
  have timely : ∀ step ∈ sampleCalls, step.1 ≤ 50 := by decide +kernel
  exact ⟨by decide +kernel,
    (snapshot_roundTrip sampleConfig (fun _ => sampleContract) 50 60 (by norm_num)).2.2
      sampleCalls sampleCalls_one timely sampleCalls_unambiguous sampleCalls_bound
      (by decide +kernel)⟩

/-- Why a ledger's snapshot is refused, if it is. -/
def ledgerRefusal (D : Decimal.Context) (cfg : LedgerConfig) (ops : List (Time × Op))
    (now : Time) : Option Exc :=
  match (run D cfg ops (.fresh cfg)).exportState cfg now [] with
  | .error e => some e
  | .ok snapshot => raised (restoreState D cfg now snapshot (.fresh cfg)).1

/-- A contract that shares its instrument identifier with the sample, but has expired. -/
def reusedContract : OptionContract := { sampleContract with expiration := 0 }

/-- Two contracts under one identifier: the position in the first expires under a closing
order in the second, and a later entry is smaller than that order. -/
def reusedRun : List (Time × Op) :=
  let quote (id : Nat) (time : Time) : OptionQuote :=
    { sampleQuote id time time 1 (5 / 4) with contract := reusedContract }
  [(10, .submit (sampleCommand 11 .placeOptionOrder .buyToOpen 2 ⟨150, -2⟩) reusedContract),
    (20, .observeQuote sampleIds (quote 5 15)),
    (30, .submit { sampleCommand 12 .placeOptionOrder .sellToClose 2 ⟨9, 0⟩ with
      timeInForce := "gtc" } sampleContract),
    (40, .expire none .doNotExercise .empty),
    (50, .submit (sampleCommand 13 .placeOptionOrder .buyToOpen 1 ⟨150, -2⟩) sampleContract),
    (60, .observeQuote sampleIds (quote 6 55))]

/-- A placement under another namespace. -/
def foreignPlacement : BrokerCommandIntent :=
  { sampleCommand 11 .placeOptionOrder .buyToOpen 1 ⟨1, 0⟩ with namespace_ := "other" }

def foreignCalls : List Step := [(10, {}, .call (.place foreignPlacement sampleContract))]

/-- Two placements for one order intent. -/
def sharedCalls : List Step :=
  [(10, {}, .call (.place (sampleCommand 11 .placeOptionOrder .buyToOpen 1 ⟨1, 0⟩)
      sampleContract)),
    (20, {}, .call (.place { sampleCommand 12 .placeOptionOrder .buyToOpen 1 ⟨1, 0⟩ with
      orderIntentId := ⟨11⟩ } sampleContract))]

/-- Snapshots that are refused: of a clock that moved back before they were taken, of a
rounded buying power, of two contracts under one identifier; of a simulated broker that
recorded a foreign command, and of a shadow broker with two placements for one intent or with a
foreign command that was recorded directly. -/
theorem snapshot_refused :
    ledgerRefusal .exact sampleConfig [(20, .observeQuote sampleIds (sampleQuote 5 15 15 1 2))] 12 =
      some (.dataInvalid "ledger snapshot contains a future quote") ∧
    ledgerRefusal (.halfEven 28) vastConfig vastRun 20 = some (.safetyCritical
      "invalid restored ledger: open buy reservations exceed cash") ∧
    ledgerRefusal .exact sampleConfig reusedRun 70 = some (.safetyCritical
      "invalid restored ledger: position spy-put is oversubscribed by close orders") ∧
    (let b := SimulatedBroker.run .exact sampleConfig foreignCalls (.fresh sampleConfig);
      b.stateDirty = false ∧
        (b.exportState sampleConfig 20).toOption.map (fun snapshot =>
          raised (SimulatedBroker.restore .exact sampleConfig 20 snapshot)) =
            some (some (.safetyCritical "recorded command does not match ledger identity"))) ∧
    (let b := RobinhoodShadowBroker.run .exact sampleConfig sharedCalls (.fresh sampleConfig);
      b.stateDirty = false ∧
        (b.exportState sampleConfig 20).toOption.map (fun snapshot =>
          raised (RobinhoodShadowBroker.restore .exact sampleConfig 20 snapshot)) =
            some (some (.safetyCritical
              "restored shadow placement command differs from its order"))) ∧
    (let b := RobinhoodShadowBroker.run .exact sampleConfig [(10, {}, .record foreignPlacement)]
        (.fresh sampleConfig);
      b.stateDirty = false ∧
        (b.exportState sampleConfig 20).toOption.map (fun snapshot =>
          raised (RobinhoodShadowBroker.restore .exact sampleConfig 20 snapshot)) =
            some (some (.safetyCritical "recorded command does not match ledger identity"))) := by
  decide +kernel

end Samples

end Sentry
