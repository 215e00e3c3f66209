import Sentry.Ledger.Snapshot

/-!
# The ledger-backed brokers

`IntentRecordingBroker` (`app/broker/base.py`), `SimulatedBroker`
(`app/broker/simulated.py`) and `RobinhoodShadowBroker` (`app/broker/shadow.py`):
what they keep beside their ledger, how a call changes it, and how a snapshot
becomes a broker again. Calls hold the broker's lock, so a call is one step; so is the
direct recording of a command, which takes no lock.
What a call asks of the outside (capability validation, the deny-all firewall,
the recorders) is an argument of the call; no such answer touches the state.
-/
namespace Sentry

open Support

/-- The state shared by the two brokers. -/
structure LocalBroker where
  ledger : ShadowLedger
  recordedCommands : Dict UUID BrokerCommandIntent := .empty
  commandIdempotency : Dict String UUID := .empty
  stateDirty : Bool := false

/-- The outside's answers to one call. A recorder that is not configured is `none`. -/
structure Outside where
  validateCommand : Except Exc Unit := .ok ()
  firewall : Except Exc Unit := .ok ()
  commandRecorder : Option (Except Exc Unit) := none
  stateRecorder : Option (Except Exc Unit) := none
  /-- What follows the local part of a shadow review. -/
  observedReview : Except Exc Unit := .ok ()

/-- The exception of a ledger operation, if it raised one. -/
def ShadowLedger.Answer.raised? : ShadowLedger.Answer → Option Exc
  | .deposit r => raised r
  | .review _ => none
  | .order r => raised r
  | .fills r => raised r
  | .expiration r => raised r

namespace LocalBroker

variable (D : Decimal.Context) (cfg : LedgerConfig)

/-- A newly constructed broker. -/
def fresh : LocalBroker := { ledger := .fresh cfg }

/-- `recorded_command_intents`. -/
def recordedCommandIntents (b : LocalBroker) : List BrokerCommandIntent := b.recordedCommands.values

def exportState (now : Time) (b : LocalBroker) : Except Exc LedgerSnapshot :=
  b.ledger.exportState cfg now b.recordedCommandIntents

/-- Persistence must succeed before the adapter considers the intent recorded. -/
def recordBrokerCommandIntent (out : Outside) (command : BrokerCommandIntent) (b : LocalBroker) :
    Except Exc Unit × LocalBroker :=
  match b.recordedCommands.get? command.commandIntentId with
  | some existing =>
    if existing.commandHash cfg.hashing ≠ command.commandHash cfg.hashing then
      (.error (.safetyCritical "command intent ID was reused with different content"), b)
    else (.ok (), b)
  | none =>
    match b.commandIdempotency.get? command.idempotencyKey with
    | some existingId =>
      match b.recordedCommands.get? existingId with
      | none => (.error (.unlisted "KeyError"), b)
      | some other =>
        if other.commandHash cfg.hashing ≠ command.commandHash cfg.hashing then
          (.error (.safetyCritical "broker idempotency key was reused for a different command"), b)
        else (.ok (), b)
    | none =>
      match out.commandRecorder with
      | some (.error e) => (.error e, b)
      | _ =>
        (.ok (), { b with
          recordedCommands := b.recordedCommands.set command.commandIntentId command
          commandIdempotency :=
            b.commandIdempotency.set command.idempotencyKey command.commandIntentId })

/-- `_persist_state`: dirty from before the recorder is called until it returns. -/
def persistState (now : Time) (out : Outside) (b : LocalBroker) : Except Exc Unit × LocalBroker :=
  match out.stateRecorder with
  | none => (.ok (), b)
  | some outcome =>
    match b.exportState cfg now with
    | .error e => (.error e, { b with stateDirty := true })
    | .ok _ =>
      match outcome with
      | .error e => (.error e, { b with stateDirty := true })
      | .ok () => (.ok (), { b with stateDirty := false })

/-- A ledger operation followed by the persistence of its outcome; an operation
that raises is not persisted. -/
def applyToLedger (now : Time) (out : Outside) (op : ShadowLedger.Op) (b : LocalBroker) :
    Except Exc ShadowLedger.Answer × LocalBroker :=
  let (answer, ledger) := b.ledger.perform D cfg now op
  let b := { b with ledger := ledger }
  match answer.raised? with
  | some e => (.error e, b)
  | none =>
    match persistState cfg now out b with
    | (.error e, b) => (.error e, b)
    | (.ok (), b) => (.ok answer, b)

/-- Record the command, then apply its ledger operation. -/
def recordAndApply (now : Time) (out : Outside) (command : BrokerCommandIntent)
    (op : ShadowLedger.Op) (b : LocalBroker) : Except Exc ShadowLedger.Answer × LocalBroker :=
  match recordBrokerCommandIntent cfg out command b with
  | (.error e, b) => (.error e, b)
  | (.ok (), b) => applyToLedger D cfg now out op b

/-- A call on either broker that takes its lock. -/
inductive Call where
  | review (ids : FreshIds) (proposal : TradeProposal)
  | place (command : BrokerCommandIntent) (contract : OptionContract)
  | cancel (command : BrokerCommandIntent) (ref : OrderRef)
  | consumeQuote (ids : FreshIds) (quote : OptionQuote)
  | deposit (amount : ℚ) (reference : String)
  | processExpirations (onDate : Option Date) (policy : ExpirationPolicy)
      (settlements : Dict String ℚ)
  | flushState

/-- The ledger operation a call comes to. -/
def Call.op? : Call → Option ShadowLedger.Op
  | .review ids proposal => some (.review ids proposal)
  | .place command contract => some (.submit command contract)
  | .cancel command ref => some (.cancel command ref)
  | .consumeQuote ids quote => some (.observeQuote ids quote)
  | .deposit amount reference => some (.deposit amount reference)
  | .processExpirations onDate policy settlements => some (.expire onDate policy settlements)
  | .flushState => none

/-- The command a call carries, if any. -/
def Call.command? : Call → Option BrokerCommandIntent
  | .place command _ | .cancel command _ => some command
  | _ => none

/-- What is asked of either broker: a call, or to record a command, which is public too. -/
inductive Request where
  | call (c : Call)
  | record (command : BrokerCommandIntent)

def Request.op? : Request → Option ShadowLedger.Op
  | .call c => c.op?
  | .record _ => none

def Request.command? : Request → Option BrokerCommandIntent
  | .call c => c.command?
  | .record command => some command

/-- Refuse to work on a state that was not persisted. -/
def ensureClean (text : String) (b : LocalBroker)
    (work : LocalBroker → Except Exc ShadowLedger.Answer × LocalBroker) :
    Except Exc ShadowLedger.Answer × LocalBroker :=
  if b.stateDirty then (.error (.safetyCritical text), b) else work b

/-- Forget the answer of a call, keep whether it raised. -/
def settle (outcome : Except Exc ShadowLedger.Answer × LocalBroker) :
    Except Exc Unit × LocalBroker :=
  (outcome.1.map fun _ => (), outcome.2)

end LocalBroker

open LocalBroker

/-! ### The simulated broker -/

namespace SimulatedBroker

variable (D : Decimal.Context) (cfg : LedgerConfig)

def dirtyText : String := "simulated ledger has an unpersisted mutation"

def call (now : Time) (out : Outside) (c : Call) (b : LocalBroker) :
    Except Exc Unit × LocalBroker :=
  match c with
  | .review ids proposal =>
    settle (ensureClean dirtyText b (applyToLedger D cfg now out (.review ids proposal)))
  | .place command contract =>
    match out.validateCommand with
    | .error e => (.error e, b)
    | .ok () =>
      settle (ensureClean dirtyText b
        (recordAndApply D cfg now out command (.submit command contract)))
  | .cancel command ref =>
    match out.validateCommand with
    | .error e => (.error e, b)
    | .ok () =>
      settle (ensureClean dirtyText b (recordAndApply D cfg now out command (.cancel command ref)))
  | .consumeQuote ids quote =>
    settle (ensureClean dirtyText b (applyToLedger D cfg now out (.observeQuote ids quote)))
  | .deposit amount reference =>
    settle (ensureClean dirtyText b (applyToLedger D cfg now out (.deposit amount reference)))
  | .processExpirations onDate policy settlements =>
    settle (ensureClean dirtyText b
      (applyToLedger D cfg now out (.expire onDate policy settlements)))
  | .flushState => persistState cfg now out b

def request (now : Time) (out : Outside) (r : Request) (b : LocalBroker) :
    Except Exc Unit × LocalBroker :=
  match r with
  | .call c => call D cfg now out c b
  | .record command => recordBrokerCommandIntent cfg out command b

def run (requests : List (Time × Outside × Request)) (b : LocalBroker) : LocalBroker :=
  requests.foldl (fun b step => (request D cfg step.1 step.2.1 step.2.2 b).2) b

/-- The constructor with an initial state. -/
def restore (now : Time) (snapshot : LedgerSnapshot) : Except Exc LocalBroker :=
  match ShadowLedger.restoreState D cfg now snapshot (.fresh cfg) with
  | (.error e, _) => .error e
  | (.ok (), ledger) =>
    let commands := Dict.ofPairs (snapshot.recordedCommands.map fun c => (c.commandIntentId, c))
    let keys := Dict.ofPairs
      (snapshot.recordedCommands.map fun c => (c.idempotencyKey, c.commandIntentId))
    if commands.entries.length ≠ snapshot.recordedCommands.length ∨
        keys.entries.length ≠ snapshot.recordedCommands.length then
      .error (.safetyCritical "restored broker contains duplicate command identities")
    else .ok { ledger := ledger, recordedCommands := commands, commandIdempotency := keys }

end SimulatedBroker

/-! ### The shadow broker -/

namespace RobinhoodShadowBroker

variable (D : Decimal.Context) (cfg : LedgerConfig)

def dirtyText : String := "shadow ledger has an unpersisted mutation"

/-- `_begin_mutation`. -/
def beginMutation (out : Outside) (b : LocalBroker) : LocalBroker :=
  if out.stateRecorder.isSome then { b with stateDirty := true } else b

/-- `_deny_write`: the binding check, then the firewall. -/
def denyWrite (out : Outside) (command : BrokerCommandIntent) : Except Exc Unit :=
  if command.environment ≠ .demo ∨ command.namespace_ ≠ cfg.namespace_ then
    .error (.safetyCritical "shadow command does not match the immutable runtime binding")
  else out.firewall

/-- The common body of a placement and a cancellation. -/
def write (now : Time) (out : Outside) (command : BrokerCommandIntent) (op : ShadowLedger.Op)
    (b : LocalBroker) : Except Exc ShadowLedger.Answer × LocalBroker :=
  match denyWrite cfg out command with
  | .error e => (.error e, b)
  | .ok () => recordAndApply D cfg now out command op (beginMutation out b)

def call (now : Time) (out : Outside) (c : Call) (b : LocalBroker) :
    Except Exc Unit × LocalBroker :=
  match c with
  | .review ids proposal =>
    if proposal.environment ≠ .demo then
      (.error (.safetyCritical "broker-shadow received non-DEMO proposal"), b)
    else match settle (ensureClean dirtyText b fun b =>
        applyToLedger D cfg now out (.review ids proposal) (beginMutation out b)) with
      | (.error e, b) => (.error e, b)
      | (.ok (), b) => (out.observedReview, b)
  | .place command contract =>
    if command.action ≠ .placeOptionOrder then
      (.error (.safetyCritical "shadow placement received a non-placement command"), b)
    else match out.validateCommand with
      | .error e => (.error e, b)
      | .ok () => settle (ensureClean dirtyText b
          (write D cfg now out command (.submit command contract)))
  | .cancel command ref =>
    if command.action ≠ .cancelOptionOrder then
      (.error (.safetyCritical "shadow cancellation received a non-cancel command"), b)
    else match out.validateCommand with
      | .error e => (.error e, b)
      | .ok () => settle (ensureClean dirtyText b (write D cfg now out command (.cancel command ref)))
  | .consumeQuote ids quote =>
    settle (ensureClean dirtyText b fun b =>
      applyToLedger D cfg now out (.observeQuote ids quote) (beginMutation out b))
  | .deposit amount reference =>
    settle (ensureClean dirtyText b fun b =>
      applyToLedger D cfg now out (.deposit amount reference) (beginMutation out b))
  | .processExpirations onDate policy settlements =>
    settle (ensureClean dirtyText b fun b =>
      applyToLedger D cfg now out (.expire onDate policy settlements) (beginMutation out b))
  | .flushState => persistState cfg now out b

def request (now : Time) (out : Outside) (r : Request) (b : LocalBroker) :
    Except Exc Unit × LocalBroker :=
  match r with
  | .call c => call D cfg now out c b
  | .record command => recordBrokerCommandIntent cfg out command b

def run (requests : List (Time × Outside × Request)) (b : LocalBroker) : LocalBroker :=
  requests.foldl (fun b step => (request D cfg step.1 step.2.1 step.2.2 b).2) b

/-- The check of `_restore_commands` on one restored order. -/
def orderIssue (commands : Dict UUID BrokerCommandIntent) (snapshot : LedgerSnapshot)
    (item : LedgerOrder) : Option Exc :=
  match commands.get? item.command.commandIntentId with
  | none => some (.safetyCritical "restored shadow order lacks its exact recorded command")
  | some recorded =>
    if recorded.commandHash cfg.hashing ≠ item.command.commandHash cfg.hashing then
      some (.safetyCritical "restored shadow order lacks its exact recorded command")
    else if snapshot.idempotencyOrderIds.get? item.command.idempotencyKey ≠
        some item.published.orderId then
      some (.safetyCritical "restored shadow placement idempotency target differs")
    else none

/-- The check of `_restore_commands` on one idempotency key. -/
def keyIssue (commands : Dict UUID BrokerCommandIntent) (keys : Dict String UUID)
    (orders : Dict UUID LedgerOrder) (entry : String × UUID) : Option Exc :=
  match keys.get? entry.1 with
  | none => some (.safetyCritical "restored shadow idempotency key lacks its recorded command")
  | some commandId =>
    match commands.get? commandId, orders.get? entry.2 with
    | some command, some target =>
      if command.instrumentId ≠ target.published.contract.instrumentId then
        some (.safetyCritical "restored shadow command references a different instrument")
      else if command.action = .placeOptionOrder ∧
          command.commandHash cfg.hashing ≠ target.command.commandHash cfg.hashing then
        some (.safetyCritical "restored shadow placement command differs from its order")
      else none
    | _, _ => some (.unlisted "KeyError")

/-- `_restore_commands`. -/
def restoreCommands (snapshot : LedgerSnapshot) :
    Except Exc (Dict UUID BrokerCommandIntent × Dict String UUID) :=
  let commands := Dict.ofPairs (snapshot.recordedCommands.map fun c => (c.commandIntentId, c))
  let keys := Dict.ofPairs
    (snapshot.recordedCommands.map fun c => (c.idempotencyKey, c.commandIntentId))
  let orders := Dict.ofPairs (snapshot.orders.map fun item => (item.published.orderId, item))
  if commands.entries.length ≠ snapshot.recordedCommands.length ∨
      keys.entries.length ≠ commands.entries.length then
    .error (.safetyCritical "restored shadow broker contains duplicate command identities")
  else match snapshot.orders.findSome? (orderIssue cfg commands snapshot) with
    | some e => .error e
    | none =>
      match snapshot.idempotencyOrderIds.entries.findSome? (keyIssue cfg commands keys orders) with
      | some e => .error e
      | none => .ok (commands, keys)

/-- The constructor with an initial state. -/
def restore (now : Time) (snapshot : LedgerSnapshot) : Except Exc LocalBroker :=
  match ShadowLedger.restoreState D cfg now snapshot (.fresh cfg) with
  | (.error e, _) => .error e
  | (.ok (), ledger) =>
    match restoreCommands cfg snapshot with
    | .error e => .error e
    | .ok (commands, keys) =>
      .ok { ledger := ledger, recordedCommands := commands, commandIdempotency := keys }

end RobinhoodShadowBroker

end Sentry
