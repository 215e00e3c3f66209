import Sentry.Risk.Engine
import Sentry.Safety.RuntimeState
import Sentry.Support.Tasks

/-!
# What the execution service exchanges with its collaborators

The order state machine of `app/execution/state_machine.py`, the records that pass
between the service, its store and its broker, and the operations the service awaits.
Every method of a collaborator that is awaited is one operation; the collaborator may
answer it, fail, or be cut off by a cancellation.
-/
namespace Sentry

open Support

/-! ### The order state machine -/

namespace OrderStateMachine

def transitions : OrderState → List OrderState
  | .proposed => [.reviewed, .rejected]
  | .reviewed => [.approved, .rejected]
  | .approved => [.intentPersisted, .rejected]
  | .intentPersisted => [.submitting, .rejected]
  | .submitting => [.submissionUnknown, .open_, .partial_, .filled, .canceled, .rejected]
  | .submissionUnknown => [.open_, .partial_, .filled, .canceled, .rejected, .expired]
  | .open_ => [.partial_, .filled, .canceled, .expired]
  | .partial_ => [.partial_, .filled, .canceled, .expired]
  | .filled | .canceled | .rejected | .expired => []

def canTransition (current target : OrderState) (reconciliationEvidence : Bool := false) : Bool :=
  if current = .submissionUnknown ∧ !reconciliationEvidence then false
  else (transitions current).contains target

def transition (current target : OrderState) (reconciliationEvidence : Bool := false) :
    Except Exc OrderState :=
  if canTransition current target reconciliationEvidence then .ok target
  else
    let suffix := if current = .submissionUnknown then " without reconciliation evidence" else ""
    .error (.invalidOrderTransition
      ("invalid order transition " ++ current.value ++ "->" ++ target.value ++ suffix))

end OrderStateMachine

/-! ### Records -/

structure StateTransitionRecord where
  intentId : UUID
  previous : OrderState
  current : OrderState
  reason : String
  recordedAt : Time
  reconciliationEvidence : Bool := false
  deriving DecidableEq

structure ReconciliationReport where
  environment : ExecutionEnvironment
  reconciledAt : Time
  successful : Bool
  observedAccount : AccountSnapshot
  effectiveAccount : AccountSnapshot
  positionCount : Nat
  openOrderCount : Nat
  discrepancies : List String := []
  details : Json := .obj []

structure CapabilityDescriptor where
  capability : String
  toolName : String
  schemaVersion : String
  schemaHash : String
  sideEffectFree : Bool
  inputSchema : Json := .obj []
  available : Bool := true

structure BrokerCapabilities where
  descriptors : List CapabilityDescriptor := []
  cancelOptionOrders : Bool := false
  externalWritesEnabled : Bool := false
  executionReady : Bool := false

def BrokerCapabilities.descriptorFor (c : BrokerCapabilities) (capability : String) :
    Option CapabilityDescriptor :=
  c.descriptors.find? fun descriptor => descriptor.capability == capability && descriptor.available

def BrokerCapabilities.descriptorForAction (c : BrokerCapabilities) (action : BrokerAction) :
    Option CapabilityDescriptor := c.descriptorFor action.value

/-- `model_copy(update={"state": …})`. -/
def BrokerOrder.withState (order : BrokerOrder) (state : OrderState) : BrokerOrder :=
  { order with state }

@[simp] theorem BrokerOrder.withState_state (order : BrokerOrder) (state : OrderState) :
    (order.withState state).state = state := rfl

@[simp] theorem BrokerOrder.withState_intentId (order : BrokerOrder) (state : OrderState) :
    (order.withState state).intentId = order.intentId := rfl

/-- A blocked command is never transmitted. -/
structure FirewallDecision where
  createdAt : Time
  commandIntentId : UUID
  environment : ExecutionEnvironment
  disposition : FirewallDisposition
  reason : String
  transmitted : Bool
  blocked_untransmitted : disposition ≠ .authorizedLive → transmitted = false := by simp

/-- A member of a document, if it is an object that has one. A repeated name means the
last member, as in a parsed mapping. -/
def Json.member (name : String) : Json → Option Json
  | .obj members => (members.reverse.find? fun entry => entry.1 == name).map Prod.snd
  | _ => none

def Json.isTrue : Json → Bool
  | .bool b => b
  | _ => false

/-- What a tool of the broker returns: a parsed document, or an object of the client
library that is read through its attributes. -/
inductive ToolResult where
  | json (value : Json)
  | object (attributes : List (String × Json))

/-- Whether a list of a document holds a text. -/
def Json.lists (key : String) : Json → Bool
  | .arr items => items.any fun item => match item with
    | .str s => s == key
    | _ => false
  | _ => false

/-! ### Operations -/

inductive Op where
  -- the execution store
  | findIntentByFingerprint (fingerprint : String)
  | getOrder (intentId : UUID)
  | getOrderIntent (intentId : UUID)
  | getCommandForOrderIntent (intentId : UUID)
  | saveReconciliation (report : ReconciliationReport)
  | saveRiskDecision (decision : RiskDecision)
  | saveReview (review : BrokerReview)
  | saveOrderIntent (intent : OrderIntent)
  | saveCommandIntent (command : BrokerCommandIntent)
  | saveOrder (order : BrokerOrder)
  | recordTransition (record : StateTransitionRecord)
  | recordNegativeReconciliation (intentId : UUID)
  -- the broker and its quotes
  | getEffectiveExecutionAccountState
  | getObservedBrokerAccountState
  | reconcile
  | getCapabilities
  | getOrders
  | getOptionQuote (instrumentId : String)
  | reviewOptionOrder (proposal : TradeProposal)
  | placeOptionOrder (command : BrokerCommandIntent) (contract : OptionContract)
  | cancelOptionOrder (command : BrokerCommandIntent) (orderId : String)
  -- the collaborators of the live adapter
  | validateCommand (command : BrokerCommandIntent)
  | recordCommand (command : BrokerCommandIntent)
  | authorize (command : BrokerCommandIntent)
  | callTool (name : String) (arguments : Json)

/-- What each operation returns when it does not fail. -/
abbrev Ans : Op → Type
  | .findIntentByFingerprint _ | .getOrderIntent _ => Option OrderIntent
  | .getOrder _ => Option BrokerOrder
  | .getCommandForOrderIntent _ => Option BrokerCommandIntent
  | .saveReconciliation _ | .saveRiskDecision _ | .saveReview _ | .saveOrderIntent _
  | .saveCommandIntent _ | .saveOrder _ | .recordTransition _
  | .recordNegativeReconciliation _ | .recordCommand _ => Unit
  | .getEffectiveExecutionAccountState | .getObservedBrokerAccountState => AccountSnapshot
  | .reconcile => ReconciliationReport
  | .getCapabilities => BrokerCapabilities
  | .getOrders => List BrokerOrder
  | .getOptionQuote _ => OptionQuote
  | .reviewOptionOrder _ => BrokerReview
  | .placeOptionOrder _ _ | .cancelOptionOrder _ _ => BrokerOrder
  | .validateCommand _ => Json
  | .callTool _ _ => ToolResult
  | .authorize _ => FirewallDecision

/-- What a service can observe and change between two awaits: the injected callables, the
clock, its safety controller, its process-local latch and the state of its broker adapter. -/
structure Ambient (B : Type) where
  tradingMode : TradingMode
  killSwitchActive : Bool
  healthy : Bool
  now : Time
  safety : SafetyController
  interruptedWriteIntents : List UUID
  broker : B

abbrev Program (B α : Type) := Coroutine (Ambient B) Exc Ans α

abbrev History := List (Done Exc Ans)

/-- Await a collaborator. -/
abbrev ask {B : Type} (op : Op) : Program B (Ans op) := Coroutine.call op

namespace Ambient

variable {B : Type}

def stop (reason : String) (g : Ambient B) : Ambient B :=
  { g with safety := g.safety.emergencyStop reason }

def latch (intentId : UUID) (g : Ambient B) : Ambient B :=
  { g with interruptedWriteIntents := g.interruptedWriteIntents ++ [intentId] }

/-- Update the state of the broker. -/
def adapt (f : B → B) (g : Ambient B) : Ambient B := { g with broker := f g.broker }

end Ambient

end Sentry
