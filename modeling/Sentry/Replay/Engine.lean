import Mathlib.Data.Prod.Lex
import Mathlib.Data.String.Basic
import Sentry.Domain.Values
import Sentry.Market.Models
import Sentry.Support.Dict
import Sentry.Support.Ranking

/-!
# The causal replay engine

`app/replay/engine.py`: events are sorted by the time they become available, the virtual clock
moves to each of them, and a handler sees the events that were delivered so far. A context keeps
with it that nothing it holds is later than its clock. The steps of a run return the progress
made also where they raise, and they note every call of a handler with the context it found.
-/
namespace Sentry

open Support

inductive ReplayMode where
  | deterministicRegression | reasoning
  deriving DecidableEq

def ReplayMode.value : ReplayMode → String
  | .deterministicRegression => "deterministic_regression"
  | .reasoning => "reasoning"

/-- What the standard library makes of values. -/
structure ReplayRuntime where
  /-- `sha256_json`, which raises on what has no canonical form. -/
  sha256Json : AnyValue → Except Exc String
  /-- `str` of an aware UTC time. -/
  str : Time → String

structure ReplayEvent where
  eventId : String
  kind : String
  effectiveAt : Time
  availableAt : Time
  payload : AnyValue
  sequence : ℤ := 0
  named : eventId ≠ "" ∧ kind ≠ ""
  ordered : effectiveAt ≤ availableAt
  sequence_nonneg : 0 ≤ sequence

namespace ReplayEvent

/-- The constructor with `__post_init__`. -/
def build (eventId kind : String) (effectiveAt availableAt : Datetime) (payload : AnyValue)
    (sequence : ℤ) : Except Exc ReplayEvent :=
  if named : eventId ≠ "" ∧ kind ≠ "" then
    match effectiveAt with
    | .naive _ => .error (.valueError "effective_at must be timezone-aware")
    | .aware effective =>
      match availableAt with
      | .naive _ => .error (.valueError "available_at must be timezone-aware")
      | .aware available =>
        if ordered : effective ≤ available then
          if nonneg : 0 ≤ sequence then
            .ok ⟨eventId, kind, effective, available, payload, sequence, named, ordered, nonneg⟩
          else .error (.valueError "sequence cannot be negative")
        else .error (.valueError "an observation cannot be available before it is effective")
  else .error (.valueError "replay events require an id and kind")

def causalKey (event : ReplayEvent) : Time ×ₗ ℤ ×ₗ Time ×ₗ String :=
  toLex (event.availableAt, toLex (event.sequence, toLex (event.effectiveAt, event.eventId)))

/-- A text as a value. -/
def textValue (content : String) : AnyValue := .scalar (.str content)

def contentHash (rt : ReplayRuntime) (event : ReplayEvent) : Except Exc String :=
  let time (at_ : Time) : AnyValue := .scalar (.object "datetime" (rt.str at_))
  rt.sha256Json (.mapping
    [(.str "event_id", textValue event.eventId), (.str "kind", textValue event.kind),
      (.str "effective_at", time event.effectiveAt), (.str "available_at", time event.availableAt),
      (.str "payload", event.payload), (.str "sequence", .scalar (.int event.sequence))])

end ReplayEvent

/-! ### The context -/

/-- The clock, the events in the order in which they were delivered, and the same by kind. -/
structure CausalReplayContext where
  now : Time
  observed : List ReplayEvent
  byKind : Dict String (List ReplayEvent)
  available : ∀ event ∈ observed, event.availableAt ≤ now
  indexed : ∀ kind, (byKind.get? kind).getD [] = observed.filter fun event => event.kind == kind

namespace CausalReplayContext

variable (context : CausalReplayContext)

/-- A context around a clock. -/
def fresh (now : Time) : CausalReplayContext where
  now := now
  observed := []
  byKind := .empty
  available := by simp
  indexed := by simp

theorem available_later {target : Time} (forward : ¬ target < context.now) :
    ∀ event ∈ context.observed, event.availableAt ≤ target :=
  fun event listed => (context.available event listed).trans (not_lt.mp forward)

/-- `VirtualClock.advance_to`. -/
def advanceTo (target : Time) : Except Exc CausalReplayContext :=
  if backward : target < context.now then .error (.valueError "clock cannot move backward")
  else .ok { context with now := target, available := context.available_later backward }

theorem available_concat {event : ReplayEvent} (present : ¬ context.now < event.availableAt) :
    ∀ other ∈ context.observed ++ [event], other.availableAt ≤ context.now := by
  intro other listed
  rcases List.mem_append.mp listed with before | here
  · exact context.available other before
  · rw [List.mem_singleton.mp here]
    exact not_lt.mp present

/-- `self._by_kind[event.kind].append(event)`. -/
def index (event : ReplayEvent) : Dict String (List ReplayEvent) :=
  context.byKind.set event.kind ((context.byKind.get? event.kind).getD [] ++ [event])

theorem indexed_concat (event : ReplayEvent) (kind : String) :
    ((context.index event).get? kind).getD [] =
      (context.observed ++ [event]).filter fun other => other.kind == kind := by
  rw [List.filter_append, ← context.indexed kind, index, Dict.get?_set]
  by_cases same : event.kind = kind
  · simp [same]
  · simp [same]

def observe (event : ReplayEvent) : Except Exc CausalReplayContext :=
  if future : context.now < event.availableAt then
    .error (.valueError "future event cannot enter the causal replay view")
  else if context.observed.any fun existing => existing.eventId == event.eventId then
    .error (.valueError ("duplicate replay event id: " ++ event.eventId))
  else
    .ok
      { now := context.now
        observed := context.observed ++ [event]
        byKind := context.index event
        available := context.available_concat future
        indexed := context.indexed_concat event }

/-- What a handler can see. -/
def events (kind : Option String) : List ReplayEvent :=
  let values := match kind with
    | none => context.observed
    | some kind => (context.byKind.get? kind).getD []
  values.filter fun event => decide (event.availableAt ≤ context.now)

def latest (kind : String) : Option ReplayEvent := (context.events (some kind)).getLast?

def requireVisible (eventId : String) : Except Exc ReplayEvent :=
  match (context.events none).find? fun event => event.eventId == eventId with
  | some event => .ok event
  | none => .error (.unlisted ("event is not causally visible: " ++ eventId))

/-- Everything of a kind that was delivered is visible. -/
theorem events_eq (kind : Option String) :
    context.events kind = context.observed.filter fun event => kind.all (event.kind == ·) := by
  cases kind with
  | none =>
    simp only [events, Option.all_none]
    exact List.filter_congr fun event listed => by simpa using context.available event listed
  | some kind =>
    simp only [events, context.indexed kind, Option.all_some, List.filter_filter]
    exact List.filter_congr fun event listed => by simp [context.available event listed]

end CausalReplayContext

/-! ### The engine -/

/-- A handler is a function of the event and the context. What it awaits is part of it. -/
abbrev ReplayHandler := ReplayEvent → CausalReplayContext → Except Exc AnyValue

structure ReplayEngine where
  mode : ReplayMode
  strategyVersion : String
  configVersion : String
  handlers : Dict String ReplayHandler
  context : CausalReplayContext
  versioned : strategyVersion ≠ "" ∧ configVersion ≠ ""

structure ReplayResult where
  mode : ReplayMode
  strategyVersion : String
  configVersion : String
  eventIds : List String
  outputHashes : List String
  replayHash : String
  startedAt : Time
  endedAt : Time

/-- How far a run has come. -/
structure Progress where
  context : CausalReplayContext
  outputs : List String := []
  /-- Every call of a handler, with the context as the handler found it. -/
  calls : List (ReplayEvent × CausalReplayContext) := []

/-- A run that is over. -/
structure ReplayRun where
  result : Except Exc ReplayResult
  context : CausalReplayContext
  calls : List (ReplayEvent × CausalReplayContext)

namespace ReplayEngine

variable (rt : ReplayRuntime) (engine : ReplayEngine)

/-- `handler(event, context)` and the hash of its value. -/
def output (handler : ReplayHandler) (event : ReplayEvent) (context : CausalReplayContext) :
    Except Exc String := do
  let value ← handler event context
  rt.sha256Json value

/-- One turn of the loop. -/
def deliver (event : ReplayEvent) (s : Progress) : Progress × Option Exc :=
  match s.context.advanceTo event.availableAt with
  | .error exc => (s, some exc)
  | .ok moved =>
    match moved.observe event with
    | .error exc => ({ s with context := moved }, some exc)
    | .ok context =>
      match engine.handlers.get? event.kind with
      | none => ({ s with context := context }, none)
      | some handler =>
        match output rt handler event context with
        | .error exc =>
          ({ s with context := context, calls := s.calls ++ [(event, context)] }, some exc)
        | .ok hash =>
          ({ context := context
             outputs := s.outputs ++ [hash]
             calls := s.calls ++ [(event, context)] }, none)

/-- The loop, which ends with the first turn that raises. -/
def loop : List ReplayEvent → Progress → Progress × Option Exc
  | [], s => (s, none)
  | event :: rest, s =>
    match deliver rt engine event s with
    | (s', some exc) => (s', some exc)
    | (s', none) => loop rest s'

/-- What is returned after the loop. -/
def result (ordered : List ReplayEvent) (started : Time) (s : Progress) :
    Except Exc ReplayResult := do
  let hashes ← ordered.mapM fun event => event.contentHash rt
  let texts (hashes : List String) : AnyValue := .list (hashes.map ReplayEvent.textValue)
  let replayHash ← rt.sha256Json (.mapping
    [(.str "mode", ReplayEvent.textValue engine.mode.value),
      (.str "strategy_version", ReplayEvent.textValue engine.strategyVersion),
      (.str "config_version", ReplayEvent.textValue engine.configVersion),
      (.str "events", texts hashes), (.str "outputs", texts s.outputs)])
  pure
    { mode := engine.mode
      strategyVersion := engine.strategyVersion
      configVersion := engine.configVersion
      eventIds := ordered.map ReplayEvent.eventId
      outputHashes := s.outputs
      replayHash := replayHash
      startedAt := started
      endedAt := s.context.now }

def run (events : List ReplayEvent) : ReplayRun :=
  let ordered := ranking ReplayEvent.causalKey events
  if ¬ (ordered.map ReplayEvent.eventId).Nodup then
    ⟨.error (.valueError "replay event ids must be unique"), engine.context, []⟩
  else if ordered.head?.any fun event => decide (event.availableAt < engine.context.now) then
    ⟨.error (.valueError "replay cannot move the virtual clock backward"), engine.context, []⟩
  else
    match loop rt engine ordered { context := engine.context } with
    | (s, some exc) => ⟨.error exc, s.context, s.calls⟩
    | (s, none) => ⟨result rt engine ordered engine.context.now s, s.context, s.calls⟩

end ReplayEngine

end Sentry
